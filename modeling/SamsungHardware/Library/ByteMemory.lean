import Mathlib

/- Memory as a function of the byte offset, for buffers that are large enough by
   assumption; what a program writes is described by the range it fills. -/
namespace ByteMemory
open Option List

abbrev Memory := Nat → UInt8

def memcpy (dst : Memory) (d : Nat) (src : Memory) (s n : Nat) : Memory :=
  fun a => if d ≤ a ∧ a < d + n then src (s + (a - d)) else dst a

def fill (lo hi : Nat) (f m : Memory) : Memory :=
  fun a => if lo ≤ a ∧ a < hi then f a else m a

theorem fill_empty (lo : Nat) (f m : Memory) : fill lo lo f m = m := by
  funext a
  rw [fill, if_neg (by omega)]

theorem fill_congr {lo hi : Nat} {f g : Memory} (same : ∀ a < hi, f a = g a) (m : Memory) :
    fill lo hi f m = fill lo hi g m := by
  funext a
  simp only [fill]
  by_cases inside : lo ≤ a ∧ a < hi
  · rw [if_pos inside, if_pos inside, same a inside.2]
  · rw [if_neg inside, if_neg inside]

theorem fill_append {lo mid hi : Nat} (first : lo ≤ mid) (second : mid ≤ hi) (f m : Memory) :
    fill mid hi f (fill lo mid f m) = fill lo hi f m := by
  funext a
  simp only [fill]
  by_cases below : a < mid
  · rw [if_neg (by omega)]
    by_cases inside : lo ≤ a
    · rw [if_pos (by omega), if_pos (by omega)]
    · rw [if_neg (by omega), if_neg (by omega)]
  · by_cases inside : a < hi
    · rw [if_pos (by omega), if_pos (by omega)]
    · rw [if_neg (by omega), if_neg (by omega), if_neg (by omega)]

theorem memcpy_fill {src f : Memory} {d s n : Nat} (same : ∀ t < n, f (d + t) = src (s + t))
    (m : Memory) : memcpy m d src s n = fill d (d + n) f m := by
  funext a
  simp only [memcpy, fill]
  by_cases inside : d ≤ a ∧ a < d + n
  · rw [if_pos inside, if_pos inside, ← same (a - d) (by omega)]
    congr 1
    omega
  · rw [if_neg inside, if_neg inside]

theorem memcpy_inside {dst src : Memory} {d s n t : Nat} (inside : t < n) :
    memcpy dst d src s n (d + t) = src (s + t) := by
  rw [memcpy, if_pos (by omega), Nat.add_sub_cancel_left]

theorem memcpy_outside {dst src : Memory} {d s n a : Nat} (outside : ∀ t < n, a ≠ d + t) :
    memcpy dst d src s n a = dst a := by
  rw [memcpy, if_neg]
  rintro ⟨low, high⟩
  exact outside (a - d) (by omega) (by omega)

def Holds (m : Memory) (p : Nat) (bytes : List UInt8) : Prop :=
  ∀ i byte, bytes[i]? = some byte → m (p + i) = byte

def write (m : Memory) (p : Nat) (bytes : List UInt8) : Memory :=
  fun a => if p ≤ a then (bytes[a - p]?).getD (m a) else m a

variable {m src : Memory} {p s : Nat} {first second : List UInt8}

theorem Holds.left (holds : Holds m p (first ++ second)) : Holds m p first := by
  intro i byte found
  exact holds i byte (List.getElem?_append_left (List.getElem?_eq_some_iff.mp found).1 ▸ found)

theorem Holds.right (holds : Holds m p (first ++ second)) : Holds m (p + first.length) second := by
  intro i byte found
  rw [Nat.add_assoc]
  apply holds
  rw [getElem?_append_right (Nat.le_add_right _ _), Nat.add_sub_cancel_left]
  exact found

theorem Holds.byte {bytes : List UInt8} {byte : UInt8} (holds : Holds m p (byte :: bytes)) : m p = byte :=
  holds 0 byte rfl

theorem Holds.take_at {bytes : List UInt8} {k i : Nat} (holds : Holds m p (bytes.take k)) (inside : i < k)
    (bound : k ≤ bytes.length) : bytes[i]? = some (m (p + i)) := by
  have found : bytes[i]? = some bytes[i] := getElem?_eq_getElem (by omega)
  rw [holds i bytes[i] (by rw [getElem?_take_of_lt inside]; exact found)]
  exact found

theorem write_nil : write m p [] = m := by
  funext a
  simp [write]

theorem write_append (m : Memory) (p : Nat) (first second : List UInt8) :
    write (write m p first) (p + first.length) second = write m p (first ++ second) := by
  funext a
  simp only [write]
  by_cases behind : p + first.length ≤ a
  · have start : p ≤ a := by omega
    have past : first.length ≤ a - p := by omega
    rw [if_pos behind, if_pos start, if_pos start, getElem?_append_right past,
      getElem?_eq_none past, getD_none, Nat.sub_add_eq]
  · rw [if_neg behind]
    by_cases start : p ≤ a
    · rw [if_pos start, if_pos start, getElem?_append_left (by omega)]
    · rw [if_neg start, if_neg start]

theorem write_at (m : Memory) {bytes : List UInt8} {i : Nat} {byte : UInt8}
    (found : bytes[i]? = some byte) : write m p bytes (p + i) = byte := by
  rw [write, if_pos (Nat.le_add_right p i), Nat.add_sub_cancel_left, found, getD_some]

theorem holds_write (m : Memory) (p : Nat) (bytes : List UInt8) : Holds (write m p bytes) p bytes :=
  fun _ _ found => write_at m found

theorem write_comm (m : Memory) {p q : Nat} {low high : List UInt8} (apart : p + low.length ≤ q) :
    write (write m q high) p low = write (write m p low) q high := by
  funext a
  simp only [write]
  by_cases behind : q ≤ a
  · have past : low.length ≤ a - p := by omega
    rw [if_pos behind, if_pos behind, getElem?_eq_none past, getD_none, ite_self,
      getD_none, ite_self]
  · rw [if_neg behind, if_neg behind]

/-- Two cursors that advance in turn, the second one behind all that the first one writes. -/
theorem write_two_cursors (m : Memory) {p q : Nat} (low high lows highs : List UInt8)
    (apart : p + low.length + lows.length ≤ q) :
    write (write (write (write m p low) q high) (p + low.length) lows) (q + high.length) highs =
      write (write m p (low ++ lows)) q (high ++ highs) := by
  rw [write_comm _ apart, write_append, write_append]

def bytesAt (m : Memory) (p n : Nat) : List UInt8 := (List.range n).map fun i => m (p + i)

@[simp] theorem bytesAt_length (m : Memory) (p n : Nat) : (bytesAt m p n).length = n := by
  simp [bytesAt]

theorem Holds.bytesAt_eq {bytes : List UInt8} (holds : Holds m p bytes) :
    bytesAt m p bytes.length = bytes := by
  apply ext_getElem
  · simp
  · intro i _ inside
    simp only [bytesAt, getElem_map, getElem_range]
    exact holds i bytes[i] (getElem?_eq_getElem inside)

theorem Holds.bytesAt_take {bytes : List UInt8} {k : Nat} (holds : Holds m p bytes)
    (inside : k ≤ bytes.length) : bytesAt m p k = bytes.take k := by
  rw [← take_append_drop k bytes] at holds
  have front := holds.left.bytesAt_eq
  rw [length_take_of_le inside] at front
  exact front

theorem memcpy_write {bytes : List UInt8} (m : Memory) (d : Nat) (holds : Holds src s bytes) :
    memcpy m d src s bytes.length = write m d bytes := by
  funext a
  rw [memcpy, write]
  by_cases start : d ≤ a
  · rw [if_pos start]
    by_cases inside : a < d + bytes.length
    · have found : bytes[a - d]? = some bytes[a - d] := getElem?_eq_getElem (by omega)
      rw [if_pos ⟨start, inside⟩, found, getD_some]
      exact holds _ _ found
    · rw [if_neg fun both => inside both.2, getElem?_eq_none (by omega), getD_none]
  · rw [if_neg start, if_neg fun both => start both.1]

end ByteMemory
