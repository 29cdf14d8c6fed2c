import Mathlib

/- Byte buffers of a fixed length. An access outside the buffer has no result:
   the C program it stands for would read or write memory it does not own. -/
namespace ByteBuffer
open List

abbrev Bytes := List UInt8

def calloc (size : Nat) : Bytes := List.replicate size 0

def memcpy (buf : Bytes) (off : Nat) (data : Bytes) : Option Bytes :=
  if off + data.length ≤ buf.length then
    some (buf.take off ++ data ++ buf.drop (off + data.length))
  else none

def slice (buf : Bytes) (off size : Nat) : Option Bytes :=
  if off + size ≤ buf.length then some ((buf.drop off).take size) else none

def le32 (x : UInt32) : Bytes :=
  [UInt8.ofNat x.toNat, UInt8.ofNat (x.toNat / 2 ^ 8), UInt8.ofNat (x.toNat / 2 ^ 16),
    UInt8.ofNat (x.toNat / 2 ^ 24)]

def readLe32 : Bytes → Option UInt32
  | [a, b, c, d] => some (UInt32.ofNat
      (a.toNat + b.toNat * 2 ^ 8 + c.toNat * 2 ^ 16 + d.toNat * 2 ^ 24))
  | _ => none

def readBe32 : Bytes → Option UInt32
  | a :: b :: c :: d :: _ => some (UInt32.ofNat
      (a.toNat * 2 ^ 24 + b.toNat * 2 ^ 16 + c.toNat * 2 ^ 8 + d.toNat))
  | _ => none

def wordAt (buf : Bytes) (off : Nat) : Option UInt32 := (slice buf off 4).bind readLe32

theorem calloc_add (a b : Nat) : calloc (a + b) = calloc a ++ calloc b := by
  simp [calloc, replicate_append_replicate]

@[simp] theorem calloc_length (n : Nat) : (calloc n).length = n := by simp [calloc]

@[simp] theorem le32_length (x : UInt32) : (le32 x).length = 4 := rfl

theorem readLe32_le32 (x : UInt32) : readLe32 (le32 x) = some x := by
  have bound := x.toNat_lt
  simp only [le32, readLe32, UInt8.toNat_ofNat', Option.some.injEq]
  apply UInt32.toNat.inj
  rw [UInt32.toNat_ofNat']
  omega

@[simp] theorem memcpy_length {buf data out : Bytes} {off : Nat}
    (run : memcpy buf off data = some out) : out.length = buf.length := by
  unfold memcpy at run
  split at run
  · cases run
    simp only [length_append, length_take, length_drop]
    omega
  · cases run

theorem memcpy_bounds {buf data out : Bytes} {off : Nat}
    (run : memcpy buf off data = some out) : off + data.length ≤ buf.length := by
  unfold memcpy at run
  split at run
  · assumption
  · cases run

theorem memcpy_append (done data old rest : Bytes) (same : data.length = old.length) :
    memcpy (done ++ old ++ rest) done.length data = some (done ++ data ++ rest) := by
  rw [memcpy, if_pos (by simp [same])]
  simp [same]

theorem slice_append (before data after : Bytes) :
    slice (before ++ data ++ after) before.length data.length = some data := by
  rw [slice, if_pos (by simp)]
  simp

theorem slice_some {buf part : Bytes} {off size : Nat} (found : slice buf off size = some part) :
    off + size ≤ buf.length ∧ part = (buf.drop off).take size := by
  unfold slice at found
  split at found
  · cases found
    exact ⟨by assumption, rfl⟩
  · cases found

theorem slice_left (front back : Bytes) (off size : Nat) (inside : off + size ≤ front.length) :
    slice (front ++ back) off size = slice front off size := by
  rw [slice, slice, if_pos (by simp; omega), if_pos inside]
  rw [drop_append_of_le_length (by omega), take_append_of_le_length (by simp; omega)]

theorem slice_right (front back : Bytes) (off size : Nat) :
    slice (front ++ back) (front.length + off) size = slice back off size := by
  have sum : front.length + off + size ≤ (front ++ back).length ↔ off + size ≤ back.length := by
    simp; omega
  by_cases inside : off + size ≤ back.length
  · rw [slice, slice, if_pos (sum.mpr inside), if_pos inside, drop_append,
      drop_eq_nil_of_le (by omega)]
    simp
  · rw [slice, slice, if_neg (fun h => inside (sum.mp h)), if_neg inside]

theorem slice_behind {front : Bytes} {place : Nat} (here : front.length = place)
    (back : Bytes) (off size : Nat) :
    slice (front ++ back) (place + off) size = slice back off size := by
  rw [← here, slice_right]

theorem slice_join {buf x y : Bytes} {off a b : Nat} (first : slice buf off a = some x)
    (second : slice buf (off + a) b = some y) : slice buf off (a + b) = some (x ++ y) := by
  obtain ⟨_, rfl⟩ := slice_some first
  obtain ⟨bound, rfl⟩ := slice_some second
  rw [slice, if_pos (by omega), take_add, drop_drop]

/-- Bytes that repeat themselves at a distance, with only zeros behind them, are zeros. -/
theorem zeros_of_shift (data : Bytes) (d : Nat) (positive : 0 < d)
    (same : slice (data ++ calloc d) d data.length = some data) : ∀ b ∈ data, b = 0 := by
  obtain ⟨_, shifted⟩ := slice_some same
  have zero : ∀ m x, data.length - x = m → ∀ b, data[x]? = some b → b = 0 := by
    intro m
    induction m using Nat.strongRecOn with
    | ind m ih =>
      intro x distance b found
      have inside : x < data.length := (List.getElem?_eq_some_iff.mp found).1
      have moved : (data ++ calloc d)[d + x]? = some b := by
        rw [shifted, List.getElem?_take_of_lt inside, List.getElem?_drop] at found
        exact found
      by_cases again : d + x < data.length
      · rw [getElem?_append_left again] at moved
        exact ih _ (by omega) (d + x) rfl b moved
      · rw [List.getElem?_append_right (by omega)] at moved
        obtain ⟨_, rfl⟩ := List.getElem?_eq_some_iff.mp moved
        simp [calloc]
  intro b member
  obtain ⟨x, found⟩ := mem_iff_getElem?.mp member
  exact zero _ x rfl b found

end ByteBuffer
