import SamsungHardware.Library.ByteMemory

/- `SplitFrame` of the camera: a frame is lines of a JPEG stream with video records between them, and
   the function sorts them into two buffers until it comes to the end of the stream. The memory behind
   the frame is read too, and may hold anything. -/
namespace SplitFrame
open ByteMemory List

section

structure Frame where
  pFrame : Memory
  (dwSize dwJPEGLineLength dwVideoLineLength : Nat)
  hasVideo : Bool

structure Split where
  (pSrc pJ dwJSize pV dwVSize : Nat)
  (jpeg video : Memory)
  isFinishJpeg : Bool

def videoCommentMarkerLength : Nat := 4

def checkVideoStartMarker (buf : Memory) (p : Nat) : Bool :=
  buf p == 0xFF && buf (p + 1) == 0xBE && buf (p + 2) == 0xFF && buf (p + 3) == 0xBF

def checkEOIMarker (buf : Memory) (p : Nat) : Bool := buf p == 0xFF && buf (p + 1) == 0xD9

/-- The answer, and how far the size was counted. -/
def findEOIMarkerInJPEG (buf : Memory) : Nat → Nat → Nat → Bool × Nat
  | _, 0, size => (false, size)
  | p, left + 1, size =>
    if checkEOIMarker buf p then (true, size) else findEOIMarkerInJPEG buf (p + 1) left (size + 1)

/-- A copy of a negative length has no result. -/
def copyVideo (f : Frame) (s : Split) : Option Split :=
  let copyLength : Int :=
    if s.pSrc + f.dwVideoLineLength ≤ f.dwSize then f.dwVideoLineLength
    else f.dwSize - s.pSrc - videoCommentMarkerLength
  let pSrc := (s.pSrc + copyLength + videoCommentMarkerLength).toNat
  if f.hasVideo then
    if copyLength < 0 then none
    else some { s with
      video := memcpy s.video s.pV f.pFrame (s.pSrc + videoCommentMarkerLength) copyLength.toNat
      pV := s.pV + copyLength.toNat
      dwVSize := s.dwVSize + copyLength.toNat
      pSrc := pSrc }
  else some { s with pSrc := pSrc }

def copyJpeg (f : Frame) (s : Split) : Split :=
  let dwCopyBufLen := min f.dwJPEGLineLength (f.dwSize - s.pSrc)
  let found := findEOIMarkerInJPEG f.pFrame s.pSrc dwCopyBufLen 0
  let size := if found.1 then found.2 + 2 else dwCopyBufLen
  { s with
    isFinishJpeg := found.1 ||
      (dwCopyBufLen == 1 && 0 < s.pJ && s.jpeg (s.pJ - 1) == 0xFF && f.pFrame s.pSrc == 0xD9)
    jpeg := memcpy s.jpeg s.pJ f.pFrame s.pSrc size
    dwJSize := s.dwJSize + size
    pJ := s.pJ + dwCopyBufLen
    pSrc := s.pSrc + dwCopyBufLen }

def sortPass (f : Frame) (s : Split) : Option Split :=
  if checkVideoStartMarker f.pFrame s.pSrc then copyVideo f s else some (copyJpeg f s)

def passes (f : Frame) : Nat → Split → Option Split
  | 0, s => some s
  | fuel + 1, s =>
    if s.pSrc < f.dwSize ∧ s.isFinishJpeg = false then (sortPass f s).bind (passes f fuel) else some s

structure Result where
  ret : Bool
  (dwJPEGSize dwVideoSize : Option Nat)
  (jpeg video : Memory)

/-- Every pass goes on by a byte at least, so there are not more of them than bytes. -/
def splitFrame (f : Frame) (jpeg video : Memory) : Option Result :=
  if f.dwSize = 0 then some ⟨false, none, none, jpeg, video⟩
  else if f.dwJPEGLineLength = 0 ∨ f.dwVideoLineLength = 0 then some ⟨false, none, none, jpeg, video⟩
  else (passes f f.dwSize ⟨0, 0, 0, 0, 0, jpeg, video, false⟩).map fun s =>
    if s.isFinishJpeg then ⟨true, some s.dwJSize, some s.dwVSize, s.jpeg, s.video⟩
    else ⟨false, some 0, some 0, s.jpeg, s.video⟩

variable {f : Frame} {s s' : Split}

theorem copyVideo_moves (inside : s.pSrc < f.dwSize) (video : 0 < f.dwVideoLineLength)
    (copied : copyVideo f s = some s') : s.pSrc < s'.pSrc := by
  unfold copyVideo videoCommentMarkerLength at copied
  dsimp only at copied
  split_ifs at copied <;> cases copied <;> dsimp only <;> omega

theorem pass_moves (inside : s.pSrc < f.dwSize) (jpeg : 0 < f.dwJPEGLineLength)
    (video : 0 < f.dwVideoLineLength) (passed : sortPass f s = some s') : s.pSrc < s'.pSrc := by
  unfold sortPass at passed
  split_ifs at passed
  · exact copyVideo_moves inside video passed
  · cases passed
    dsimp only [copyJpeg]
    omega

theorem passes_ends (jpeg : 0 < f.dwJPEGLineLength) (video : 0 < f.dwVideoLineLength) :
    ∀ (fuel : Nat) (s : Split), f.dwSize ≤ s.pSrc + fuel → passes f fuel s = some s' →
      f.dwSize ≤ s'.pSrc ∨ s'.isFinishJpeg = true := by
  intro fuel
  induction fuel with
  | zero =>
    intro s enough ends
    cases ends
    exact Or.inl enough
  | succ fuel ih =>
    intro s enough ends
    rw [passes] at ends
    split_ifs at ends with inside
    · obtain ⟨middle, passed, rest⟩ := Option.bind_eq_some_iff.mp ends
      have moved := pass_moves inside.1 jpeg video passed
      exact ih middle (by omega) rest
    · cases ends
      by_cases left : s'.pSrc < f.dwSize
      · exact Or.inr ((Bool.not_eq_false _).mp fun running => inside ⟨left, running⟩)
      · exact Or.inl (Nat.le_of_not_lt left)

end

section

def marker : List UInt8 := [0xFF, 0xBE, 0xFF, 0xBF]

def eoi : List UInt8 := [0xFF, 0xD9]

structure Stream (jpeg : List UInt8) : Prop where
  ends : eoi <:+ jpeg
  first : ¬ eoi <:+: jpeg.dropLast
  pure : ¬ marker <:+: jpeg

structure Piece where
  records : List (List UInt8)
  chunk : List UInt8

def Piece.bytes (piece : Piece) : List UInt8 :=
  piece.records.flatMap (marker ++ ·) ++ piece.chunk

structure Interleaved (jpegLine videoLine : Nat) where
  pieces : List Piece
  last : Piece
  trailing : List UInt8
  full : ∀ piece ∈ pieces, piece.chunk.length = jpegLine
  short : 0 < last.chunk.length ∧ last.chunk.length ≤ jpegLine
  records : ∀ piece ∈ pieces ++ [last], ∀ payload ∈ piece.records, payload.length = videoLine
  stream : Stream ((pieces ++ [last]).flatMap Piece.chunk)

variable {jpegLine videoLine : Nat} (frame : Interleaved jpegLine videoLine)

def Interleaved.jpeg : List UInt8 :=
  (frame.pieces ++ [frame.last]).flatMap Piece.chunk

def Interleaved.payloads : List UInt8 :=
  (frame.pieces ++ [frame.last]).flatMap fun piece => piece.records.flatten

def Interleaved.bytes (frame : Interleaved jpegLine videoLine) : List UInt8 :=
  (frame.pieces ++ [frame.last]).flatMap Piece.bytes ++ frame.trailing

def Interleaved.call (memory : Memory) : Frame :=
  ⟨memory, frame.bytes.length, jpegLine, videoLine, true⟩

def Interleaved.sorted (jpeg video : Memory) : Result :=
  ⟨true, some frame.jpeg.length, some frame.payloads.length, write jpeg 0 frame.jpeg,
    write video 0 frame.payloads⟩

/-- The two bytes of the end marker stand apart, with a record between them, and the frame goes on
    behind the second one. -/
def Interleaved.Severed : Prop :=
  2 ≤ jpegLine ∧ frame.last.chunk.length = 1 ∧ frame.last.records ≠ [] ∧ frame.trailing ≠ []

end

section

variable {jpeg before after : List UInt8}

theorem pair_inside {bytes : List UInt8} {a b : UInt8} {i : Nat} (first : bytes[i]? = some a)
    (second : bytes[i + 1]? = some b) : [a, b] <:+: bytes := by
  obtain ⟨bound, rfl⟩ := List.getElem?_eq_some_iff.mp first
  obtain ⟨bound', rfl⟩ := List.getElem?_eq_some_iff.mp second
  refine ⟨bytes.take i, bytes.drop (i + 2), ?_⟩
  simp

variable (stream : Stream (before ++ after))
include stream

theorem Stream.pure_at : ¬ marker <+: after := by
  intro here
  exact stream.pure (here.isInfix.trans (suffix_append before after).isInfix)

theorem Stream.eoi_at {i : Nat} (high : after[i]? = some 0xFF) (low : after[i + 1]? = some 0xD9) :
    i + 2 = after.length := by
  have bound := (List.getElem?_eq_some_iff.mp low).1
  by_contra other
  have some_left : after ≠ [] := by
    rintro rfl
    cases high
  apply stream.first
  rw [dropLast_append_of_ne_nil some_left]
  refine List.IsInfix.trans (pair_inside (i := i) ?_ ?_) (suffix_append before _).isInfix
  · rw [getElem?_dropLast, if_pos (by omega)]
    exact high
  · rw [getElem?_dropLast, if_pos (by omega)]
    exact low

omit stream in
theorem Stream.length (stream : Stream jpeg) : 2 ≤ jpeg.length := stream.ends.length_le

/-- A part at the end of the stream ends with the second byte of the marker. -/
theorem Stream.last_byte (some_left : after ≠ []) : after[after.length - 1]? = some 0xD9 := by
  obtain ⟨front, same⟩ := stream.ends
  have last : (before ++ after).getLast? = some 0xD9 := by
    rw [← same]
    exact getLast?_append_of_ne_nil _ (by decide)
  rw [getLast?_append_of_ne_nil _ some_left] at last
  rw [← getLast?_eq_getElem?]
  exact last

theorem Stream.last_pair (long : 2 ≤ after.length) : after[after.length - 2]? = some 0xFF := by
  have suffix : eoi <:+ after :=
    suffix_of_suffix_length_le stream.ends (suffix_append before after) long
  obtain ⟨front, rfl⟩ := suffix
  simp [eoi]

theorem Stream.byte_before (one : after.length = 1) :
    before[before.length - 1]? = some 0xFF ∧ 0 < before.length := by
  have whole := stream.length
  rw [length_append] at whole
  have all : Stream ([] ++ (before ++ after)) := stream
  have high := all.last_pair (by rw [length_append]; omega)
  rw [length_append, one, getElem?_append_left (by omega)] at high
  exact ⟨high, by omega⟩

end

section

variable {buf : Memory} {p : Nat}

theorem find_none {left : Nat} (size : Nat) (none : ∀ i < left, checkEOIMarker buf (p + i) = false) :
    findEOIMarkerInJPEG buf p left size = (false, size + left) := by
  induction left generalizing p size with
  | zero => rfl
  | succ left ih =>
    have here := none 0 (Nat.zero_lt_succ left)
    rw [Nat.add_zero] at here
    have later : ∀ i < left, checkEOIMarker buf (p + 1 + i) = false := by
      intro i inside
      have := none (i + 1) (Nat.succ_lt_succ inside)
      rwa [Nat.add_comm i 1, ← Nat.add_assoc] at this
    rw [findEOIMarkerInJPEG, here, ih (size + 1) later]
    simp only [Bool.false_eq_true, if_false]
    congr 1
    omega

theorem find_first {left i : Nat} (size : Nat) (inside : i < left)
    (none : ∀ j < i, checkEOIMarker buf (p + j) = false)
    (here : checkEOIMarker buf (p + i) = true) :
    findEOIMarkerInJPEG buf p left size = (true, size + i) := by
  induction i generalizing p left size with
  | zero =>
    obtain ⟨left, rfl⟩ := Nat.exists_eq_succ_of_ne_zero (Nat.ne_of_gt inside)
    exact if_pos here
  | succ i ih =>
    obtain ⟨left, rfl⟩ := Nat.exists_eq_succ_of_ne_zero (Nat.ne_of_gt (Nat.zero_lt_of_lt inside))
    have first := none 0 (Nat.zero_lt_succ i)
    rw [Nat.add_zero] at first
    have later : ∀ j < i, checkEOIMarker buf (p + 1 + j) = false := by
      intro j inside
      have := none (j + 1) (Nat.succ_lt_succ inside)
      rwa [Nat.add_comm j 1, ← Nat.add_assoc] at this
    have there : checkEOIMarker buf (p + 1 + i) = true := by
      rwa [Nat.add_comm i 1, ← Nat.add_assoc] at here
    rw [findEOIMarkerInJPEG, first, ih (size + 1) (Nat.lt_of_succ_lt_succ inside) later there]
    simp only [Bool.false_eq_true, if_false]
    congr 1
    omega

theorem checkEOIMarker_iff : checkEOIMarker buf p = true ↔ buf p = 0xFF ∧ buf (p + 1) = 0xD9 := by
  simp [checkEOIMarker]

theorem checkVideoStartMarker_iff : checkVideoStartMarker buf p = true ↔
    buf p = 0xFF ∧ buf (p + 1) = 0xBE ∧ buf (p + 2) = 0xFF ∧ buf (p + 3) = 0xBF := by
  simp [checkVideoStartMarker, and_assoc]

end

variable {mem : Memory} {n : Nat} {before chunk trailing : List UInt8} {rest : List Piece}

/-- From the start of a line the memory holds the stream up to its end or up to the next record. -/
theorem contiguous (holds : Holds mem n (chunk ++ rest.flatMap Piece.bytes ++ trailing)) :
    ∃ m, chunk.length ≤ m ∧ m ≤ (chunk ++ rest.flatMap Piece.chunk).length ∧
      Holds mem n ((chunk ++ rest.flatMap Piece.chunk).take m) ∧
      (m = (chunk ++ rest.flatMap Piece.chunk).length ∨ Holds mem (n + m) marker) := by
  induction rest generalizing chunk with
  | nil =>
    refine ⟨chunk.length, le_rfl, by simp, ?_, Or.inl (by simp)⟩
    simpa using holds.left.left
  | cons piece rest ih =>
    cases records : piece.records with
    | nil =>
      have bytes : piece.bytes = piece.chunk := by rw [Piece.bytes, records]; rfl
      rw [flatMap_cons, bytes, ← append_assoc chunk] at holds
      obtain ⟨m, covers, bound, there, ends⟩ := ih holds
      rw [append_assoc] at bound there ends
      rw [length_append] at covers
      exact ⟨m, by omega, bound, there, ends⟩
    | cons payload others =>
      refine ⟨chunk.length, le_rfl, by simp, ?_, Or.inr ?_⟩
      · rw [take_left]
        exact holds.left.left
      · have next := holds.left.right
        rw [flatMap_cons, Piece.bytes, records, flatMap_cons, append_assoc,
          append_assoc, append_assoc] at next
        exact next.left

variable (stream : Stream (before ++ (chunk ++ rest.flatMap Piece.chunk)))
  (holds : Holds mem n (chunk ++ rest.flatMap Piece.bytes ++ trailing))
include stream holds

theorem no_marker (some_bytes : 0 < chunk.length) :
    checkVideoStartMarker mem n = false := by
  obtain ⟨m, covers, bound, there, ends⟩ := contiguous holds
  rw [Bool.eq_false_iff, Ne, checkVideoStartMarker_iff]
  rintro ⟨first, second, third, fourth⟩
  generalize chunk ++ rest.flatMap Piece.chunk = after at *
  have byte : ∀ i < m, after[i]? = some (mem (n + i)) := fun i inside => there.take_at inside bound
  by_cases long : 4 ≤ m
  · -- the stream itself would contain the marker
    apply stream.pure_at
    have zero := byte 0 (by omega)
    have one := byte 1 (by omega)
    have two := byte 2 (by omega)
    have three := byte 3 (by omega)
    match after with
    | a :: b :: c :: d :: tail =>
      simp only [getElem?_cons_zero, getElem?_cons_succ, Option.some.injEq, Nat.add_zero,
        first, second, third, fourth] at zero one two three
      rw [zero, one, two, three]
      exact ⟨tail, rfl⟩
    | [] | [_] | [_, _] | [_, _, _] => simp at bound; omega
  · rcases ends with whole | record
    · -- the last byte of the stream is none of the marker
      have some_left : after ≠ [] := by
        rintro rfl
        simp at whole
        omega
      have last := stream.last_byte some_left
      rw [← whole, byte (m - 1) (by omega)] at last
      have few : m = 1 ∨ m = 2 ∨ m = 3 := by omega
      rcases few with rfl | rfl | rfl
      · rw [show n + (1 - 1) = n from rfl, first] at last
        cases last
      · rw [second] at last
        cases last
      · rw [third] at last
        cases last
    · -- a record cannot begin inside of what looks like a marker
      have few : m = 1 ∨ m = 2 ∨ m = 3 := by omega
      have start := record 0 _ rfl
      have behind := record 1 _ rfl
      rcases few with rfl | rfl | rfl
      · rw [second] at start
        cases start
      · rw [fourth] at behind
        cases behind
      · rw [fourth] at start
        cases start

/-- An end marker that is seen from inside a line is the one at the end of the stream. -/
theorem eoi_end {i : Nat}
    (inside : i < chunk.length) (found : checkEOIMarker mem (n + i) = true) :
    i + 2 = (chunk ++ rest.flatMap Piece.chunk).length := by
  obtain ⟨m, covers, bound, there, ends⟩ := contiguous holds
  obtain ⟨high, low⟩ := checkEOIMarker_iff.mp found
  generalize chunk ++ rest.flatMap Piece.chunk = after at *
  have byte : ∀ i < m, after[i]? = some (mem (n + i)) := fun i inside => there.take_at inside bound
  by_cases next : i + 1 < m
  · apply stream.eoi_at
    · rw [byte i (by omega), high]
    · rw [byte (i + 1) next]
      exact congrArg some low
  · have at_end : m = i + 1 := by omega
    rcases ends with whole | record
    · have some_left : after ≠ [] := by
        rintro rfl
        simp at whole
        omega
      have last := stream.last_byte some_left
      rw [← whole, at_end, Nat.add_sub_cancel, byte i (by omega), high] at last
      cases Option.some.inj last
    · have start := record 0 _ rfl
      rw [at_end, ← Nat.add_assoc, low] at start
      cases start

end SplitFrame
