import SamsungHardware.CameraFrames.SplitFrame

/- `SplitFrame` sorts a frame as it was built. The loop is followed from line to line: with each pass
   the two buffers hold a longer part of the stream and of the records. -/
namespace SortedFrames
open ByteMemory SplitFrame List Option Nat

section

variable {f : Frame} {n : Nat} {streamed chunk trailing : List UInt8} {rest : List Piece}
  (jpeg video : Memory)

def reached (n : Nat) (streamed copied : List UInt8) : Split :=
  ⟨n, streamed.length, streamed.length, copied.length, copied.length, write jpeg 0 streamed,
    write video 0 copied, false⟩

theorem reached_start : reached jpeg video 0 [] [] = ⟨0, 0, 0, 0, 0, jpeg, video, false⟩ := by
  simp only [reached, write_nil, length_nil]

theorem write_more (m : Memory) (first second : List UInt8) :
    write (write m 0 first) first.length second = write m 0 (first ++ second) := by
  have whole := write_append m 0 first second
  rwa [Nat.zero_add] at whole

theorem record_pass (streamed copied : List UInt8) {payload : List UInt8}
    (wanted : f.hasVideo = true) (holds : Holds f.pFrame n (marker ++ payload))
    (line : payload.length = f.dwVideoLineLength)
    (inside : n + (marker ++ payload).length ≤ f.dwSize) :
    sortPass f (reached jpeg video n streamed copied) =
      some (reached jpeg video (n + (marker ++ payload).length) streamed (copied ++ payload)) := by
  have length : (marker ++ payload).length = payload.length + 4 := by
    rfl
  rw [length] at inside ⊢
  have found : checkVideoStartMarker f.pFrame n = true :=
    checkVideoStartMarker_iff.mpr ⟨holds 0 _ rfl, holds 1 _ rfl, holds 2 _ rfl, holds 3 _ rfl⟩
  have bytes : Holds f.pFrame (n + 4) payload := holds.right
  have copy := memcpy_write (write video 0 copied) copied.length bytes
  rw [write_more] at copy
  have fits : n + f.dwVideoLineLength ≤ f.dwSize := by omega
  rw [sortPass, reached, if_pos found, copyVideo]
  rw [if_pos fits, if_pos wanted, if_neg (by omega), ← line]
  simp only [reached, videoCommentMarkerLength, Int.toNat_natCast, copy, length_append,
    some.injEq, Split.mk.injEq, and_true]
  omega

theorem chunk_pass (copied : List UInt8)
    (stream : Stream (streamed ++ (chunk ++ rest.flatMap Piece.chunk)))
    (holds : Holds f.pFrame n (chunk ++ rest.flatMap Piece.bytes ++ trailing))
    (line : chunk.length = f.dwJPEGLineLength) (some_bytes : 0 < chunk.length)
    (inside : n + chunk.length ≤ f.dwSize) (later : 0 < (rest.flatMap Piece.chunk).length)
    (parted : 2 ≤ (rest.flatMap Piece.chunk).length ∨ f.pFrame (n + chunk.length) ≠ 0xD9) :
    sortPass f (reached jpeg video n streamed copied) =
      some (reached jpeg video (n + chunk.length) (streamed ++ chunk) copied) := by
  have length : min f.dwJPEGLineLength (f.dwSize - n) = chunk.length := by omega
  have none : ∀ i < chunk.length, checkEOIMarker f.pFrame (n + i) = false := by
    intro i within
    rw [Bool.eq_false_iff]
    intro found
    have at_end := eoi_end stream holds within found
    rw [length_append] at at_end
    rcases parted with long | other
    · omega
    · apply other
      rw [show n + chunk.length = n + i + 1 by omega]
      exact (checkEOIMarker_iff.mp found).2
  have search := find_none 0 none
  have copy := memcpy_write (write jpeg 0 streamed) streamed.length holds.left.left
  rw [write_more] at copy
  -- a single byte would end the stream only as its last one
  have single : (chunk.length == 1 && decide (0 < streamed.length) &&
      write jpeg 0 streamed (streamed.length - 1) == 0xFF && f.pFrame n == 0xD9) = false := by
    rw [Bool.eq_false_iff]
    intro ends
    simp only [Bool.and_eq_true, beq_iff_eq, decide_eq_true_eq] at ends
    obtain ⟨⟨⟨one, some_before⟩, high⟩, low⟩ := ends
    have found : streamed[streamed.length - 1]? = some streamed[streamed.length - 1] :=
      getElem?_eq_getElem (by omega)
    have written := write_at (p := 0) jpeg found
    rw [Nat.zero_add, high] at written
    have all : Stream ([] ++ (streamed ++ (chunk ++ rest.flatMap Piece.chunk))) := stream
    have at_end := all.eoi_at (i := streamed.length - 1)
      (by rw [getElem?_append_left (by omega), found, ← written])
      (by
        have here : chunk[0]? = some chunk[0] := getElem?_eq_getElem some_bytes
        rw [Nat.sub_add_cancel some_before, getElem?_append_right le_rfl, Nat.sub_self,
          getElem?_append_left some_bytes, here, ← holds.left.left 0 _ here, Nat.add_zero, low])
    rw [length_append, length_append] at at_end
    omega
  rw [sortPass, reached, if_neg (by rw [no_marker stream holds some_bytes]; exact Bool.false_ne_true)]
  simp only [copyJpeg, length, search, single, copy, reached, length_append, Bool.false_eq_true,
    if_false, Bool.or_self]

structure Done (s : Split) (jpeg video : Memory) (stream copied : List UInt8) : Prop where
  finished : s.isFinishJpeg = true
  jpegSize : s.dwJSize = stream.length
  videoSize : s.dwVSize = copied.length
  jpegWritten : s.jpeg = write jpeg 0 stream
  videoWritten : s.video = write video 0 copied

theorem final_pass (copied : List UInt8) {after : List UInt8} (stream : Stream (streamed ++ after))
    (holds : Holds f.pFrame n after) (long : 2 ≤ after.length)
    (reach : after.length - 2 < min f.dwJPEGLineLength (f.dwSize - n)) :
    ∃ s, sortPass f (reached jpeg video n streamed copied) = some s ∧
      Done s jpeg video (streamed ++ after) copied := by
  have alone : Holds f.pFrame n (after ++ ([] : List Piece).flatMap Piece.bytes ++ []) := by
    simpa using holds
  have alone_stream : Stream (streamed ++ (after ++ ([] : List Piece).flatMap Piece.chunk)) := by
    simpa using stream
  have none : ∀ i < after.length - 2, checkEOIMarker f.pFrame (n + i) = false := by
    intro i within
    rw [Bool.eq_false_iff]
    intro found
    have at_end := eoi_end alone_stream alone (by omega) found
    rw [flatMap_nil, append_nil] at at_end
    omega
  have here : checkEOIMarker f.pFrame (n + (after.length - 2)) = true := by
    refine checkEOIMarker_iff.mpr ⟨holds _ _ (stream.last_pair long), ?_⟩
    rw [Nat.add_assoc, show after.length - 2 + 1 = after.length - 1 by omega]
    exact holds _ _ (stream.last_byte (ne_nil_of_length_pos (by omega)))
  have search := find_first 0 reach none here
  have size : 0 + (after.length - 2) + 2 = after.length := by omega
  have copy := memcpy_write (write jpeg 0 streamed) streamed.length holds
  rw [write_more] at copy
  have other := no_marker alone_stream alone (by omega)
  refine ⟨copyJpeg f (reached jpeg video n streamed copied), ?_, ?_, ?_, rfl, ?_, rfl⟩
  · rw [sortPass, if_neg]
    rw [reached, other]
    exact Bool.false_ne_true
  · simp only [copyJpeg, reached, search, Bool.true_or]
  · simp only [copyJpeg, reached, search, if_true, size, length_append]
  · simp only [copyJpeg, reached, search, if_true, size, copy]

/-- The last byte of the stream stands alone, as the last of the frame or of its line. -/
theorem single_pass (copied : List UInt8) {last : UInt8} (stream : Stream (streamed ++ [last]))
    (holds : Holds f.pFrame n [last]) (line : min f.dwJPEGLineLength (f.dwSize - n) = 1) :
    ∃ s, sortPass f (reached jpeg video n streamed copied) = some s ∧
      Done s jpeg video (streamed ++ [last]) copied := by
  have low : last = 0xD9 := some.inj (stream.last_byte (cons_ne_nil _ _))
  obtain ⟨high, some_before⟩ := stream.byte_before rfl
  have there : f.pFrame n = 0xD9 := (holds 0 _ rfl).trans low
  have written := write_at (p := 0) jpeg high
  rw [Nat.zero_add] at written
  have other : checkVideoStartMarker f.pFrame n = false := by
    rw [checkVideoStartMarker, there]
    rfl
  have search : findEOIMarkerInJPEG f.pFrame n 1 0 = (false, 1) := by
    rw [findEOIMarkerInJPEG, checkEOIMarker, there]
    rfl
  have copy := memcpy_write (write jpeg 0 streamed) streamed.length holds
  rw [write_more, length_singleton] at copy
  refine ⟨copyJpeg f (reached jpeg video n streamed copied), ?_, ?_, ?_, rfl, ?_, rfl⟩
  · rw [sortPass, if_neg]
    rw [reached, other]
    exact Bool.false_ne_true
  · simp only [copyJpeg, reached, line, search, written, there, some_before, decide_true, beq_self_eq_true,
      Bool.and_self, Bool.or_true]
  · simp only [copyJpeg, reached, line, search, length_append, length_singleton,
      Bool.false_eq_true, if_false]
  · simp only [copyJpeg, reached, line, search, copy, Bool.false_eq_true, if_false]

end

section

variable {f : Frame} {s s' s'' : Split}

def Leads (f : Frame) (s s' : Split) : Prop :=
  ∀ fuel, f.dwSize ≤ s.pSrc + fuel →
    ∃ fuel', f.dwSize ≤ s'.pSrc + fuel' ∧ passes f fuel s = passes f fuel' s'

theorem Leads.refl (s : Split) : Leads f s s := fun fuel enough => ⟨fuel, enough, rfl⟩

theorem Leads.trans (first : Leads f s s') (second : Leads f s' s'') : Leads f s s'' := by
  intro fuel enough
  obtain ⟨fuel', enough', same⟩ := first fuel enough
  obtain ⟨fuel'', enough'', same'⟩ := second fuel' enough'
  exact ⟨fuel'', enough'', same.trans same'⟩

theorem Leads.of_pass (inside : s.pSrc < f.dwSize) (running : s.isFinishJpeg = false)
    (passed : sortPass f s = some s') (moved : s.pSrc < s'.pSrc) : Leads f s s' := by
  intro fuel enough
  cases fuel with
  | zero => omega
  | succ fuel =>
    refine ⟨fuel, by omega, ?_⟩
    rw [passes, if_pos ⟨inside, running⟩, passed, bind_some]

theorem Leads.finish (leads : Leads f s s') (finished : s'.isFinishJpeg = true) (fuel : Nat)
    (enough : f.dwSize ≤ s.pSrc + fuel) : passes f fuel s = some s' := by
  obtain ⟨fuel', _, same⟩ := leads fuel enough
  rw [same]
  cases fuel' with
  | zero => rfl
  | succ fuel' =>
    rw [passes, if_neg]
    rw [finished]
    exact fun both => Bool.false_ne_true both.2.symm

theorem copyVideo_keeps (copied : copyVideo f s = some s') : s'.dwJSize = s.dwJSize := by
  unfold copyVideo at copied
  dsimp only at copied
  split_ifs at copied <;> cases copied <;> rfl

theorem pass_grows (passed : sortPass f s = some s') : s.dwJSize ≤ s'.dwJSize := by
  unfold sortPass at passed
  split_ifs at passed
  · exact (copyVideo_keeps passed).ge
  · cases passed
    exact le_add_right _ _

variable {fuel : Nat} {back : List Piece} {trailing : List UInt8}

theorem passes_grow : ∀ s, passes f fuel s = some s' → s.dwJSize ≤ s'.dwJSize := by
  induction fuel with
  | zero =>
    intro s ends
    cases ends
    exact le_rfl
  | succ fuel ih =>
    intro s ends
    rw [passes] at ends
    split_ifs at ends
    · obtain ⟨middle, passed, rest⟩ := bind_eq_some_iff.mp ends
      exact (pass_grows passed).trans (ih middle rest)
    · cases ends
      exact le_rfl

theorem Leads.grows (leads : Leads f s s') (enough : f.dwSize ≤ s.pSrc + fuel)
    (ends : passes f fuel s = some s'') : s'.dwJSize ≤ s''.dwJSize := by
  obtain ⟨fuel', _, same⟩ := leads fuel enough
  rw [same] at ends
  exact passes_grow s' ends

theorem splitFrame_size {jpeg video : Memory} {result : Result}
    (split : splitFrame f jpeg video = some result) (success : result.ret = true) :
    ∃ s, passes f f.dwSize ⟨0, 0, 0, 0, 0, jpeg, video, false⟩ = some s ∧
      result.dwJPEGSize = some s.dwJSize := by
  unfold splitFrame at split
  split_ifs at split
  · cases split
    cases success
  · cases split
    cases success
  · obtain ⟨s, ends, same⟩ := map_eq_some_iff.mp split
    refine ⟨s, ends, ?_⟩
    split_ifs at same
    · rw [← same]
    · rw [← same] at success
      cases success

theorem records_lead (jpeg video : Memory) (streamed : List UInt8) (wanted : f.hasVideo = true)
    {records : List (List UInt8)} (lines : ∀ payload ∈ records, payload.length = f.dwVideoLineLength) :
    ∀ {n : Nat} (copied : List UInt8),
      Holds f.pFrame n (records.flatMap (marker ++ ·)) →
      n + (records.flatMap (marker ++ ·)).length ≤ f.dwSize →
      Leads f (reached jpeg video n streamed copied)
        (reached jpeg video (n + (records.flatMap (marker ++ ·)).length) streamed
          (copied ++ records.flatten)) := by
  induction records with
  | nil =>
    intro n copied _ _
    rw [flatten_nil, append_nil]
    exact .refl _
  | cons payload rest ih =>
    intro n copied holds inside
    rw [flatMap_cons] at holds inside ⊢
    rw [length_append] at inside ⊢
    have line := lines payload mem_cons_self
    have some_bytes : 0 < (marker ++ payload).length := by
      rw [length_append]
      exact Nat.add_pos_left (by decide) _
    have passed := record_pass jpeg video streamed copied wanted holds.left line (by omega)
    have first : Leads f (reached jpeg video n streamed copied)
        (reached jpeg video (n + (marker ++ payload).length) streamed (copied ++ payload)) :=
      .of_pass (by dsimp only [reached]; omega) rfl passed (by dsimp only [reached]; omega)
    have others := ih (fun later member => lines later (mem_cons_of_mem _ member))
      (copied ++ payload) holds.right (by omega)
    rw [flatten_cons, ← append_assoc, ← Nat.add_assoc]
    exact first.trans others

/-- What stands behind the whole lines: more than one byte of the stream, or first a record. -/
def Open (back : List Piece) : Prop :=
  0 < (back.flatMap Piece.chunk).length ∧
    (2 ≤ (back.flatMap Piece.chunk).length ∨
      ∃ piece rest, back = piece :: rest ∧ piece.records ≠ [])

theorem Open.parted (behind : Open back) {mem : Memory} {n : Nat}
    (holds : Holds mem n (back.flatMap Piece.bytes ++ trailing)) :
    2 ≤ (back.flatMap Piece.chunk).length ∨ mem n ≠ 0xD9 := by
  rcases behind.2 with long | ⟨piece, rest, rfl, some_records⟩
  · exact Or.inl long
  · right
    obtain ⟨payload, others, records⟩ := exists_cons_of_ne_nil some_records
    rw [flatMap_cons, Piece.bytes, records] at holds
    have start := holds.left.left.left.left.left 0 0xFF rfl
    rw [Nat.add_zero] at start
    rw [start]
    decide

theorem front_leads (jpeg video : Memory) (wanted : f.hasVideo = true)
    (jpeg_line : 0 < f.dwJPEGLineLength) (behind : Open back) {front : List Piece}
    (full : ∀ piece ∈ front, piece.chunk.length = f.dwJPEGLineLength)
    (lines : ∀ piece ∈ front, ∀ payload ∈ piece.records, payload.length = f.dwVideoLineLength) :
    ∀ {n : Nat} {streamed : List UInt8} (copied : List UInt8),
      Stream (streamed ++ (front ++ back).flatMap Piece.chunk) →
      Holds f.pFrame n ((front ++ back).flatMap Piece.bytes ++ trailing) →
      n + ((front ++ back).flatMap Piece.bytes ++ trailing).length = f.dwSize →
      Leads f (reached jpeg video n streamed copied)
        (reached jpeg video (n + (front.flatMap Piece.bytes).length)
          (streamed ++ front.flatMap Piece.chunk)
          (copied ++ front.flatMap fun piece => piece.records.flatten)) := by
  induction front with
  | nil =>
    intro n streamed copied _ _ _
    simp only [flatMap_nil, append_nil, length_nil, Nat.add_zero]
    exact .refl _
  | cons piece front ih =>
    intro n streamed copied stream holds size
    have line := full piece mem_cons_self
    rw [cons_append, flatMap_cons, Piece.bytes] at holds size
    simp only [append_assoc] at holds
    simp only [length_append] at size
    have first := records_lead jpeg video streamed wanted (lines piece mem_cons_self) copied
      holds.left (by omega)
    -- the line itself
    have here := holds.right
    have later : 0 < ((front ++ back).flatMap Piece.chunk).length := by
      rw [flatMap_append, length_append]
      have := behind.1
      omega
    have parted : 2 ≤ ((front ++ back).flatMap Piece.chunk).length ∨
        f.pFrame (n + (piece.records.flatMap (marker ++ ·)).length + piece.chunk.length) ≠ 0xD9 := by
      cases front with
      | nil => exact behind.parted here.right
      | cons next others =>
        have next_line := full next (mem_cons_of_mem _ mem_cons_self)
        have := behind.1
        simp only [cons_append, flatMap_cons, flatMap_append, length_append]
        omega
    have passed := chunk_pass jpeg video (copied ++ piece.records.flatten) stream
      (by rw [append_assoc]; exact here) line (by omega) (by omega) later parted
    have second : Leads f
        (reached jpeg video (n + (piece.records.flatMap (marker ++ ·)).length) streamed
          (copied ++ piece.records.flatten))
        (reached jpeg video
          (n + (piece.records.flatMap (marker ++ ·)).length + piece.chunk.length)
          (streamed ++ piece.chunk) (copied ++ piece.records.flatten)) :=
      .of_pass (by dsimp only [reached]; omega) rfl passed (by dsimp only [reached]; omega)
    have others := ih (fun piece member => full piece (mem_cons_of_mem _ member))
      (fun piece member => lines piece (mem_cons_of_mem _ member))
      (copied ++ piece.records.flatten) (by rw [append_assoc]; exact stream) here.right
      (by simp only [length_append]; omega)
    have whole := (first.trans second).trans others
    simp only [append_assoc, Nat.add_assoc] at whole
    simp only [flatMap_cons, Piece.bytes, length_append, Nat.add_assoc]
    exact whole

end

variable {jpegLine videoLine : Nat} {memory : Memory} {front rest : List Piece} {piece : Piece}

section
variable (frame : Interleaved jpegLine videoLine)
include frame

theorem approach (jpeg video : Memory) (holds : Holds memory 0 frame.bytes)
    (split : frame.pieces ++ [frame.last] = front ++ piece :: rest)
    (full : ∀ piece ∈ front, piece.chunk.length = jpegLine) (behind : Open (piece :: rest)) :
    ∃ n, Leads (frame.call memory) (reached jpeg video 0 [] [])
        (reached jpeg video n (front.flatMap Piece.chunk)
          (front.flatMap (fun piece => piece.records.flatten) ++ piece.records.flatten)) ∧
      Stream (front.flatMap Piece.chunk ++ (piece.chunk ++ rest.flatMap Piece.chunk)) ∧
      Holds memory n (piece.chunk ++ (rest.flatMap Piece.bytes ++ frame.trailing)) ∧
      n + (piece.chunk ++ (rest.flatMap Piece.bytes ++ frame.trailing)).length =
        frame.bytes.length := by
  have jpeg_line : 0 < jpegLine := lt_of_lt_of_le frame.short.1 frame.short.2
  have lines := frame.records
  rw [split] at lines
  have stream := frame.stream
  rw [split] at stream
  have size : frame.bytes.length =
      ((front ++ piece :: rest).flatMap Piece.bytes ++ frame.trailing).length := by
    rw [Interleaved.bytes, split]
  rw [Interleaved.bytes, split] at holds
  have whole : Stream ([] ++ (front ++ piece :: rest).flatMap Piece.chunk) := stream
  have first := front_leads (f := frame.call memory) jpeg video rfl jpeg_line behind full
    (fun piece member => lines piece (mem_append_left _ member)) [] whole holds
    (by rw [Nat.zero_add]; exact size.symm)
  rw [flatMap_append, flatMap_cons, Piece.bytes] at holds
  simp only [append_assoc] at holds
  simp only [flatMap_append, flatMap_cons, Piece.bytes, length_append] at size
  have records := records_lead (f := frame.call memory) jpeg video (front.flatMap Piece.chunk) rfl
    (lines piece (mem_append_right _ mem_cons_self))
    (front.flatMap fun piece => piece.records.flatten) holds.right.left
    (by change _ ≤ frame.bytes.length; omega)
  refine ⟨_, first.trans records, ?_, holds.right.right, ?_⟩
  · rw [flatMap_append] at stream
    exact stream
  · simp only [length_append]
    omega

theorem sorted_of_done (video_line : 0 < videoLine) {memory jpeg video : Memory} {s s' : Split}
    (leads : Leads (frame.call memory) (reached jpeg video 0 [] []) s)
    (passed : sortPass (frame.call memory) s = some s') (inside : s.pSrc < frame.bytes.length)
    (running : s.isFinishJpeg = false) (done : Done s' jpeg video frame.jpeg frame.payloads) :
    splitFrame (frame.call memory) jpeg video = some (frame.sorted jpeg video) := by
  have jpeg_line : 0 < jpegLine := lt_of_lt_of_le frame.short.1 frame.short.2
  have moved := pass_moves (f := frame.call memory) inside jpeg_line video_line passed
  have ends := (leads.trans (.of_pass inside running passed moved)).finish done.finished
    frame.bytes.length (le_add_left _ _)
  rw [reached_start] at ends
  have some_bytes : (frame.call memory).dwSize ≠ 0 := by
    change frame.bytes.length ≠ 0
    omega
  have lines : ¬ ((frame.call memory).dwJPEGLineLength = 0 ∨
      (frame.call memory).dwVideoLineLength = 0) := by
    change ¬ (jpegLine = 0 ∨ videoLine = 0)
    omega
  rw [splitFrame, if_neg some_bytes, if_neg lines]
  change (passes _ frame.bytes.length _).map _ = _
  rw [ends, map_some, if_pos done.finished, done.jpegSize, done.videoSize, done.jpegWritten,
    done.videoWritten]
  rfl

theorem sorted_in_reach (video_line : 0 < videoLine) (jpeg video : Memory)
    (holds : Holds memory 0 frame.bytes)
    (split : frame.pieces ++ [frame.last] = front ++ piece :: rest)
    (full : ∀ piece ∈ front, piece.chunk.length = jpegLine)
    (plain : rest.flatMap Piece.bytes = rest.flatMap Piece.chunk)
    (unrecorded : rest.flatMap (fun piece => piece.records.flatten) = [])
    (long : 2 ≤ (piece.chunk ++ rest.flatMap Piece.chunk).length)
    (reach : (piece.chunk ++ rest.flatMap Piece.chunk).length ≤ jpegLine + 1) :
    splitFrame (frame.call memory) jpeg video = some (frame.sorted jpeg video) := by
  have behind : Open (piece :: rest) := by
    rw [Open, flatMap_cons]
    exact ⟨by omega, Or.inl long⟩
  obtain ⟨n, leads, stream, there, size⟩ := approach frame jpeg video holds split full behind
  have all_jpeg : frame.jpeg =
      front.flatMap Piece.chunk ++ (piece.chunk ++ rest.flatMap Piece.chunk) := by
    rw [Interleaved.jpeg, split, flatMap_append, flatMap_cons]
  have all_payloads : frame.payloads =
      front.flatMap (fun piece => piece.records.flatten) ++ piece.records.flatten := by
    rw [Interleaved.payloads, split, flatMap_append, flatMap_cons, unrecorded, append_nil]
  rw [plain, ← append_assoc] at there size
  generalize piece.chunk ++ rest.flatMap Piece.chunk = after at *
  rw [length_append] at size
  have in_line : after.length - 2 <
      min (frame.call memory).dwJPEGLineLength ((frame.call memory).dwSize - n) := by
    change after.length - 2 < min jpegLine (frame.bytes.length - n)
    omega
  obtain ⟨s', passed, done⟩ := final_pass (f := frame.call memory) jpeg video
    (front.flatMap (fun piece => piece.records.flatten) ++ piece.records.flatten) stream there.left
    long in_line
  rw [← all_jpeg, ← all_payloads] at done
  exact sorted_of_done frame video_line leads passed (by dsimp only [reached]; omega) rfl done

/-- The last byte of the stream is a line of its own and follows the line before it at once. -/
theorem sorted_joined (video_line : 0 < videoLine) (jpeg video : Memory)
    (holds : Holds memory 0 frame.bytes) (one : frame.last.chunk.length = 1)
    (joined : frame.last.records = []) :
    splitFrame (frame.call memory) jpeg video = some (frame.sorted jpeg video) := by
  rcases eq_nil_or_concat' frame.pieces with none | ⟨init, piece, pieces⟩
  · have long := frame.stream.length
    rw [none, nil_append, flatMap_singleton] at long
    omega
  · have full := frame.full
    rw [pieces] at full
    have line := full piece (mem_append_right _ mem_cons_self)
    have short := frame.short
    have split : frame.pieces ++ [frame.last] = init ++ piece :: [frame.last] := by
      rw [pieces, append_assoc]
      rfl
    refine sorted_in_reach frame video_line jpeg video holds split
      (fun piece member => full piece (mem_append_left _ member)) ?_ ?_ ?_ ?_
    · rw [flatMap_singleton, flatMap_singleton, Piece.bytes, joined]
      rfl
    · rw [flatMap_singleton, joined, flatten_nil]
    · rw [flatMap_singleton, length_append]
      omega
    · rw [flatMap_singleton, length_append]
      omega

/-- The last byte of the stream stands alone: the loop comes to it with the rest written. -/
theorem approach_last (jpeg video : Memory) (holds : Holds memory 0 frame.bytes)
    (apart : frame.last.records ≠ []) (one : frame.last.chunk.length = 1) :
    ∃ n streamed last, Leads (frame.call memory) (reached jpeg video 0 [] [])
        (reached jpeg video n streamed frame.payloads) ∧
      frame.jpeg = streamed ++ [last] ∧ Holds memory n [last] ∧
      n + 1 + frame.trailing.length = frame.bytes.length := by
  have behind : Open [frame.last] := by
    refine ⟨?_, Or.inr ⟨_, _, rfl, apart⟩⟩
    rw [flatMap_singleton]
    exact frame.short.1
  obtain ⟨n, leads, _, there, size⟩ := approach frame jpeg video holds rfl frame.full behind
  obtain ⟨last, chunk⟩ := length_eq_one_iff.mp one
  refine ⟨n, frame.pieces.flatMap Piece.chunk, last, ?_, ?_, ?_, ?_⟩
  · rw [Interleaved.payloads, flatMap_append, flatMap_singleton]
    exact leads
  · rw [Interleaved.jpeg, flatMap_append, flatMap_singleton, chunk]
  · rw [chunk] at there
    exact there.left
  · rw [chunk, length_append, ← Nat.add_assoc] at size
    exact size

theorem sorted_single (video_line : 0 < videoLine) (jpeg video : Memory)
    (holds : Holds memory 0 frame.bytes) (apart : frame.last.records ≠ [])
    (one : frame.last.chunk.length = 1) (alone : jpegLine = 1 ∨ frame.trailing = []) :
    splitFrame (frame.call memory) jpeg video = some (frame.sorted jpeg video) := by
  have short := frame.short
  obtain ⟨n, streamed, last, leads, whole, there, size⟩ :=
    approach_last frame jpeg video holds apart one
  have stream : Stream (streamed ++ [last]) := by
    rw [← whole]
    exact frame.stream
  have line : min (frame.call memory).dwJPEGLineLength ((frame.call memory).dwSize - n) = 1 := by
    change min jpegLine (frame.bytes.length - n) = 1
    rcases alone with byte | none
    · omega
    · rw [none, length_nil] at size
      omega
  obtain ⟨s', passed, done⟩ :=
    single_pass (f := frame.call memory) jpeg video frame.payloads stream there line
  rw [← whole] at done
  exact sorted_of_done frame video_line leads passed (by dsimp only [reached]; omega) rfl done

/-- Behind a severed end marker the copied bytes are too many, whatever follows. -/
theorem severed_unsorted (jpeg video : Memory) (holds : Holds memory 0 frame.bytes)
    (severed : frame.Severed) :
    splitFrame (frame.call memory) jpeg video ≠ some (frame.sorted jpeg video) := by
  obtain ⟨line, one, apart, more⟩ := severed
  obtain ⟨n, streamed, last, leads, whole, there, size⟩ :=
    approach_last frame jpeg video holds apart one
  have stream : Stream (streamed ++ [last]) := by
    rw [← whole]
    exact frame.stream
  have low : memory n = 0xD9 :=
    there.byte.trans (some.inj (stream.last_byte (cons_ne_nil _ _)))
  have trailing := length_pos_iff.mpr more
  have other : checkVideoStartMarker (frame.call memory).pFrame n = false := by
    change checkVideoStartMarker memory n = false
    rw [checkVideoStartMarker, low]
    rfl
  have grown : frame.jpeg.length <
      (copyJpeg (frame.call memory) (reached jpeg video n streamed frame.payloads)).dwJSize := by
    rw [whole, length_append, length_singleton]
    dsimp only [copyJpeg, reached, Interleaved.call]
    split_ifs <;> omega
  have passed : sortPass (frame.call memory) (reached jpeg video n streamed frame.payloads) =
      some (copyJpeg (frame.call memory) (reached jpeg video n streamed frame.payloads)) := by
    rw [sortPass, if_neg]
    change ¬ checkVideoStartMarker (frame.call memory).pFrame n = true
    rw [other]
    exact Bool.false_ne_true
  have moved : n < (copyJpeg (frame.call memory)
      (reached jpeg video n streamed frame.payloads)).pSrc := by
    dsimp only [copyJpeg, reached, Interleaved.call]
    omega
  have inside : n < (frame.call memory).dwSize := by
    change n < frame.bytes.length
    omega
  have reaches := leads.trans (.of_pass inside rfl passed moved)
  intro sorted
  obtain ⟨s, ends, counted⟩ := splitFrame_size sorted rfl
  have later := reaches.grows (le_add_left _ _) ends
  rw [← some.inj counted] at later
  exact absurd later (not_le.mpr grown)

end

/-- For every frame and all lengths of the lines: the frame is sorted as it was built, unless the two
    bytes of the end marker are severed by a record and more bytes follow. -/
theorem split_iff (frame : Interleaved jpegLine videoLine) (video_line : 0 < videoLine)
    (memory jpeg video : Memory) (holds : Holds memory 0 frame.bytes) :
    splitFrame (frame.call memory) jpeg video = some (frame.sorted jpeg video) ↔ ¬ frame.Severed := by
  have short := frame.short
  constructor
  · intro sorted severed
    exact severed_unsorted frame jpeg video holds severed sorted
  · intro whole
    by_cases one : frame.last.chunk.length = 1
    · by_cases joined : frame.last.records = []
      · exact sorted_joined frame video_line jpeg video holds one joined
      · apply sorted_single frame video_line jpeg video holds joined one
        by_contra neither
        obtain ⟨line, more⟩ := not_or.mp neither
        exact whole ⟨by omega, one, joined, more⟩
    · exact sorted_in_reach frame video_line jpeg video holds rfl frame.full rfl rfl
        (by rw [flatMap_nil, append_nil]; omega)
        (by rw [flatMap_nil, append_nil]; omega)

def zeros : Memory := fun _ => 0

def twoLines : Interleaved 2 1 where
  pieces := [⟨[], [0x00, 0x01]⟩]
  last := ⟨[[0x07]], [0xFF, 0xD9]⟩
  trailing := [0x05]
  full := by decide
  short := by decide
  records := by decide
  stream := ⟨by decide, by decide, by decide⟩

theorem two_lines_sorted : splitFrame (twoLines.call (write zeros 0 twoLines.bytes)) zeros zeros =
    some (twoLines.sorted zeros zeros) :=
  (split_iff twoLines (by decide) _ _ _ (holds_write zeros 0 twoLines.bytes)).mpr fun severed =>
    absurd severed.2.1 (by decide)

def severedLines (trailing : List UInt8) : Interleaved 2 1 where
  pieces := [⟨[], [0x00, 0xFF]⟩]
  last := ⟨[[0x07]], [0xD9]⟩
  trailing := trailing
  full := by decide
  short := by decide
  records := by decide
  stream := ⟨by decide, by decide, by decide⟩

/-- The stream has three bytes; with a further byte behind it the call fails, and with a second end
    marker it gives five. -/
theorem severed_end_lost :
    (severedLines []).jpeg = [0x00, 0xFF, 0xD9] ∧
      (splitFrame ((severedLines [0x00]).call (write zeros 0 (severedLines [0x00]).bytes)) zeros
        zeros).map (fun result => (result.ret, result.dwJPEGSize)) = some (false, some 0) ∧
      (splitFrame ((severedLines [0xFF, 0xD9]).call (write zeros 0 (severedLines [0xFF, 0xD9]).bytes))
        zeros zeros).map (fun result => (result.ret, result.dwJPEGSize)) = some (true, some 5) := by
  decide

end SortedFrames
