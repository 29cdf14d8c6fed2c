import SamsungHardware.FrameSplitting.H264Scan
import SamsungHardware.FrameSplitting.InputAssembly
import SamsungHardware.Library.CutMarks

/- An H.264 stream that is cut into input buffers: which cuts change the frames. -/
namespace CutIndependence
open CutStream CutMarks StartCode H264Scan InputAssembly List Option Prod

section

variable {held bytes rest : List UInt8} {p e q type : Nat}

theorem getElem?_behind (i : Nat) : (held ++ bytes)[held.length + i]? = bytes[i]? := by
  rw [getElem?_append_right (Nat.le_add_right _ _), Nat.add_sub_cancel_left]

theorem codeAt_drop : CodeAt (held ++ bytes) (held.length + p) ↔ CodeAt bytes p := by
  simp only [CodeAt, Nat.add_assoc, getElem?_behind]

theorem codeAt_take (inside : p + 3 ≤ bytes.length) :
    CodeAt (bytes ++ rest) p ↔ CodeAt bytes p := by
  simp only [CodeAt]
  rw [getElem?_append_left (by omega), getElem?_append_left (by omega),
    getElem?_append_left (by omega)]

theorem nalAt_drop : NalAt (held ++ bytes) (held.length + p) type ↔ NalAt bytes p type := by
  simp only [NalAt, codeAt_drop, Nat.add_assoc, getElem?_behind]

theorem nalAt_take (inside : p + 4 ≤ bytes.length) :
    NalAt (bytes ++ rest) p type ↔ NalAt bytes p type := by
  simp only [NalAt]
  rw [codeAt_take (by omega), getElem?_append_left (by omega)]

theorem boundary_iff : Boundary bytes p e ↔
    (NalAt bytes p 9 ∧ e = p + 4) ∨
      ∃ type, (type = 1 ∨ type = 5) ∧ NalAt bytes p type ∧
        (∃ next, bytes[p + 4]? = some next ∧ 0x80 ≤ next) ∧ e = p + 5 := by
  constructor
  · intro boundary
    cases boundary with
    | delimiter unit => exact Or.inl ⟨unit, rfl⟩
    | slice kind unit read first => exact Or.inr ⟨_, kind, unit, ⟨_, read, first⟩, rfl⟩
  · rintro (⟨unit, rfl⟩ | ⟨type, kind, unit, ⟨next, read, first⟩, rfl⟩)
    · exact .delimiter unit
    · exact .slice kind unit read first

theorem boundary_drop :
    Boundary (held ++ bytes) (held.length + p) (held.length + e) ↔ Boundary bytes p e := by
  simp only [boundary_iff, nalAt_drop, Nat.add_assoc, getElem?_behind, Nat.add_left_cancel_iff]

theorem boundary_take (inside : e ≤ bytes.length) :
    Boundary (bytes ++ rest) p e ↔ Boundary bytes p e := by
  rw [boundary_iff, boundary_iff]
  refine or_congr (and_congr_left ?_) (exists_congr fun type => and_congr_right fun _ => ?_)
  · rintro rfl
    exact nalAt_take inside
  · constructor
    · rintro ⟨unit, ⟨next, read, first⟩, rfl⟩
      rw [getElem?_append_left (by omega)] at read
      exact ⟨(nalAt_take (by omega)).mp unit, ⟨next, read, first⟩, rfl⟩
    · rintro ⟨unit, ⟨next, read, first⟩, rfl⟩
      refine ⟨(nalAt_take (by omega)).mpr unit, ⟨next, ?_, first⟩, rfl⟩
      rw [getElem?_append_left (by omega)]
      exact read

theorem boundary_unique {e' : Nat} (left : Boundary bytes p e) (right : Boundary bytes p e') :
    e = e' := by
  cases left with
  | delimiter unit => rcases right.unit_type unit with ⟨_, same⟩ | ⟨wrong, _⟩ <;> omega
  | slice kind unit _ _ => rcases right.unit_type unit with ⟨wrong, _⟩ | ⟨_, same, _⟩ <;> omega

end

/-- The marks of an H.264 stream; the zero of a long start code leads its frame. -/
def h264Marks (addSpsPpsIFrame : Bool) : Marks UInt8 where
  Boundary := Boundary
  Starts := StartsAt addSpsPpsIFrame
  lead bytes p := bytes[p - 1]? = some 0
  nonempty boundary := by have := boundary.after; omega
  inside boundary := boundary.inside
  unique := boundary_unique
  apart left right := by have := left.code.apart right.code (Nat.lt_succ_self _); omega
  boundary_drop := boundary_drop
  boundary_take := boundary_take
  starts_append rest := by
    rintro ⟨type, unit, starts⟩
    exact ⟨type, (nalAt_take unit.inside).mpr unit, starts⟩
  starts_take boundary before := by
    rintro ⟨type, unit, starts⟩
    have after := boundary.after
    have inside := boundary.inside
    refine ⟨type, (nalAt_take ?_).mp unit, starts⟩
    omega
  starts_apart boundary before := by
    rintro ⟨type, unit, starts⟩
    have := unit.1.apart boundary.code before
    omega
  lead_drop positive := by
    rw [Nat.add_sub_assoc positive, getElem?_behind]
  lead_take boundary := by
    have after := boundary.after
    have inside := boundary.inside
    rw [getElem?_append_left (by omega)]

variable (addSpsPpsIFrame : Bool)

theorem h264_finds : (h264Marks addSpsPpsIFrame).Finds (found (checkH264Frame addSpsPpsIFrame)) := by
  intro piece fresh
  rcases checkH264Frame_searched addSpsPpsIFrame piece 0 fresh with ⟨p, e, first, result⟩ | ⟨none, eof⟩
  · refine Or.inl ⟨p, e, first, ?_⟩
    rw [found, foundWith, result]
    simp only [if_true, Int.toNat_natCast]
    simp [frameStart, Marks.start, h264Marks]
  · refine Or.inr ⟨none, ?_⟩
    rw [found, foundWith, eof]
    rfl

section

variable (allocSize turns : Nat) (checkTimeStamp : CheckTimeStamp) (inputs : List Input)
  (whole : Input)

/-- The buffers give the frames that the stream gives in one buffer, and nothing of it is
    lost. -/
def SplitsAlike : Prop :=
  ∃ frames last last',
    splitFrames (checkH264Frame addSpsPpsIFrame) turns (emptyComponent allocSize checkTimeStamp)
      inputs = some (frames, last) ∧
    splitFrames (checkH264Frame addSpsPpsIFrame) turns (emptyComponent allocSize checkTimeStamp)
      [whole] = some (frames, last') ∧
    frames.flatten ++ last.inputData.bytes = whole.bytes

/-- For every frame of the stream, the ends of the buffers are harmless to it. -/
def HarmlessCuts : Prop :=
  ∀ k, FrameStart (found (checkH264Frame addSpsPpsIFrame)) whole.bytes k →
    Harmless (h264Marks addSpsPpsIFrame) (whole.bytes.drop k) fun c =>
      CutAt 0 (inputs.map Input.bytes) (k + c)

variable {addSpsPpsIFrame inputs whole}

/-- Every way of cutting a stream conserves its bytes; the frames stay the same exactly when the
    cuts are harmless. -/
theorem splits_alike_iff (stream : (inputs.map Input.bytes).flatten = whole.bytes)
    (plain : Plain (whole :: inputs)) (fits : whole.bytes.length ≤ allocSize)
    (enough : 2 * (inputs.length + 1) + whole.bytes.length < turns) :
    (∃ frames last, splitFrames (checkH264Frame addSpsPpsIFrame) turns
        (emptyComponent allocSize checkTimeStamp) inputs = some (frames, last) ∧
      frames.flatten ++ last.inputData.bytes = whole.bytes) ∧
    (SplitsAlike addSpsPpsIFrame allocSize turns checkTimeStamp inputs whole ↔
      HarmlessCuts addSpsPpsIFrame inputs whole) := by
  have finds := h264_finds addSpsPpsIFrame
  have progresses := finds.progresses
  obtain ⟨frames, rest, delivers⟩ := delivers_exists progresses [] (inputs.map Input.bytes)
  obtain ⟨uncut, rest', delivers'⟩ := delivers_exists progresses [] ([whole].map Input.bytes)
  obtain ⟨last, runs, left⟩ : Ends (checkH264Frame addSpsPpsIFrame) turns
      (emptyComponent allocSize checkTimeStamp) inputs frames rest := by
    refine splitFrames_ends (fun _ _ _ => rfl) progresses delivers ?_ ?_ ?_ checkTimeStamp
    · exact fun input member => plain input (mem_cons_of_mem _ member)
    · rw [stream]
      exact fits
    · rw [stream]
      omega
  obtain ⟨last', runs', _⟩ : Ends (checkH264Frame addSpsPpsIFrame) turns
      (emptyComponent allocSize checkTimeStamp) [whole] uncut rest' := by
    refine splitFrames_ends (fun _ _ _ => rfl) progresses delivers' ?_ ?_ ?_ checkTimeStamp
    · intro input member
      rw [mem_singleton.mp member]
      exact plain whole mem_cons_self
    · simpa using fits
    · simp only [map_cons, map_nil, flatten_cons, flatten_nil, append_nil, length_cons, length_nil]
      omega
  have conserved : frames.flatten ++ last.inputData.bytes = whole.bytes := by
    rw [left, delivers.conserved, nil_append, stream]
  refine ⟨⟨frames, last, runs, conserved⟩, ?_⟩
  have delivers'' : Delivers (found (checkH264Frame addSpsPpsIFrame)) []
      [(inputs.map Input.bytes).flatten] uncut rest' := stream ▸ delivers'
  have alike := frames_eq_iff finds delivers delivers''
  rw [stream] at alike
  unfold HarmlessCuts
  rw [← alike]
  constructor
  · rintro ⟨frames', _, _, runs₁, runs₂, _⟩
    rw [runs, some_inj, mk.injEq] at runs₁
    rw [runs', some_inj, mk.injEq] at runs₂
    rw [runs₁.1, runs₂.1]
  · intro same
    exact ⟨frames, last, last', runs, same ▸ runs', conserved⟩

end

/-- Two slices in two buffers, cut where the second one begins. -/
theorem cut_between_slices_harmless :
    HarmlessCuts false
      [⟨[0, 0, 1, 0x65, 0x88, 0xAA], 0, 0⟩, ⟨[0, 0, 1, 0x41, 0x9A, 0xBB], 0, 0⟩]
      ⟨[0, 0, 1, 0x65, 0x88, 0xAA, 0, 0, 1, 0x41, 0x9A, 0xBB], 0, 0⟩ := by
  refine (splits_alike_iff 32 20 ⟨false, false, 0, 0⟩ rfl ?_ ?_ ?_).2.mp ?_
  · unfold Plain
    decide
  · decide
  · decide
  · have cut : (splitFrames (checkH264Frame false) 20 (emptyComponent 32 ⟨false, false, 0, 0⟩)
        [⟨[0, 0, 1, 0x65, 0x88, 0xAA], 0, 0⟩, ⟨[0, 0, 1, 0x41, 0x9A, 0xBB], 0, 0⟩]).map
        (fun run => (run.1, run.2.inputData.bytes)) =
          some ([[0, 0, 1, 0x65, 0x88, 0xAA]], [0, 0, 1, 0x41, 0x9A, 0xBB]) := by
      decide +kernel
    have uncut : (splitFrames (checkH264Frame false) 20 (emptyComponent 32 ⟨false, false, 0, 0⟩)
        [⟨[0, 0, 1, 0x65, 0x88, 0xAA, 0, 0, 1, 0x41, 0x9A, 0xBB], 0, 0⟩]).map fst =
          some [[0, 0, 1, 0x65, 0x88, 0xAA]] := by
      decide +kernel
    obtain ⟨⟨frames, last⟩, runs, result⟩ := map_eq_some_iff.mp cut
    obtain ⟨⟨frames', last'⟩, runs', rfl⟩ := map_eq_some_iff.mp uncut
    obtain ⟨rfl, left⟩ := mk.inj result
    exact ⟨_, last, last', runs, runs', by rw [left]; rfl⟩

/-- A cut inside the start code of the second slice hides the end of the first frame. -/
theorem cut_start_code_missed :
    ¬ SplitsAlike false 32 20 ⟨false, false, 0, 0⟩
      [⟨[0, 0, 1, 0x65, 0x88, 0, 0], 0, 0⟩, ⟨[0, 1, 0x41, 0x9A], 0, 0⟩]
      ⟨[0, 0, 1, 0x65, 0x88, 0, 0, 0, 1, 0x41, 0x9A], 0, 0⟩ := by
  rintro ⟨frames, last, last', runs, runs', _⟩
  have none := congrArg (Option.map fst) runs
  have one := congrArg (Option.map fst) runs'
  have same := none.trans one.symm
  revert same
  decide +kernel

end CutIndependence
