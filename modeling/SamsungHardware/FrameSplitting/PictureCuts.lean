import SamsungHardware.FrameSplitting.PictureScan
import SamsungHardware.Library.CutContext

/- Streams of MPEG-4, H.263 and VC-1 that are cut into input buffers: which cuts change the
   frames. A buffer comes with the memory behind it. -/
namespace PictureCuts
open CutStream CutMarks CutContext PatternMarks InputAssembly PictureScan List
open Prod hiding map_map

abbrev Buffer := (Nat → UInt8) × Input

def pieceOf (buffer : Buffer) : List Cell := cells buffer.1 buffer.2.bytes

def Steady (codec : Codec) (buffer : Buffer) : Prop :=
  ∀ k, k = 0 ∨ codec.pattern.At (pieceOf buffer) k →
    codec.switches buffer.1 (buffer.2.bytes.drop k) buffer.2.nFlags = false

section

variable {codec : Codec} {behind : Nat → UInt8} {flags : BitVec 32} {piece : List Cell}

structure Rest (codec : Codec) (piece : List Cell) (behind : Nat → UInt8) (flags : BitVec 32) :
    Prop where
  whole : piece = cells behind (piece.map Cell.byte)
  steady : ∀ k, k = 0 ∨ codec.pattern.At piece k →
    codec.switches behind ((piece.map Cell.byte).drop k) flags = false

theorem find_at {fresh : Bool} {n : Nat} (found : codec.find piece fresh = some n) :
    codec.pattern.At piece n := by
  rcases codec.finds piece fresh with ⟨p, e, first, found'⟩ | ⟨-, unfound⟩
  · rw [found', marks_start, Option.some_inj] at found
    rw [← found]
    exact first.1.1.1
  · rw [unfound] at found
    cases found

theorem codec_presents (codec : Codec) :
    Presents codec.check codec.find Cell.byte (Rest codec) where
  agrees fresh rest := by
    have first := rest.steady 0 (Or.inl rfl)
    rw [drop_zero] at first
    rw [codec.foundWith_eq fresh first, ← rest.whole]
  rest := by
    intro piece behind flags fresh n rest found
    have here := find_at found
    have inside := here.inside
    constructor
    · rw [map_drop, ← cells_drop, ← rest.whole]
    · intro k place
      rw [map_drop, drop_drop]
      apply rest.steady
      right
      rcases place with zero | there
      · rw [zero, Nat.add_zero]
        exact here
      · exact (at_of_drop (by omega)).mp there

theorem shown_pieces {inputs : List Buffer} (steady : ∀ buffer ∈ inputs, Steady codec buffer) :
    Shown Cell.byte (Rest codec) (inputs.map pieceOf) inputs := by
  rw [Shown, List.forall₂_map_left_iff, List.forall₂_same]
  intro buffer member
  have bytes : (pieceOf buffer).map Cell.byte = buffer.2.bytes := cells_bytes _
  refine ⟨bytes, ?_, ?_⟩
  · rw [bytes]
    rfl
  · rw [bytes]
    exact steady buffer member

theorem pieces_bytes (inputs : List Buffer) :
    (inputs.map pieceOf).flatten.map Cell.byte =
      (inputs.map fun buffer => buffer.2.bytes).flatten := by
  have bytes (buffer : Buffer) : (pieceOf buffer).map Cell.byte = buffer.2.bytes := cells_bytes _
  rw [map_flatten, map_map]
  simp only [Function.comp_def, bytes]

end

section

variable (codec : Codec) (allocSize turns : Nat) (checkTimeStamp : CheckTimeStamp)
  (inputs : List Buffer) (whole : Buffer)

/-- The buffers give the frames that the stream gives in one buffer, and nothing of it is
    lost. -/
def SplitsAlike : Prop :=
  ∃ frames last last',
    splitFramesIn codec.check turns whole.1 (emptyComponent allocSize checkTimeStamp) inputs =
      some (frames, last) ∧
    splitFramesIn codec.check turns whole.1 (emptyComponent allocSize checkTimeStamp) [whole] =
      some (frames, last') ∧
    frames.flatten ++ last.inputData.bytes = whole.2.bytes

/-- For every frame of the stream in one buffer, the start code that ends it is the first one
    that is recognised in the buffers. -/
def RecognisedFirst : Prop :=
  ∀ k, FrameStart codec.find (pieceOf whole) k →
    Alike codec.pattern.marks ((pieceOf whole).drop k) ((inputs.map pieceOf).flatten.drop k)
      fun c => CutAt 0 (inputs.map pieceOf) (k + c)

variable {codec inputs whole} {buffers : List Buffer} {frames : List (List Cell)} {rest : List Cell}

theorem run_ends (whole : Buffer)
    (delivers : Delivers codec.find [] (buffers.map pieceOf) frames rest)
    (stream : (buffers.map fun buffer => buffer.2.bytes).flatten = whole.2.bytes)
    (plain : Plain (buffers.map snd)) (steady : ∀ buffer ∈ buffers, Steady codec buffer)
    (fits : whole.2.bytes.length ≤ allocSize)
    (enough : 2 * buffers.length + whole.2.bytes.length < turns) :
    EndsIn codec.check turns whole.1 (emptyComponent allocSize checkTimeStamp) buffers
      (frames.map (List.map Cell.byte)) (rest.map Cell.byte) := by
  have length : (buffers.map pieceOf).flatten.length = whole.2.bytes.length := by
    rw [← stream, ← pieces_bytes, length_map]
  apply splitFramesIn_ends (codec_presents codec) codec.finds.progresses delivers
    (shown_pieces steady) plain
  · rw [length]
    exact fits
  · rw [length_map, length]
    exact enough

theorem frames_conserved (delivers : Delivers codec.find [] (buffers.map pieceOf) frames rest)
    (stream : (buffers.map fun buffer => buffer.2.bytes).flatten = whole.2.bytes) :
    (frames.map (List.map Cell.byte)).flatten ++ rest.map Cell.byte = whole.2.bytes := by
  rw [← map_flatten, ← map_append, delivers.conserved, nil_append, pieces_bytes, stream]

/-- Every way of cutting a stream conserves its bytes; the frames stay the same exactly when the
    start codes that end them are the first ones that are recognised. -/
theorem pictures_alike_iff
    (stream : (inputs.map fun buffer => buffer.2.bytes).flatten = whole.2.bytes)
    (plain : Plain ((whole :: inputs).map snd))
    (steady : ∀ buffer ∈ whole :: inputs, Steady codec buffer)
    (fits : whole.2.bytes.length ≤ allocSize)
    (enough : 2 * (inputs.length + 1) + whole.2.bytes.length < turns) :
    (∃ frames last, splitFramesIn codec.check turns whole.1
        (emptyComponent allocSize checkTimeStamp) inputs = some (frames, last) ∧
      frames.flatten ++ last.inputData.bytes = whole.2.bytes) ∧
    (SplitsAlike codec allocSize turns checkTimeStamp inputs whole ↔
      RecognisedFirst codec inputs whole) := by
  have finds := codec.finds
  have progresses := finds.progresses
  obtain ⟨frames, rest, delivers⟩ := delivers_exists progresses [] (inputs.map pieceOf)
  obtain ⟨uncut, rest', delivers'⟩ := delivers_exists progresses [] ([whole].map pieceOf)
  have plain' : Plain (inputs.map snd) := fun input member =>
    plain input (mem_cons_of_mem _ member)
  have plain'' : Plain ([whole].map snd) := by
    intro input member
    rw [map_cons, map_nil, mem_singleton] at member
    rw [member]
    exact plain whole.2 mem_cons_self
  have steady'' : ∀ buffer ∈ [whole], Steady codec buffer := by
    intro buffer member
    rw [mem_singleton.mp member]
    exact steady whole mem_cons_self
  obtain ⟨last, runs, left⟩ := run_ends allocSize turns checkTimeStamp whole delivers stream
    plain'
    (fun buffer member => steady buffer (mem_cons_of_mem _ member)) fits (by omega)
  obtain ⟨last', runs', -⟩ := run_ends allocSize turns checkTimeStamp whole delivers'
    (by simp) plain'' steady'' fits (by rw [length_singleton]; omega)
  have conserved : (frames.map (List.map Cell.byte)).flatten ++ last.inputData.bytes =
      whole.2.bytes := by
    rw [left]
    exact frames_conserved delivers stream
  refine ⟨⟨_, last, runs, conserved⟩, ?_⟩
  have same : (inputs.map pieceOf).flatten.map Cell.byte = (pieceOf whole).map Cell.byte := by
    rw [pieces_bytes, stream]
    exact (cells_bytes _).symm
  have alike := frames_alike_iff finds (fun _ _ => rfl) same delivers delivers'
  unfold RecognisedFirst
  rw [← alike]
  constructor
  · intro splits
    obtain ⟨frames', _, _, runs₁, runs₂, _⟩ := splits
    rw [runs, Option.some_inj, mk.injEq] at runs₁
    rw [runs', Option.some_inj, mk.injEq] at runs₂
    rw [runs₁.1, runs₂.1]
  · intro equal
    exact ⟨_, last, last', runs, equal ▸ runs', conserved⟩

end

def plainBuffer (next : UInt8) (bytes : List UInt8) : Buffer := (fun _ => next, ⟨bytes, 0, 0⟩)

/-- Two MPEG-4 pictures in two buffers, cut where the second one begins. -/
theorem cut_between_pictures :
    RecognisedFirst (.mpeg4 true)
      [plainBuffer 0 [0, 0, 1, 0xB6, 0x10, 0x11], plainBuffer 0 [0, 0, 1, 0xB6, 0x20]]
      (plainBuffer 0 [0, 0, 1, 0xB6, 0x10, 0x11, 0, 0, 1, 0xB6, 0x20]) := by
  refine (pictures_alike_iff 32 20 ⟨false, false, 0, 0⟩ rfl ?_ ?_ ?_ ?_).2.mp ?_
  · unfold Plain
    decide
  · intro buffer member k _
    simp only [plainBuffer, mem_cons, not_mem_nil, or_false] at member
    rcases member with rfl | rfl | rfl
    · simp [Codec.switches]
    · simp [Codec.switches]
    · simp [Codec.switches]
  · decide
  · decide
  · have cut : (splitFramesIn (Codec.mpeg4 true).check 20 (fun _ => 0)
        (emptyComponent 32 ⟨false, false, 0, 0⟩)
        [plainBuffer 0 [0, 0, 1, 0xB6, 0x10, 0x11], plainBuffer 0 [0, 0, 1, 0xB6, 0x20]]).map
        (fun run => (run.1, run.2.inputData.bytes)) =
          some ([[0, 0, 1, 0xB6, 0x10, 0x11]], [0, 0, 1, 0xB6, 0x20]) := by
      decide +kernel
    have uncut : (splitFramesIn (Codec.mpeg4 true).check 20 (fun _ => 0)
        (emptyComponent 32 ⟨false, false, 0, 0⟩)
        [plainBuffer 0 [0, 0, 1, 0xB6, 0x10, 0x11, 0, 0, 1, 0xB6, 0x20]]).map fst =
          some [[0, 0, 1, 0xB6, 0x10, 0x11]] := by
      decide +kernel
    obtain ⟨⟨frames, last⟩, runs, result⟩ := Option.map_eq_some_iff.mp cut
    obtain ⟨⟨frames', last'⟩, runs', rfl⟩ := Option.map_eq_some_iff.mp uncut
    obtain ⟨rfl, left⟩ := mk.inj result
    exact ⟨_, last, last', runs, runs', by rw [left]; rfl⟩

theorem splits_differ {codec : Codec} {inputs : List Buffer} {whole : Buffer} {turns : Nat}
    {allocSize : Nat} {checkTimeStamp : CheckTimeStamp}
    (differ : (splitFramesIn codec.check turns whole.1 (emptyComponent allocSize checkTimeStamp)
        inputs).map fst ≠
      (splitFramesIn codec.check turns whole.1 (emptyComponent allocSize checkTimeStamp)
        [whole]).map fst) :
    ¬ SplitsAlike codec allocSize turns checkTimeStamp inputs whole := by
  intro alike
  obtain ⟨frames, last, last', runs, runs', -⟩ := alike
  apply differ
  rw [runs, runs']
  rfl

/-- For each codec a cut inside a start code hides the end of a frame, and for H.263 a byte behind
    a buffer ends a frame that does not end there. -/
theorem cut_pictures_missed :
    ¬ SplitsAlike (.mpeg4 true) 32 20 ⟨false, false, 0, 0⟩
      [plainBuffer 0 [0, 0, 1, 0xB6, 0x10, 0, 0], plainBuffer 0 [1, 0xB6, 0x20]]
      (plainBuffer 0 [0, 0, 1, 0xB6, 0x10, 0, 0, 1, 0xB6, 0x20]) ∧
    ¬ SplitsAlike .h263 32 20 ⟨false, false, 0, 0⟩
      [plainBuffer 0 [0, 0, 0x80, 0x02, 0x10, 0, 0], plainBuffer 0 [0x80, 0x02, 0x20]]
      (plainBuffer 0 [0, 0, 0x80, 0x02, 0x10, 0, 0, 0x80, 0x02, 0x20]) ∧
    ¬ SplitsAlike (.vc1 .unknown) 32 20 ⟨false, false, 0, 0⟩
      [plainBuffer 0 [0, 0, 1, 0x0D, 0x10, 0, 0], plainBuffer 0 [1, 0x0D, 0x20]]
      (plainBuffer 0 [0, 0, 1, 0x0D, 0x10, 0, 0, 1, 0x0D, 0x20]) ∧
    ¬ SplitsAlike .h263 32 20 ⟨false, false, 0, 0⟩
      [plainBuffer 2 [0, 0, 0x80, 0x02, 0x10, 0, 0, 0x80], plainBuffer 0 [0x03, 0x20]]
      (plainBuffer 0 [0, 0, 0x80, 0x02, 0x10, 0, 0, 0x80, 0x03, 0x20]) := by
  refine ⟨splits_differ ?_, splits_differ ?_, splits_differ ?_, splits_differ ?_⟩
  · decide +kernel
  · decide +kernel
  · decide +kernel
  · decide +kernel

end PictureCuts
