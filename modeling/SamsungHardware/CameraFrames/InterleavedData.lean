import SamsungHardware.Library.ByteBuffer

/- `decodeInterleaveData` of the camera: words of a JPEG stream, padding and lines of video, told apart
   by their first bytes. The buffers have the sizes that the caller knows; an access outside of them, or
   to a byte of the JPEG buffer that was not written, has no result. The data pointer is not NULL. -/
namespace InterleavedData
open ByteBuffer Option Bool Nat
open List (append_assoc length_append length_cons length_drop length_nil length_take)

section

structure Call where
  pInterleaveData : Bytes
  (yuvWidth yuvHeight : Nat)
  (hasJpeg hasYuv : Bool)

structure Decoder where
  i : Nat
  (jpeg yuv : Bytes)
  ret : Bool

variable (c : Call)

def Call.yuvCapacity : Nat := c.yuvWidth * c.yuvHeight * 2

def append (capacity : Nat) (written bytes : Bytes) : Option Bytes :=
  if written.length + bytes.length ≤ capacity then some (written ++ bytes) else none

def isPadding (word : UInt32) : Bool :=
  word == 0xFFFFFFFF || word == 0x02FFFFFF || word == 0xFF02FFFF

def startsYuv (word : UInt32) : Bool := word &&& 0xFFFF == 0x05FF

variable (s : Decoder)

def writeLine : Option Bytes :=
  if c.hasYuv then
    (slice c.pInterleaveData (s.i + 2) (c.yuvWidth * 2)).bind (append c.yuvCapacity s.yuv)
  else some s.yuv

def writeWord : Option Bytes :=
  if c.hasJpeg then
    (slice c.pInterleaveData s.i 4).bind (append c.pInterleaveData.length s.jpeg)
  else some s.jpeg

def copyLine : Option Decoder := do
  let yuv ← writeLine c s
  let p := s.i + 2 + c.yuvWidth * 2
  let first ← c.pInterleaveData[p]?
  if first = 0xFF then
    let second ← c.pInterleaveData[p + 1]?
    if second = 0x06 then some { s with yuv := yuv, i := p + 2 }
    else some { s with yuv := yuv, i := p, ret := false }
  else some { s with yuv := yuv, i := p, ret := false }

def copyWord : Option Decoder := do
  let jpeg ← writeWord c s
  some { s with jpeg := jpeg, i := s.i + 4 }

def pass : Option Decoder := do
  let word ← wordAt c.pInterleaveData s.i
  if isPadding word then some { s with i := s.i + 4 }
  else if startsYuv word then copyLine c s
  else copyWord c s

def passes (c : Call) : Nat → Decoder → Option Decoder
  | 0, s => some s
  | fuel + 1, s =>
    if s.i < c.pInterleaveData.length ∧ s.ret = true then (pass c s).bind (passes c fuel) else some s

def trim (jpeg : Bytes) : Nat → Nat → Nat → Option Nat
  | 0, _, size => some size
  | _ + 1, 0, _ => none
  | tries + 1, ptr + 1, size => do
    let byte ← jpeg[ptr]?
    if byte ≠ 0xFF then some size else trim jpeg tries ptr (size - 1)

structure Outcome where
  ret : Bool
  pJpegSize : Option Nat
  (jpeg yuv : Bytes)

def finish : Option Outcome :=
  if s.ret then do
    let size ← if c.hasJpeg then (trim s.jpeg 3 s.jpeg.length s.jpeg.length).map some else some none
    some ⟨!(c.hasYuv && s.yuv.length != c.yuvCapacity), size, s.jpeg, s.yuv⟩
  else some ⟨false, none, s.jpeg, s.yuv⟩

/-- Every pass goes on by more than a byte. -/
def decodeInterleaveData : Option Outcome :=
  (passes c c.pInterleaveData.length ⟨0, [], [], true⟩).bind (finish c)

end

/-- What follows a line that does not end with its end code, as far as it is looked at. -/
def Broken (tail : Bytes) : Prop :=
  (∃ first rest, tail = first :: rest ∧ first ≠ 0xFF) ∨
    ∃ second rest, tail = 0xFF :: second :: rest ∧ second ≠ 0x06

/-- The data is words and lines up to its end, or up to a line without its end code; with the number of
    the lines, that of the words of the stream, and whether the end was reached. -/
inductive Parses (width : Nat) : Bytes → Nat → Nat → Bool → Prop where
  | done : Parses width [] 0 0 true
  | padding {quad rest : Bytes} {word : UInt32} {lines words : Nat} {whole : Bool}
      (reads : readLe32 quad = some word) (pads : isPadding word = true)
      (later : Parses width rest lines words whole) : Parses width (quad ++ rest) lines words whole
  | word {quad rest : Bytes} {word : UInt32} {lines words : Nat} {whole : Bool}
      (reads : readLe32 quad = some word) (data : isPadding word = false)
      (other : startsYuv word = false) (later : Parses width rest lines words whole) :
      Parses width (quad ++ rest) lines (words + 1) whole
  | line {payload rest : Bytes} {lines words : Nat} {whole : Bool}
      (length : payload.length = width * 2) (later : Parses width rest lines words whole) :
      Parses width ([0xFF, 0x05] ++ (payload ++ ([0xFF, 0x06] ++ rest))) (lines + 1) words whole
  | broken {payload tail : Bytes} (length : payload.length = width * 2) (ends : Broken tail) :
      Parses width ([0xFF, 0x05] ++ (payload ++ tail)) 1 0 false

/-- The lines fit into the video buffer, and a stream that is trimmed has a word. -/
def Fits (c : Call) (lines words : Nat) (whole : Bool) : Prop :=
  (c.hasYuv = true → lines ≤ c.yuvHeight) ∧ (c.hasJpeg = true → whole = true → 0 < words)

theorem readLe32_length {quad : Bytes} {word : UInt32} (reads : readLe32 quad = some word) :
    quad.length = 4 := by
  match quad, reads with
  | [_, _, _, _], _ => rfl

theorem Parses.words_bound {width lines words : Nat} {data : Bytes} {whole : Bool}
    (parses : Parses width data lines words whole) : words * 4 ≤ data.length := by
  induction parses with
  | done => exact Nat.le_refl 0
  | padding reads _ _ ih =>
    rw [length_append]
    omega
  | word reads _ _ _ ih =>
    rw [length_append, readLe32_length reads]
    omega
  | line length _ ih =>
    simp only [length_append, length_cons]
    omega
  | broken length _ => omega

section

variable {before quad rest : Bytes} {word : UInt32}

theorem wordAt_behind (reads : readLe32 quad = some word) :
    wordAt (before ++ (quad ++ rest)) before.length = some word := by
  have part := slice_append before quad rest
  rw [readLe32_length reads, append_assoc] at part
  rw [wordAt, part, bind_some, reads]

theorem startsYuv_iff {a b c d : UInt8} (reads : readLe32 [a, b, c, d] = some word) :
    startsYuv word = true ↔ a = 0xFF ∧ b = 0x05 := by
  have value : word.toNat = a.toNat + b.toNat * 2 ^ 8 + c.toNat * 2 ^ 16 + d.toNat * 2 ^ 24 := by
    have same := Option.some.inj reads
    have := a.toNat_lt
    have := b.toNat_lt
    have := c.toNat_lt
    have := d.toNat_lt
    rw [← same, UInt32.toNat_ofNat']
    omega
  have low : (word &&& 0xFFFF).toNat = word.toNat % 2 ^ 16 := by
    exact and_two_pow_sub_one_eq_mod word.toNat 16
  have := a.toNat_lt
  have := b.toNat_lt
  rw [startsYuv, beq_iff_eq, ← UInt32.toNat_inj, ← UInt8.toNat_inj, ← UInt8.toNat_inj]
  change _ = 1535 ↔ _ = 255 ∧ _ = 5
  omega

theorem not_padding (starts : startsYuv word = true) : isPadding word = false := by
  rw [eq_false_iff]
  intro pads
  rw [isPadding, or_eq_true, or_eq_true, beq_iff_eq, beq_iff_eq, beq_iff_eq] at pads
  rcases pads with (rfl | rfl) | rfl <;> exact absurd starts (by decide)

theorem wordAt_line (before tail : Bytes) {payload : Bytes} (some_bytes : 2 ≤ payload.length) :
    ∃ word, wordAt (before ++ ([0xFF, 0x05] ++ (payload ++ tail))) before.length = some word ∧
      startsYuv word = true := by
  match payload, some_bytes with
  | a :: b :: others, _ =>
    have reads : ∃ word, readLe32 [0xFF, 0x05, a, b] = some word := ⟨_, rfl⟩
    obtain ⟨word, reads⟩ := reads
    refine ⟨word, ?_, (startsYuv_iff reads).mpr ⟨rfl, rfl⟩⟩
    have there := @wordAt_behind before _ (others ++ tail) _ reads
    exact there

end

variable {s s' : Decoder}

section

variable {c : Call} {before quad rest payload tail : Bytes} {word : UInt32}

structure At (c : Call) (s : Decoder) (before rest : Bytes) : Prop where
  data : c.pInterleaveData = before ++ rest
  here : s.i = before.length
  running : s.ret = true

theorem At.behind {part : Bytes} (place : At c s before (part ++ rest)) (next : s'.i = s.i + part.length)
    (running : s'.ret = true) : At c s' (before ++ part) rest := by
  refine ⟨?_, ?_, running⟩
  · rw [append_assoc]
    exact place.data
  · rw [length_append, next, place.here]

theorem pass_padding (place : At c s before (quad ++ rest)) (reads : readLe32 quad = some word)
    (pads : isPadding word = true) : pass c s = some { s with i := s.i + 4 } := by
  unfold pass
  rw [place.data, place.here, wordAt_behind reads]
  dsimp only [bind_eq_bind, bind_some]
  rw [if_pos pads]

theorem pass_word (place : At c s before (quad ++ rest)) (reads : readLe32 quad = some word)
    (data : isPadding word = false) (other : startsYuv word = false)
    (room : c.hasJpeg = true → s.jpeg.length + 4 ≤ c.pInterleaveData.length) :
    pass c s = some { s with
      jpeg := if c.hasJpeg then s.jpeg ++ quad else s.jpeg
      i := s.i + 4 } := by
  have part := slice_append before quad rest
  rw [readLe32_length reads, append_assoc, ← place.data, ← place.here] at part
  have word_here : wordAt c.pInterleaveData s.i = some word := by
    rw [place.data, place.here]
    exact wordAt_behind reads
  have written : writeWord c s = some (if c.hasJpeg then s.jpeg ++ quad else s.jpeg) := by
    rw [writeWord, part]
    by_cases wanted : c.hasJpeg = true
    · have fits := room wanted
      rw [← readLe32_length reads] at fits
      rw [if_pos wanted, if_pos wanted, bind_some, append, if_pos fits]
    · rw [if_neg wanted, if_neg wanted]
  unfold pass copyWord
  rw [word_here, written]
  dsimp only [bind_eq_bind, bind_some]
  rw [data, other]
  rfl

theorem pass_line (place : At c s before ([0xFF, 0x05] ++ (payload ++ tail)))
    (length : payload.length = c.yuvWidth * 2) (positive : 0 < c.yuvWidth)
    (room : c.hasYuv = true → s.yuv.length + c.yuvWidth * 2 ≤ c.yuvCapacity) :
    pass c s = (tail[0]?).bind fun first =>
      if first = 0xFF then (tail[1]?).bind fun second =>
        if second = 0x06 then some { s with
          yuv := if c.hasYuv then s.yuv ++ payload else s.yuv
          i := s.i + 2 + c.yuvWidth * 2 + 2 }
        else some { s with
          yuv := if c.hasYuv then s.yuv ++ payload else s.yuv
          i := s.i + 2 + c.yuvWidth * 2
          ret := false }
      else some { s with
        yuv := if c.hasYuv then s.yuv ++ payload else s.yuv
        i := s.i + 2 + c.yuvWidth * 2
        ret := false } := by
  have some_bytes : 2 ≤ payload.length := by omega
  obtain ⟨word, word_here, starts⟩ := wordAt_line before tail some_bytes
  rw [← place.data, ← place.here] at word_here
  have bytes : slice c.pInterleaveData (s.i + 2) (c.yuvWidth * 2) = some payload := by
    have part := slice_append (before ++ [0xFF, 0x05]) payload tail
    rw [length_append, ← place.here, length] at part
    rw [place.data]
    simpa using part
  have behind : ∀ k, c.pInterleaveData[s.i + 2 + c.yuvWidth * 2 + k]? = tail[k]? := by
    intro k
    rw [place.data, place.here, ← length, Nat.add_assoc, Nat.add_assoc,
      List.getElem?_append_right (by omega), List.getElem?_append_right (by simp),
      List.getElem?_append_right (by simp)]
    simp
  have copied : writeLine c s = some (if c.hasYuv then s.yuv ++ payload else s.yuv) := by
    rw [writeLine]
    by_cases wanted : c.hasYuv = true
    · have fits := room wanted
      rw [← length] at fits
      rw [if_pos wanted, if_pos wanted, bytes, bind_some, append, if_pos fits]
    · rw [if_neg wanted, if_neg wanted]
  unfold pass copyLine
  rw [word_here]
  dsimp only [bind_eq_bind, bind_some]
  have at_end := behind 0
  rw [Nat.add_zero] at at_end
  rw [not_padding starts, starts, copied]
  simp only [false_eq_true, if_false, if_true, bind_some, at_end, behind 1]

end

variable {before rest : Bytes}

section

variable {c : Call} {lines words : Nat} {whole : Bool}

structure Grown (c : Call) (s s' : Decoder) (lines words : Nat) (whole : Bool) : Prop where
  ret : s'.ret = whole
  jpeg : c.hasJpeg = true → s'.jpeg.length = s.jpeg.length + words * 4
  yuv : c.hasYuv = true → s'.yuv.length = s.yuv.length + lines * (c.yuvWidth * 2)

theorem Grown.nothing (running : s.ret = true) : Grown c s s 0 0 true :=
  ⟨running, fun _ => by simp, fun _ => by simp⟩

theorem Grown.word {middle : Decoder} (grown : Grown c middle s' lines words whole)
    (jpeg : c.hasJpeg = true → middle.jpeg.length = s.jpeg.length + 4) (yuv : middle.yuv = s.yuv) :
    Grown c s s' lines (words + 1) whole := by
  refine ⟨grown.ret, ?_, yuv ▸ grown.yuv⟩
  intro wanted
  rw [grown.jpeg wanted, jpeg wanted]
  omega

theorem Grown.line {middle : Decoder} (grown : Grown c middle s' lines words whole)
    (jpeg : middle.jpeg = s.jpeg)
    (yuv : c.hasYuv = true → middle.yuv.length = s.yuv.length + c.yuvWidth * 2) :
    Grown c s s' (lines + 1) words whole := by
  refine ⟨grown.ret, jpeg ▸ grown.jpeg, ?_⟩
  intro wanted
  rw [grown.yuv wanted, yuv wanted, succ_mul]
  omega

theorem Grown.stopped (ret : s'.ret = false) (jpeg : s'.jpeg = s.jpeg)
    (yuv : c.hasYuv = true → s'.yuv.length = s.yuv.length + c.yuvWidth * 2) :
    Grown c s s' 1 0 false := by
  refine ⟨ret, fun _ => by simp [jpeg], ?_⟩
  intro wanted
  rw [yuv wanted, Nat.one_mul]

theorem At.behind_line {payload : Bytes}
    (place : At c s before ([0xFF, 0x05] ++ (payload ++ ([0xFF, 0x06] ++ rest))))
    (length : payload.length = c.yuvWidth * 2) (next : s'.i = s.i + 2 + c.yuvWidth * 2 + 2)
    (running : s'.ret = true) :
    At c s' (before ++ ([0xFF, 0x05] ++ (payload ++ [0xFF, 0x06]))) rest := by
  have whole : At c s before (([0xFF, 0x05] ++ (payload ++ [0xFF, 0x06])) ++ rest) := by
    simpa using place
  apply whole.behind _ running
  simp only [next, length_append, length_cons, length_nil, length]
  omega

theorem passes_stop (fuel : Nat) (stops : ¬ (s.i < c.pInterleaveData.length ∧ s.ret = true)) :
    passes c fuel s = some s := by
  cases fuel with
  | zero => rfl
  | succ fuel => rw [passes, if_neg stops]

theorem At.stop (place : At c s before []) (fuel : Nat) : passes c fuel s = some s := by
  apply passes_stop
  rintro ⟨inside, _⟩
  rw [place.data, place.here, List.append_nil] at inside
  exact Nat.lt_irrefl _ inside

theorem At.step (place : At c s before rest) (more : rest ≠ []) (fuel : Nat) :
    passes c (fuel + 1) s = (pass c s).bind (passes c fuel) := by
  have some_left := List.length_pos_iff.mpr more
  rw [passes, if_pos]
  refine ⟨?_, place.running⟩
  rw [place.data, place.here, length_append]
  omega

def Decodes (c : Call) (rest : Bytes) (lines words : Nat) (whole : Bool) : Prop :=
  ∀ {before : Bytes} {s : Decoder} (fuel : Nat), At c s before rest → rest.length ≤ fuel →
    (c.hasYuv = true → s.yuv.length + lines * (c.yuvWidth * 2) ≤ c.yuvCapacity) →
    (c.hasJpeg = true → s.jpeg.length + words * 4 ≤ c.pInterleaveData.length) →
    ∃ s', passes c fuel s = some s' ∧ Grown c s s' lines words whole

theorem padding_decodes {quad : Bytes} {word : UInt32} (reads : readLe32 quad = some word)
    (pads : isPadding word = true) (later : Decodes c rest lines words whole) :
    Decodes c (quad ++ rest) lines words whole := by
  intro before s fuel place enough yuvRoom jpegRoom
  have four := readLe32_length reads
  rw [length_append] at enough
  obtain ⟨fuel, rfl⟩ := exists_eq_succ_of_ne_zero (show fuel ≠ 0 by omega)
  have next : At c { s with i := s.i + 4 } (before ++ quad) rest :=
    place.behind (by rw [four]) place.running
  obtain ⟨s', runs, grown⟩ := later fuel next (by omega) yuvRoom jpegRoom
  refine ⟨s', ?_, grown.ret, grown.jpeg, grown.yuv⟩
  rw [place.step (List.ne_nil_of_length_pos (by rw [length_append]; omega)),
    pass_padding place reads pads]
  exact runs

theorem word_decodes {quad : Bytes} {word : UInt32} (reads : readLe32 quad = some word)
    (data : isPadding word = false) (other : startsYuv word = false)
    (later : Decodes c rest lines words whole) : Decodes c (quad ++ rest) lines (words + 1) whole := by
  intro before s fuel place enough yuvRoom jpegRoom
  have four := readLe32_length reads
  rw [length_append] at enough
  obtain ⟨fuel, rfl⟩ := exists_eq_succ_of_ne_zero (show fuel ≠ 0 by omega)
  let copied : Decoder := { s with
    jpeg := if c.hasJpeg then s.jpeg ++ quad else s.jpeg
    i := s.i + 4 }
  have longer : c.hasJpeg = true → copied.jpeg.length = s.jpeg.length + 4 := by
    intro wanted
    dsimp only [copied]
    rw [if_pos wanted, length_append, four]
  have next : At c copied (before ++ quad) rest := place.behind (by rw [four]) place.running
  obtain ⟨s', runs, grown⟩ := later fuel next (by omega) yuvRoom (by
    intro wanted
    have room := jpegRoom wanted
    rw [longer wanted]
    omega)
  refine ⟨s', ?_, grown.word longer rfl⟩
  rw [place.step (List.ne_nil_of_length_pos (by rw [length_append]; omega)),
    pass_word place reads data other (fun wanted => by have := jpegRoom wanted; omega)]
  exact runs

theorem line_decodes {payload : Bytes} (positive : 0 < c.yuvWidth)
    (length : payload.length = c.yuvWidth * 2) (later : Decodes c rest lines words whole) :
    Decodes c ([0xFF, 0x05] ++ (payload ++ ([0xFF, 0x06] ++ rest))) (lines + 1) words whole := by
  intro before s fuel place enough yuvRoom jpegRoom
  simp only [length_append, length_cons] at enough
  simp only [succ_mul] at yuvRoom
  obtain ⟨fuel, rfl⟩ := exists_eq_succ_of_ne_zero (show fuel ≠ 0 by omega)
  let copied : Decoder := { s with
    yuv := if c.hasYuv then s.yuv ++ payload else s.yuv
    i := s.i + 2 + c.yuvWidth * 2 + 2 }
  have longer : c.hasYuv = true → copied.yuv.length = s.yuv.length + c.yuvWidth * 2 := by
    intro wanted
    dsimp only [copied]
    rw [if_pos wanted, length_append, length]
  have next : At c copied (before ++ ([0xFF, 0x05] ++ (payload ++ [0xFF, 0x06]))) rest :=
    place.behind_line length rfl place.running
  obtain ⟨s', runs, grown⟩ := later fuel next (by omega) (by
    intro wanted
    have room := yuvRoom wanted
    rw [longer wanted]
    omega) jpegRoom
  refine ⟨s', ?_, grown.line rfl longer⟩
  rw [place.step (by simp), pass_line place length positive (by
    intro wanted
    have room := yuvRoom wanted
    omega)]
  exact runs

theorem broken_decodes {payload tail : Bytes} (positive : 0 < c.yuvWidth)
    (length : payload.length = c.yuvWidth * 2) (ends : Broken tail) :
    Decodes c ([0xFF, 0x05] ++ (payload ++ tail)) 1 0 false := by
  intro before s fuel place enough yuvRoom jpegRoom
  simp only [length_append, length_cons] at enough
  simp only [Nat.one_mul] at yuvRoom
  obtain ⟨fuel, rfl⟩ := Nat.exists_eq_succ_of_ne_zero (show fuel ≠ 0 by omega)
  let copied : Decoder := { s with
    yuv := if c.hasYuv then s.yuv ++ payload else s.yuv
    i := s.i + 2 + c.yuvWidth * 2
    ret := false }
  have longer : c.hasYuv = true → copied.yuv.length = s.yuv.length + c.yuvWidth * 2 := by
    intro wanted
    dsimp only [copied]
    rw [if_pos wanted, length_append, length]
  refine ⟨copied, ?_, Grown.stopped rfl rfl longer⟩
  rw [place.step (by simp), pass_line place length positive yuvRoom]
  have stops : passes c fuel copied = some copied := passes_stop fuel fun both => by cases both.2
  rcases ends with ⟨first, others, rfl, other⟩ | ⟨second, others, rfl, other⟩
  · rw [List.getElem?_cons_zero, bind_some, if_neg other]
    exact stops
  · rw [List.getElem?_cons_zero, bind_some, List.getElem?_cons_succ,
      List.getElem?_cons_zero, bind_some, if_neg other]
    exact stops

theorem decodes_of_parses (positive : 0 < c.yuvWidth) (parses : Parses c.yuvWidth rest lines words whole) :
    Decodes c rest lines words whole := by
  induction parses with
  | done =>
    intro before s fuel place _ _ _
    exact ⟨s, place.stop fuel, Grown.nothing place.running⟩
  | padding reads pads later ih => exact padding_decodes reads pads ih
  | word reads data other later ih => exact word_decodes reads data other ih
  | line length later ih => exact line_decodes positive length ih
  | broken length ends => exact broken_decodes positive length ends

end

section

variable {c : Call}

theorem wordAt_inv {word : UInt32} (found : wordAt (before ++ rest) before.length = some word) :
    ∃ quad later, rest = quad ++ later ∧ readLe32 quad = some word := by
  obtain ⟨quad, part, reads⟩ := bind_eq_some_iff.mp found
  rw [show before.length = before.length + 0 from rfl, slice_right] at part
  obtain ⟨_, rfl⟩ := slice_some part
  exact ⟨_, _, (List.take_append_drop 4 rest).symm, reads⟩

theorem append_room {capacity : Nat} {written bytes longer : Bytes}
    (copied : append capacity written bytes = some longer) :
    written.length + bytes.length ≤ capacity := by
  unfold append at copied
  split_ifs at copied with fits
  exact fits

theorem writeWord_room {jpeg : Bytes} (written : writeWord c s = some jpeg) (wanted : c.hasJpeg = true) :
    s.jpeg.length + 4 ≤ c.pInterleaveData.length := by
  rw [writeWord, if_pos wanted] at written
  obtain ⟨bytes, part, copied⟩ := bind_eq_some_iff.mp written
  obtain ⟨inside, rfl⟩ := slice_some part
  have room := append_room copied
  rw [length_take, length_drop] at room
  omega

theorem writeLine_room {yuv : Bytes} (written : writeLine c s = some yuv) (wanted : c.hasYuv = true) :
    s.yuv.length + c.yuvWidth * 2 ≤ c.yuvCapacity := by
  rw [writeLine, if_pos wanted] at written
  obtain ⟨bytes, part, copied⟩ := bind_eq_some_iff.mp written
  obtain ⟨inside, rfl⟩ := slice_some part
  have room := append_room copied
  rw [length_take, length_drop] at room
  omega

theorem line_split {width : Nat} (long : 2 + width * 2 < rest.length) (first : rest[0]? = some 0xFF)
    (second : rest[1]? = some 0x05) :
    ∃ payload tail, rest = [0xFF, 0x05] ++ (payload ++ tail) ∧ payload.length = width * 2 ∧
      tail ≠ [] := by
  match rest, first, second with
  | a :: b :: others, first, second =>
    cases first
    cases second
    simp only [length_cons] at long
    refine ⟨others.take (width * 2), others.drop (width * 2), ?_, ?_, ?_⟩
    · rw [List.take_append_drop]
      rfl
    · rw [length_take]
      omega
    · intro none
      have length := congrArg List.length none
      rw [length_drop, length_nil] at length
      omega

theorem copyLine_split (place : At c s before rest) (copied : copyLine c s = some s')
    (first : rest[0]? = some 0xFF) (second : rest[1]? = some 0x05) :
    (c.hasYuv = true → s.yuv.length + c.yuvWidth * 2 ≤ c.yuvCapacity) ∧
      ∃ payload tail, rest = [0xFF, 0x05] ++ (payload ++ tail) ∧
        payload.length = c.yuvWidth * 2 ∧ tail ≠ [] := by
  obtain ⟨yuv, written, copied⟩ := bind_eq_some_iff.mp copied
  obtain ⟨byte, found, _⟩ := bind_eq_some_iff.mp copied
  refine ⟨writeLine_room written, line_split ?_ first second⟩
  have bound := (List.getElem?_eq_some_iff.mp found).1
  rw [place.data, place.here, length_append] at bound
  omega

theorem line_outcome {payload tail : Bytes} (place : At c s before ([0xFF, 0x05] ++ (payload ++ tail)))
    (length : payload.length = c.yuvWidth * 2) (positive : 0 < c.yuvWidth) (more : tail ≠ [])
    (room : c.hasYuv = true → s.yuv.length + c.yuvWidth * 2 ≤ c.yuvCapacity)
    (passed : pass c s = some s') :
    s'.jpeg = s.jpeg ∧ (c.hasYuv = true → s'.yuv.length = s.yuv.length + c.yuvWidth * 2) ∧
      ((∃ later, tail = [0xFF, 0x06] ++ later ∧ s'.i = s.i + 2 + c.yuvWidth * 2 + 2 ∧ s'.ret = s.ret) ∨
        (Broken tail ∧ s'.ret = false)) := by
  have longer : c.hasYuv = true →
      (if c.hasYuv then s.yuv ++ payload else s.yuv).length = s.yuv.length + c.yuvWidth * 2 := by
    intro wanted
    rw [if_pos wanted, length_append, length]
  rw [pass_line place length positive room] at passed
  obtain ⟨first, others, rfl⟩ := List.exists_cons_of_ne_nil more
  rw [List.getElem?_cons_zero, bind_some] at passed
  by_cases code : first = 0xFF
  · subst code
    obtain ⟨second, found, decided⟩ := bind_eq_some_iff.mp passed
    cases others with
    | nil => cases found
    | cons byte later =>
      cases found
      by_cases ends : second = 0x06
      · subst ends
        cases decided
        exact ⟨rfl, longer, Or.inl ⟨later, rfl, rfl, rfl⟩⟩
      · rw [if_neg ends] at decided
        cases decided
        exact ⟨rfl, longer, Or.inr ⟨Or.inr ⟨second, later, rfl, ends⟩, rfl⟩⟩
  · rw [if_neg code] at passed
    cases passed
    exact ⟨rfl, longer, Or.inr ⟨Or.inl ⟨first, others, rfl, code⟩, rfl⟩⟩

/-- The rest of the data has the form that the loop decodes, and the loop has stayed inside
    the video buffer. -/
def Decoded (c : Call) (s s' : Decoder) (rest : Bytes) : Prop :=
  ∃ lines words whole, Parses c.yuvWidth rest lines words whole ∧ Grown c s s' lines words whole ∧
    (c.hasYuv = true → s.yuv.length ≤ c.yuvCapacity → s'.yuv.length ≤ c.yuvCapacity)

theorem decoded_nil (running : s.ret = true) : Decoded c s s [] :=
  ⟨0, 0, true, .done, Grown.nothing running, fun _ room => room⟩

theorem line_decoded {payload tail : Bytes} {middle : Decoder} {fuel : Nat} (positive : 0 < c.yuvWidth)
    (place : At c s before ([0xFF, 0x05] ++ (payload ++ tail)))
    (length : payload.length = c.yuvWidth * 2) (more : tail ≠ [])
    (room : c.hasYuv = true → s.yuv.length + c.yuvWidth * 2 ≤ c.yuvCapacity)
    (passed : pass c s = some middle) (runs : passes c fuel middle = some s')
    (later : ∀ {before rest : Bytes}, rest.length < tail.length → At c middle before rest →
      Decoded c middle s' rest) : Decoded c s s' ([0xFF, 0x05] ++ (payload ++ tail)) := by
  obtain ⟨jpeg, yuv, outcome⟩ := line_outcome place length positive more room passed
  have inside : c.hasYuv = true → middle.yuv.length ≤ c.yuvCapacity := by
    intro wanted
    rw [yuv wanted]
    exact room wanted
  rcases outcome with ⟨rest, rfl, next, running⟩ | ⟨ends, stopped⟩
  · have behind := place.behind_line length next (running.trans place.running)
    have fewer : rest.length < ([0xFF, 0x06] ++ rest).length := by
      rw [length_append]
      exact Nat.lt_add_of_pos_left (by decide)
    obtain ⟨lines, words, whole, parses, grown, kept⟩ := later fewer behind
    exact ⟨lines + 1, words, whole, .line length parses, grown.line jpeg yuv,
      fun wanted _ => kept wanted (inside wanted)⟩
  · rw [passes_stop fuel fun both => by rw [stopped] at both; cases both.2] at runs
    cases runs
    exact ⟨1, 0, false, .broken length ends, Grown.stopped stopped jpeg yuv,
      fun wanted _ => inside wanted⟩

theorem decoded_of_passes (positive : 0 < c.yuvWidth) :
    ∀ (fuel : Nat) {before rest : Bytes} {s : Decoder}, At c s before rest → rest.length ≤ fuel →
      passes c fuel s = some s' → Decoded c s s' rest := by
  intro fuel
  induction fuel with
  | zero =>
    intro before rest s place enough runs
    cases runs
    rw [List.eq_nil_of_length_eq_zero (le_zero.mp enough)]
    exact decoded_nil place.running
  | succ fuel ih =>
    intro before rest s place enough runs
    by_cases none : rest = []
    · subst none
      rw [place.stop] at runs
      cases runs
      exact decoded_nil place.running
    · rw [place.step none] at runs
      obtain ⟨middle, passed, runs⟩ := bind_eq_some_iff.mp runs
      have taken := passed
      obtain ⟨word, found, taken⟩ := bind_eq_some_iff.mp taken
      rw [place.data, place.here] at found
      obtain ⟨quad, later, rfl, reads⟩ := wordAt_inv found
      have four := readLe32_length reads
      have shorter : later.length ≤ fuel := by
        rw [length_append] at enough
        omega
      split_ifs at taken with pads starts
      · cases taken
        have next : At c { s with i := s.i + 4 } (before ++ quad) later :=
          place.behind (by rw [four]) place.running
        obtain ⟨lines, words, whole, parses, grown, room⟩ := ih next shorter runs
        exact ⟨lines, words, whole, .padding reads pads parses,
          ⟨grown.ret, grown.jpeg, grown.yuv⟩, room⟩
      · have codes : (quad ++ later)[0]? = some 0xFF ∧ (quad ++ later)[1]? = some 0x05 := by
          match quad, reads with
          | [a, b, c, d], reads =>
            obtain ⟨rfl, rfl⟩ := (startsYuv_iff reads).mp starts
            exact ⟨rfl, rfl⟩
        obtain ⟨room, payload, tail, same, length, more⟩ :=
          copyLine_split place taken codes.1 codes.2
        rw [same] at place enough ⊢
        apply line_decoded positive place length more room passed runs
        intro before rest fewer behind
        simp only [length_append, length_cons] at enough
        exact ih behind (by omega) runs
      · obtain ⟨jpeg, written, _⟩ := bind_eq_some_iff.mp taken
        have data := eq_false_iff.mpr pads
        have other := eq_false_iff.mpr starts
        rw [pass_word place reads data other (writeWord_room written)] at passed
        cases passed
        have next : At c { s with
            jpeg := if c.hasJpeg then s.jpeg ++ quad else s.jpeg
            i := s.i + 4 } (before ++ quad) later := place.behind (by rw [four]) place.running
        obtain ⟨lines, words, whole, parses, grown, room⟩ := ih next shorter runs
        refine ⟨lines, words + 1, whole, .word reads data other parses, grown.word ?_ rfl, room⟩
        intro wanted
        rw [if_pos wanted, length_append, four]

end

theorem trim_some (jpeg : Bytes) : ∀ {tries ptr : Nat} (size : Nat), tries ≤ ptr → ptr ≤ jpeg.length →
    (trim jpeg tries ptr size).isSome = true := by
  intro tries
  induction tries with
  | zero =>
    intro ptr size _ _
    rfl
  | succ tries ih =>
    intro ptr size enough inside
    obtain ⟨ptr, rfl⟩ := exists_eq_succ_of_ne_zero (show ptr ≠ 0 by omega)
    have found : jpeg[ptr]? = some jpeg[ptr] := List.getElem?_eq_getElem inside
    rw [trim, found]
    dsimp only [bind_eq_bind, bind_some]
    split_ifs
    · rfl
    · exact ih (size - 1) (le_of_succ_le_succ enough) (by omega)

theorem finish_some {c : Call} {s : Decoder} {words : Nat}
    (length : c.hasJpeg = true → s.jpeg.length = words * 4) :
    (finish c s).isSome = true ↔ (c.hasJpeg = true → s.ret = true → 0 < words) := by
  unfold finish
  by_cases whole : s.ret = true
  · rw [if_pos whole]
    by_cases wanted : c.hasJpeg = true
    · have count := length wanted
      cases words with
      | zero =>
        rw [if_pos wanted, count]
        exact iff_of_false (by simp [trim]) fun all => absurd (all wanted whole) (Nat.lt_irrefl 0)
      | succ words =>
        have enough : 3 ≤ s.jpeg.length := by omega
        have trimmed := trim_some s.jpeg s.jpeg.length enough (Nat.le_refl _)
        obtain ⟨size, trimmed⟩ := isSome_iff_exists.mp trimmed
        rw [if_pos wanted, trimmed]
        exact iff_of_true rfl fun _ _ => succ_pos words
    · rw [if_neg wanted]
      exact iff_of_true rfl fun given => absurd given wanted
  · rw [if_neg whole]
    exact iff_of_true rfl fun _ given => absurd given whole

/-- For all data and every size of the picture: every access is inside the buffers and to written bytes
    if and only if the data is words and lines up to its end or a broken line, with no more lines than
    the picture has and with a word of the stream to trim. -/
theorem decode_in_bounds_iff (c : Call) (width : 0 < c.yuvWidth) :
    (decodeInterleaveData c).isSome = true ↔
      ∃ lines words whole, Parses c.yuvWidth c.pInterleaveData lines words whole ∧
        Fits c lines words whole := by
  have place : At c ⟨0, [], [], true⟩ [] c.pInterleaveData := ⟨rfl, rfl, rfl⟩
  have fit : ∀ lines, lines * (c.yuvWidth * 2) ≤ c.yuvCapacity ↔ lines ≤ c.yuvHeight := by
    intro lines
    rw [Call.yuvCapacity, Nat.mul_right_comm, Nat.mul_comm]
    exact Nat.mul_le_mul_left_iff (by omega)
  have words_length {s lines words whole} (grown : Grown c ⟨0, [], [], true⟩ s lines words whole)
      (wanted : c.hasJpeg = true) : s.jpeg.length = words * 4 :=
    (grown.jpeg wanted).trans (Nat.zero_add _)
  rw [decodeInterleaveData]
  constructor
  · intro decoded
    obtain ⟨outcome, decoded⟩ := isSome_iff_exists.mp decoded
    obtain ⟨s, runs, ends⟩ := bind_eq_some_iff.mp decoded
    obtain ⟨lines, words, whole, parses, grown, room⟩ :=
      decoded_of_passes width _ place (Nat.le_refl _) runs
    have trimmed := (finish_some (words_length grown)).mp (by rw [ends]; rfl)
    rw [grown.ret] at trimmed
    refine ⟨lines, words, whole, parses, ?_, trimmed⟩
    intro wanted
    have inside := room wanted (Nat.zero_le _)
    rw [grown.yuv wanted, length_nil, Nat.zero_add] at inside
    exact (fit lines).mp inside
  · rintro ⟨lines, words, whole, parses, few, trimmed⟩
    obtain ⟨s, runs, grown⟩ := decodes_of_parses width parses _ place (Nat.le_refl _)
      (by
        intro wanted
        rw [length_nil, Nat.zero_add]
        exact (fit lines).mpr (few wanted))
      (by
        intro _
        rw [length_nil, Nat.zero_add]
        exact parses.words_bound)
    rw [runs, bind_some, finish_some (words_length grown), grown.ret]
    exact trimmed

def small : Call := ⟨[0xFF, 0x05, 0x10, 0x80, 0xFF, 0x06, 0x01, 0x02, 0x03, 0x04], 1, 1, true, true⟩

theorem small_in_bounds : (decodeInterleaveData small).isSome = true := by
  refine (decode_in_bounds_iff small (by decide)).mpr ⟨1, 1, true, ?_, ?_⟩
  · have word : Parses 1 ([0x01, 0x02, 0x03, 0x04] ++ []) 0 1 true :=
      .word rfl (by decide) (by decide) .done
    have line : Parses 1 ([0xFF, 0x05] ++ ([0x10, 0x80] ++ ([0xFF, 0x06] ++ _))) 1 1 true :=
      .line rfl word
    exact line
  · exact ⟨fun _ => by decide, fun _ _ => by decide⟩

/-- Data whose size is no multiple of four, a line that is cut off, a line too many, and data without a
    word of the stream. -/
theorem decode_out_of_bounds :
    decodeInterleaveData ⟨[0x00], 1, 1, true, true⟩ = none ∧
      decodeInterleaveData ⟨[0xFF, 0x05, 0x10, 0x80], 1, 1, true, true⟩ = none ∧
      decodeInterleaveData ⟨[0xFF, 0x05, 0x10, 0x80, 0xFF, 0x06, 0xFF, 0x05, 0x10, 0x80, 0xFF, 0x06,
        0x01, 0x02, 0x03, 0x04], 1, 1, true, true⟩ = none ∧
      decodeInterleaveData ⟨[0xFF, 0xFF, 0xFF, 0xFF], 1, 1, true, true⟩ = none := by
  refine ⟨rfl, rfl, rfl, rfl⟩

end InterleavedData
