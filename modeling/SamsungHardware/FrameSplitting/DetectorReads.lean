import SamsungHardware.FrameSplitting.PictureScan

/- What the detectors of H.263, VC-1 and VP8 read behind the buffer that they are given. The
   buffer is the list `stream`, and `behind` the memory that follows it. -/
namespace DetectorReads
open InputAssembly PictureScan PatternMarks List Option

variable (behind : Nat → UInt8)

/-- The condition on a key frame in `Check_VP8_Frame` and `Check_VP8_StartCode`: the bytes
    `pInputStream[3]` to `pInputStream[5]` are its start code. -/
def keyFrameCode (stream : List UInt8) : Bool :=
  !(readAt stream behind 3 ≠ 0x9d || readAt stream behind 4 ≠ 0x01 || readAt stream behind 5 ≠ 0x2a)

/-- `Check_VP8_Frame`. The size of the picture in a key frame is only logged. -/
def checkVP8Frame (stream : List UInt8) (_flag : BitVec 32)
    (_bPreviousFrameEOF : Bool) : Int × Bool :=
  let pbEndOfFrame := if readAt stream behind 0 &&& 0x01 = 0 then
      if keyFrameCode behind stream = false then false else true
    else true
  (stream.length, pbEndOfFrame)

def checkVP8StartCode (stream : List UInt8) : Bool :=
  if stream.length < 3 then false
  else if readAt stream behind 0 &&& 0x01 = 0 then
    if keyFrameCode behind stream = false then false else true
  else true

def Independent {α : Type} (check : (Nat → UInt8) → α) : Prop :=
  ∀ behind behind', check behind = check behind'

variable {stream : List UInt8} {behind : Nat → UInt8}

section

def Reads (behind : Nat → UInt8) (stream : List UInt8) (k : Nat) (code : List UInt8) : Prop :=
  ∀ i byte, code[i]? = some byte → readAt stream behind (k + i) = byte

/-- The code lies in the buffer, or a byte of the buffer already differs from it. -/
def Settled (stream : List UInt8) (k : Nat) (code : List UInt8) : Prop :=
  k + code.length ≤ stream.length ∨
    ∃ (i : Nat) (byte x : UInt8), code[i]? = some byte ∧ stream[k + i]? = some x ∧ x ≠ byte

variable {k i : Nat} {code : List UInt8}

theorem readAt_inside {x : UInt8} (inside : stream[i]? = some x) : readAt stream behind i = x := by
  rw [readAt, inside, getD_some]

theorem readAt_outside (outside : stream.length ≤ i) :
    readAt stream behind i = behind (i - stream.length) := by
  rw [readAt, getElem?_eq_none outside, getD_none]

theorem readAt_lt (inside : i < stream.length) (behind' : Nat → UInt8) :
    readAt stream behind i = readAt stream behind' i := by
  have found := getElem?_eq_getElem inside
  rw [readAt_inside found, readAt_inside found]

theorem Settled.reads_iff (settled : Settled stream k code) (behind' : Nat → UInt8) :
    Reads behind stream k code ↔ Reads behind' stream k code := by
  rcases settled with whole | ⟨i, byte, x, expected, found, differs⟩
  · have same (i : Nat) (byte : UInt8) (expected : code[i]? = some byte) :
        readAt stream behind (k + i) = readAt stream behind' (k + i) := by
      have inside := (List.getElem?_eq_some_iff.mp expected).1
      exact readAt_lt (by omega) behind'
    constructor
    · intro reads i byte expected
      rw [← same i byte expected]
      exact reads i byte expected
    · intro reads i byte expected
      rw [same i byte expected]
      exact reads i byte expected
  · have none (b : Nat → UInt8) : ¬ Reads b stream k code := by
      intro reads
      have read := reads i byte expected
      rw [readAt_inside found] at read
      exact differs read
    exact iff_of_false (none behind) (none behind')

theorem reads_of_open (pending : ¬ Settled stream k code) :
    Reads (fun j => code.getD (stream.length + j - k) 0) stream k code := by
  obtain ⟨_, agrees⟩ := not_or.mp pending
  intro i byte expected
  by_cases inside : k + i < stream.length
  · have found := getElem?_eq_getElem inside
    rw [readAt_inside found]
    by_contra differs
    exact agrees ⟨i, byte, _, expected, found, differs⟩
  · have position : stream.length + (k + i - stream.length) - k = i := by omega
    rw [readAt_outside (by omega), position, getD_eq_getElem?_getD, expected, getD_some]

theorem not_reads_zeros {last : UInt8} (ends : code.getLast? = some last) (positive : last ≠ 0)
    (short : stream.length < k + code.length) : ¬ Reads (fun _ => 0) stream k code := by
  intro reads
  rw [getLast?_eq_getElem?] at ends
  have read := reads _ last ends
  rw [readAt_outside (by omega)] at read
  exact positive read.symm

end

def vp8Code : List UInt8 := [0x9d, 0x01, 0x2a]

theorem keyFrameCode_iff : keyFrameCode behind stream = true ↔ Reads behind stream 3 vp8Code := by
  constructor
  · intro holds
    simp only [keyFrameCode, Bool.not_eq_true', Bool.or_eq_false_iff, decide_eq_false_iff_not,
      not_not] at holds
    intro i byte expected
    match i with
    | 0 => cases expected; exact holds.1.1
    | 1 => cases expected; exact holds.1.2
    | 2 => cases expected; exact holds.2
    | i + 3 => cases expected
  · intro reads
    simp [keyFrameCode, reads 0 _ rfl, reads 1 _ rfl, reads 2 _ rfl]

theorem keyFrameCode_independent_iff :
    Independent (fun behind => keyFrameCode behind stream) ↔ Settled stream 3 vp8Code := by
  constructor
  · intro independent
    by_contra pending
    have short : stream.length < 3 + vp8Code.length := by
      have outside := (not_or.mp pending).1
      omega
    have continued := keyFrameCode_iff.mpr (reads_of_open pending)
    have broken : ¬ keyFrameCode (fun _ => 0) stream = true := fun holds =>
      not_reads_zeros rfl (by decide) short (keyFrameCode_iff.mp holds)
    exact broken ((independent (fun _ => 0) _).trans continued)
  · intro settled behind behind'
    rw [Bool.eq_iff_iff, keyFrameCode_iff, keyFrameCode_iff]
    exact settled.reads_iff behind'

/-- The first byte is there, and for a key frame the start code is settled. -/
def TagSettled (stream : List UInt8) : Prop :=
  ∃ first, stream[0]? = some first ∧ (first &&& 0x01 ≠ 0 ∨ Settled stream 3 vp8Code)

def displayable (stream : List UInt8) (behind : Nat → UInt8) : Bool :=
  if readAt stream behind 0 &&& 0x01 = 0 then
    if keyFrameCode behind stream = false then false else true
  else true

theorem displayable_independent_iff : Independent (displayable stream) ↔ TagSettled stream := by
  cases tag : stream[0]? with
  | none =>
    -- the memory behind an empty buffer is taken for its first byte
    have empty : stream = [] := by simpa using tag
    subst empty
    apply iff_of_false
    · intro independent
      exact absurd (independent (fun _ => 0) fun _ => 1) (by decide)
    · rintro ⟨first, found, _⟩
      cases found
  | some first =>
    have settled : TagSettled stream ↔ (first &&& 0x01 ≠ 0 ∨ Settled stream 3 vp8Code) := by
      simp [TagSettled, tag]
    have shown (behind : Nat → UInt8) : displayable stream behind =
        if first &&& 0x01 = 0 then keyFrameCode behind stream else true := by
      rw [displayable, readAt_inside tag]
      cases keyFrameCode behind stream <;> rfl
    rw [settled, ← keyFrameCode_independent_iff]
    unfold Independent
    simp only [shown]
    by_cases key : first &&& 0x01 = 0
    · simp [key]
    · simp [key]

theorem checkVP8Frame_independent_iff (flag : BitVec 32) (bPreviousFrameEOF : Bool) :
    Independent (fun behind => checkVP8Frame behind stream flag bPreviousFrameEOF) ↔
      TagSettled stream := by
  rw [← displayable_independent_iff]
  constructor
  · intro independent behind behind'
    exact congrArg Prod.snd (independent behind behind')
  · intro independent behind behind'
    exact congrArg (Prod.mk _) (independent behind behind')

theorem checkVP8StartCode_independent_iff :
    Independent (fun behind => checkVP8StartCode behind stream) ↔
      stream.length < 3 ∨ TagSettled stream := by
  by_cases short : stream.length < 3
  · refine iff_of_true (fun behind behind' => ?_) (Or.inl short)
    dsimp only [checkVP8StartCode]
    rw [if_pos short, if_pos short]
  · have same (behind : Nat → UInt8) :
        checkVP8StartCode behind stream = displayable stream behind := if_neg short
    rw [or_iff_right short, ← displayable_independent_iff]
    unfold Independent
    simp only [same]

section

def wmv3Code : List UInt8 := [0x57, 0x4d, 0x56, 0x33]
def wvc1Code : List UInt8 := [0x57, 0x56, 0x43, 0x31]
def wmvaCode : List UInt8 := [0x57, 0x4d, 0x56, 0x41]

theorem biCompression_iff (a b c d : UInt8) :
    biCompression stream behind =
        a.toNat + b.toNat * 2 ^ 8 + c.toNat * 2 ^ 16 + d.toNat * 2 ^ 24 ↔
      Reads behind stream 16 [a, b, c, d] := by
  have bounds (x : UInt8) : x.toNat < 256 := x.toNat_lt
  have first := bounds (readAt stream behind 16)
  have second := bounds (readAt stream behind 17)
  have third := bounds (readAt stream behind 18)
  have firstCode := bounds a
  have secondCode := bounds b
  have thirdCode := bounds c
  constructor
  · intro equal
    rw [biCompression] at equal
    have same : readAt stream behind 16 = a ∧ readAt stream behind 17 = b ∧
        readAt stream behind 18 = c ∧ readAt stream behind 19 = d := by
      simp only [byte_eq_iff]
      omega
    intro i byte expected
    match i with
    | 0 => cases expected; exact same.1
    | 1 => cases expected; exact same.2.1
    | 2 => cases expected; exact same.2.2.1
    | 3 => cases expected; exact same.2.2.2
    | i + 4 => cases expected
  · intro reads
    rw [biCompression, reads 0 a rfl, reads 1 b rfl, reads 2 c rfl, reads 3 d rfl]

theorem wmv3_iff : biCompression stream behind = wmv3 ↔ Reads behind stream 16 wmv3Code :=
  biCompression_iff 0x57 0x4d 0x56 0x33

theorem wvc1_iff : biCompression stream behind = wvc1 ↔ Reads behind stream 16 wvc1Code :=
  biCompression_iff 0x57 0x56 0x43 0x31

theorem wmva_iff : biCompression stream behind = wmva ↔ Reads behind stream 16 wmvaCode :=
  biCompression_iff 0x57 0x4d 0x56 0x41

def wmvFormats : List (List UInt8 × WmvFormat) :=
  [(wmv3Code, .wmv3), (wvc1Code, .vc1), (wmvaCode, .vc1)]

theorem wmvFormats_size : ∀ pair ∈ wmvFormats, pair.1.length = 4 := by decide

variable {pair : List UInt8 × WmvFormat}

theorem not_reads_code (short : stream.length < 20) (announced : pair ∈ wmvFormats) :
    ¬ Reads (fun _ => 0) stream 16 pair.1 := by
  have ends : ∀ pair ∈ wmvFormats, ∃ last, pair.1.getLast? = some last ∧ last ≠ 0 := by
    simp [wmvFormats, wmv3Code, wvc1Code, wmvaCode]
  obtain ⟨last, final, positive⟩ := ends pair announced
  refine not_reads_zeros final positive ?_
  rw [wmvFormats_size pair announced]
  exact short

theorem short_of_pending (announced : pair ∈ wmvFormats) (pending : ¬ Settled stream 16 pair.1) :
    stream.length < 20 := by
  have short := (not_or.mp pending).1
  rw [wmvFormats_size pair announced] at short
  omega

def known (stream : List UInt8) (behind : Nat → UInt8) : Bool :=
  biCompression stream behind = wmv3 ∨ biCompression stream behind = wvc1 ∨
    biCompression stream behind = wmva

theorem known_iff : known stream behind = true ↔
    ∃ pair ∈ wmvFormats, Reads behind stream 16 pair.1 := by
  rw [known, decide_eq_true_eq, wmv3_iff, wvc1_iff, wmva_iff]
  simp [wmvFormats]

theorem known_independent_iff : Independent (known stream) ↔
    ∀ pair ∈ wmvFormats, Settled stream 16 pair.1 := by
  constructor
  · intro independent pair announced
    by_contra pending
    have continued := known_iff.mpr ⟨pair, announced, reads_of_open pending⟩
    obtain ⟨other, announced', reads⟩ :=
      known_iff.mp ((independent (fun _ => 0) _).trans continued)
    exact not_reads_code (short_of_pending announced pending) announced' reads
  · intro settled behind behind'
    rw [Bool.eq_iff_iff, known_iff, known_iff]
    constructor
    · rintro ⟨pair, announced, reads⟩
      exact ⟨pair, announced, ((settled pair announced).reads_iff behind').mp reads⟩
    · rintro ⟨pair, announced, reads⟩
      exact ⟨pair, announced, ((settled pair announced).reads_iff behind').mpr reads⟩

variable (gWvmFormat : WmvFormat)
include gWvmFormat

variable (flag : BitVec 32) (bPreviousFrameEOF : Bool)

/-- With `WO_START_CODE` only an unknown format leaves the end of the frame open. -/
theorem checkWmvFrame_eq :
    (checkWmvFrame true gWvmFormat behind stream flag bPreviousFrameEOF).1 =
      if (flag &&& bufferFlagCodecConfig ≠ 0 ∧ known stream behind = true) ∨
          gWvmFormat ≠ .unknown then
        ((stream.length : Int), true)
      else (-1, false) := by
  unfold checkWmvFrame known
  by_cases config : flag &&& bufferFlagCodecConfig = 0
  · cases gWvmFormat <;> simp [config]
  · dsimp only
    by_cases three : biCompression stream behind = wmv3
    · rw [if_pos ⟨config, three⟩, if_pos (Or.inl ⟨config, by simp [three]⟩)]
    · rw [if_neg fun both => three both.2]
      by_cases vc1 : biCompression stream behind = wvc1 ∨ biCompression stream behind = wmva
      · rw [if_pos ⟨config, vc1, rfl⟩, if_pos (Or.inl ⟨config, by simp [vc1]⟩)]
      · cases gWvmFormat <;> simp [three, vc1]

theorem checkWmvFrame_independent_iff : Independent (fun behind =>
        (checkWmvFrame true gWvmFormat behind stream flag bPreviousFrameEOF).1) ↔
      flag &&& bufferFlagCodecConfig = 0 ∨ gWvmFormat ≠ .unknown ∨
        ∀ pair ∈ wmvFormats, Settled stream 16 pair.1 := by
  rw [← known_independent_iff]
  unfold Independent
  simp only [checkWmvFrame_eq]
  by_cases config : flag &&& bufferFlagCodecConfig = 0
  · simp [config]
  · by_cases format : gWvmFormat = .unknown
    · simp only [config, format, ne_eq, not_false_eq_true, true_and, not_true_eq_false, or_false,
        false_or]
      constructor
      · intro same behind behind'
        have equal := congrArg Prod.snd (same behind behind')
        revert equal
        cases known stream behind <;> cases known stream behind' <;> simp
      · intro same behind behind'
        rw [same behind behind']
    · simp [format]

theorem checkWmvFrame_format :
    (checkWmvFrame true gWvmFormat behind stream flag bPreviousFrameEOF).2 =
      if flag &&& bufferFlagCodecConfig = 0 then gWvmFormat
      else if biCompression stream behind = wmv3 then .wmv3
      else if biCompression stream behind = wvc1 ∨ biCompression stream behind = wmva then .vc1
      else gWvmFormat := by
  unfold checkWmvFrame
  by_cases config : flag &&& bufferFlagCodecConfig = 0
  · cases gWvmFormat <;> simp [config]
  · dsimp only
    rw [if_neg config]
    by_cases three : biCompression stream behind = wmv3
    · rw [if_pos ⟨config, three⟩, if_pos three]
    · rw [if_neg fun both => three both.2, if_neg three]
      by_cases vc1 : biCompression stream behind = wvc1 ∨ biCompression stream behind = wmva
      · rw [if_pos ⟨config, vc1, rfl⟩, if_pos vc1]
      · cases gWvmFormat <;> simp [vc1]

theorem format_of_reads {flag : BitVec 32} (bPreviousFrameEOF : Bool)
    (config : flag &&& bufferFlagCodecConfig ≠ 0) (announced : pair ∈ wmvFormats)
    (reads : Reads behind stream 16 pair.1) :
    (checkWmvFrame true gWvmFormat behind stream flag bPreviousFrameEOF).2 = pair.2 := by
  rw [checkWmvFrame_format, if_neg config]
  simp only [wmvFormats, mem_cons, not_mem_nil, or_false] at announced
  rcases announced with rfl | rfl | rfl
  · rw [if_pos (wmv3_iff.mpr reads)]
  · have one := wvc1_iff.mpr reads
    rw [if_neg (by rw [one]; decide), if_pos (Or.inl one)]
  · have advanced := wmva_iff.mpr reads
    rw [if_neg (by rw [advanced]; decide), if_pos (Or.inr advanced)]

theorem format_kept
    (unread : ∀ pair ∈ wmvFormats, pair.2 ≠ gWvmFormat → ¬ Reads behind stream 16 pair.1) :
    (checkWmvFrame true gWvmFormat behind stream flag bPreviousFrameEOF).2 = gWvmFormat := by
  by_cases config : flag &&& bufferFlagCodecConfig = 0
  · rw [checkWmvFrame_format, if_pos config]
  by_cases read : ∃ pair ∈ wmvFormats, Reads behind stream 16 pair.1
  · obtain ⟨pair, announced, reads⟩ := read
    rw [format_of_reads gWvmFormat bPreviousFrameEOF config announced reads]
    by_contra other
    exact unread pair announced other reads
  · have unknown : ¬ known stream behind = true := fun holds => read (known_iff.mp holds)
    rw [known, decide_eq_true_eq, not_or] at unknown
    rw [checkWmvFrame_format, if_neg config, if_neg unknown.1, if_neg unknown.2]

theorem format_independent_iff : Independent (fun behind =>
        (checkWmvFrame true gWvmFormat behind stream flag bPreviousFrameEOF).2) ↔
      flag &&& bufferFlagCodecConfig = 0 ∨
        ∀ pair ∈ wmvFormats, pair.2 ≠ gWvmFormat → Settled stream 16 pair.1 := by
  constructor
  · intro independent
    by_contra dependent
    obtain ⟨config, unsettled⟩ := not_or.mp dependent
    simp only [not_forall] at unsettled
    obtain ⟨pair, announced, other, pending⟩ := unsettled
    -- zeros behind the buffer leave the format, and the rest of the code changes it
    have kept := format_kept gWvmFormat flag bPreviousFrameEOF
      fun pair' announced' _ => not_reads_code (short_of_pending announced pending) announced'
    have changed := format_of_reads gWvmFormat bPreviousFrameEOF config announced
      (reads_of_open pending)
    exact other (changed.symm.trans ((independent _ _).trans kept))
  · intro settled behind behind'
    dsimp only
    by_cases config : flag &&& bufferFlagCodecConfig = 0
    · rw [checkWmvFrame_format, checkWmvFrame_format, if_pos config, if_pos config]
    have settled := settled.resolve_left config
    by_cases read : ∃ pair ∈ wmvFormats, pair.2 ≠ gWvmFormat ∧ Reads behind stream 16 pair.1
    · obtain ⟨pair, announced, other, reads⟩ := read
      have reads' := ((settled pair announced other).reads_iff behind').mp reads
      rw [format_of_reads gWvmFormat bPreviousFrameEOF config announced reads,
        format_of_reads gWvmFormat bPreviousFrameEOF config announced reads']
    · have unread : ∀ pair ∈ wmvFormats, pair.2 ≠ gWvmFormat → ¬ Reads behind stream 16 pair.1 :=
        fun pair announced other reads => read ⟨pair, announced, other, reads⟩
      rw [format_kept _ flag bPreviousFrameEOF unread, format_kept _ flag bPreviousFrameEOF]
      intro pair announced other reads
      exact unread pair announced other
        (((settled pair announced other).reads_iff behind').mpr reads)

end

section

/-- The 22 bits of a picture start code. -/
def StartAt (stream : List UInt8) (p : Nat) : Prop :=
  stream[p]? = some 0 ∧ stream[p + 1]? = some 0 ∧ ∃ x, stream[p + 2]? = some x ∧ x.toNat / 4 = 0x20

/-- A picture start code whose type bits are in the buffer. -/
def Complete (stream : List UInt8) (p : Nat) : Prop :=
  StartAt stream p ∧ ∃ next, stream[p + 3]? = some next ∧ next &&& 0x03 = 0x02

def Open (stream : List UInt8) (p : Nat) : Prop := StartAt stream p ∧ p + 3 = stream.length

/-- The buffer ends within a start code that would end the frame. -/
def Unfinished (stream : List UInt8) (fresh : Bool) : Prop :=
  (∃ p, Open stream p) ∧
    if fresh then ∃ q, Complete stream q ∧ ∀ q', Complete stream q' → q' = q
    else ∀ q, ¬ Complete stream q

variable {fresh : Bool} {p q e : Nat}

theorem Complete.inside (complete : Complete stream p) : p + 3 < stream.length := by
  obtain ⟨_, next, found, _⟩ := complete
  exact (List.getElem?_eq_some_iff.mp found).1

theorem cells_get (stream : List UInt8) (p : Nat) :
    (cells behind stream)[p]? = stream[p]?.map fun byte => ⟨byte, readAt stream behind (p + 1)⟩ := by
  induction stream generalizing p with
  | nil => rfl
  | cons byte stream ih =>
    cases p with
    | zero => simp [cells, readAt]
    | succ p => simp [cells, ih, readAt]

theorem at_iff : pictureStart.At (cells behind stream) p ↔
    StartAt stream p ∧ readAt stream behind (p + 3) &&& 0x03 = 0x02 := by
  have test (i : Nat) (holds : Cell → Bool) :
      (∃ cell, (cells behind stream)[p + i]? = some cell ∧ holds cell = true) ↔
        ∃ x, stream[p + i]? = some x ∧
          holds ⟨x, readAt stream behind (p + i + 1)⟩ = true := by
    rw [cells_get]
    cases stream[p + i]? <;> simp
  constructor
  · intro here
    have zero := (test 0 _).mp (here 0 _ rfl)
    have one := (test 1 _).mp (here 1 _ rfl)
    have two := (test 2 _).mp (here 2 _ rfl)
    simp only [decide_eq_true_eq, Bool.and_eq_true, exists_eq_right] at zero one two
    obtain ⟨x, found, code, type⟩ := two
    exact ⟨⟨zero, one, x, found, code⟩, type⟩
  · rintro ⟨⟨zero, one, x, found, code⟩, type⟩ i holds inPattern
    match i with
    | 0 => cases inPattern; exact (test 0 _).mpr ⟨0, zero, by simp⟩
    | 1 => cases inPattern; exact (test 1 _).mpr ⟨0, one, by simp⟩
    | 2 => cases inPattern; exact (test 2 _).mpr ⟨x, found, by simp [code, type]⟩
    | i + 3 => cases inPattern

theorem at_cases : pictureStart.At (cells behind stream) p ↔
    Complete stream p ∨ Open stream p ∧ behind 0 &&& 0x03 = 0x02 := by
  rw [at_iff]
  constructor
  · rintro ⟨start, type⟩
    have within : p + 2 < stream.length := by
      obtain ⟨_, _, x, found, _⟩ := start
      exact (List.getElem?_eq_some_iff.mp found).1
    by_cases inside : p + 3 < stream.length
    · have found := List.getElem?_eq_getElem inside
      rw [readAt_inside found] at type
      exact Or.inl ⟨start, _, found, type⟩
    · have ends : p + 3 = stream.length := by omega
      rw [readAt_outside (Nat.le_of_eq ends.symm), ends, Nat.sub_self] at type
      exact Or.inr ⟨⟨start, ends⟩, type⟩
  · rintro (⟨start, next, found, type⟩ | ⟨⟨start, ends⟩, type⟩)
    · exact ⟨start, by rw [readAt_inside found]; exact type⟩
    · refine ⟨start, ?_⟩
      rw [readAt_outside (Nat.le_of_eq ends.symm), ends, Nat.sub_self]
      exact type

theorem at_of_lt (behind' : Nat → UInt8) (here : pictureStart.At (cells behind stream) q)
    (before : q < p) (inside : p + 3 ≤ stream.length) :
    Complete stream q ∧ pictureStart.At (cells behind' stream) q := by
  rcases at_cases.mp here with complete | ⟨⟨_, ends⟩, _⟩
  · exact ⟨complete, at_cases.mpr (Or.inl complete)⟩
  · omega

theorem at_inside (here : pictureStart.At (cells behind stream) p) : p + 3 ≤ stream.length := by
  rcases at_cases.mp here with complete | ⟨⟨_, ends⟩, _⟩
  · exact Nat.le_of_lt complete.inside
  · exact Nat.le_of_eq ends

/-- If the buffer does not end within the start code that ends the frame, another memory behind it
    gives the same end. -/
theorem first_transfer (finished : ¬ Unfinished stream fresh) (behind' : Nat → UInt8)
    (first : pictureStart.marks.First fresh (cells behind stream) p e) :
    pictureStart.marks.First fresh (cells behind' stream) p e := by
  obtain ⟨⟨⟨here, ends⟩, earlier⟩, least⟩ := first
  have eligible_of {q q' : Nat} (complete : Complete stream q)
      (other : fresh = true → Complete stream q' ∧ q' < q) :
      pictureStart.marks.Eligible fresh (cells behind stream) q (q + pictureStart.size) := by
    refine ⟨⟨at_cases.mpr (Or.inl complete), rfl⟩, fun new => ?_⟩
    exact ⟨q', (other new).2, at_cases.mpr (Or.inl (other new).1)⟩
  rcases at_cases.mp here with complete | ⟨⟨start, size⟩, _⟩
  · have inside := complete.inside
    refine ⟨⟨⟨at_cases.mpr (Or.inl complete), ends⟩, fun new => ?_⟩, ?_⟩
    · obtain ⟨q, before, found⟩ := earlier new
      exact ⟨q, before, (at_of_lt behind' found before (by omega)).2⟩
    · rintro p' e' ⟨⟨here', ends'⟩, earlier'⟩
      rcases at_cases.mp here' with complete' | ⟨⟨_, size⟩, _⟩
      · refine least p' e' ⟨⟨at_cases.mpr (Or.inl complete'), ends'⟩, fun new => ?_⟩
        obtain ⟨q, before, found⟩ := earlier' new
        exact ⟨q, before, (at_of_lt behind found before (at_inside here')).2⟩
      · omega
  · -- the first end would be the open one
    refine absurd ⟨⟨p, start, size⟩, ?_⟩ finished
    cases fresh with
    | false =>
      rw [if_neg Bool.false_ne_true]
      intro q complete
      have inside := complete.inside
      have later := least q _ (@eligible_of q 0 complete (by simp))
      omega
    | true =>
      rw [if_pos rfl]
      obtain ⟨q, before, found⟩ := earlier rfl
      have complete := (at_of_lt behind found before (Nat.le_of_eq size)).1
      refine ⟨q, complete, fun q' complete' => ?_⟩
      have inside := complete.inside
      have inside' := complete'.inside
      rcases Nat.lt_trichotomy q' q with less | same | more
      · have later := least q _ (eligible_of complete fun _ => ⟨complete', less⟩)
        omega
      · exact same
      · have later := least q' _ (eligible_of complete' fun _ => ⟨complete, more⟩)
        omega

theorem find_independent (finished : ¬ Unfinished stream fresh) (behind' : Nat → UInt8) :
    Codec.h263.find (cells behind stream) fresh = Codec.h263.find (cells behind' stream) fresh := by
  have start (s : List Cell) (p : Nat) : Codec.h263.pattern.marks.start s p = p := marks_start s p
  rcases Codec.h263.finds (cells behind stream) fresh with ⟨p, e, first, found⟩ | ⟨none, unfound⟩
  · have first' := first_transfer finished behind' first
    rcases Codec.h263.finds (cells behind' stream) fresh with
      ⟨p', e', least, found'⟩ | ⟨none, _⟩
    · have same : p = p' :=
        Nat.le_antisymm (first.2 p' e' (first_transfer finished behind least).1)
          (least.2 p e first'.1)
      rw [found, found', start, start, same]
    · exact absurd first'.1 (none p e)
  · rcases Codec.h263.finds (cells behind' stream) fresh with
      ⟨p', e', least, _⟩ | ⟨_, unfound'⟩
    · exact absurd (first_transfer finished behind least).1 (none p' e')
    · rw [unfound, unfound']

theorem size_le_seek (codec : Codec) {s : List UInt8} {len n : Nat}
    (found : seek codec.found behind 0xFFFFFFFF len s = some n) : codec.pattern.size ≤ n := by
  rw [seek_eq_scan, scan_shift] at found
  obtain ⟨k, ends, rfl⟩ := map_eq_some_iff.mp found
  rcases scan_searches codec.recognised (cells behind s) with ⟨p, _, _, here⟩ | ⟨_, none⟩
  · rw [here, some_inj] at ends
    omega
  · rw [none] at ends
    cases ends

theorem checkH263Frame_cases (behind : Nat → UInt8) (stream : List UInt8) (flag : BitVec 32)
    (fresh : Bool) :
    (∃ n : Nat, checkH263Frame behind stream flag fresh = (↑n, true)) ∨
      checkH263Frame behind stream flag fresh = (↑stream.length, false) := by
  have same : checkH263Frame behind stream flag fresh =
      checkStartCodes Codec.h263.found 3 behind stream fresh := rfl
  rw [same, checkStartCodes]
  cases first : if fresh = true then seek Codec.h263.found behind 0xFFFFFFFF 0 stream
      else some 0 with
  | none => exact Or.inr rfl
  | some len =>
    dsimp only
    cases ends : seek Codec.h263.found behind 0xFFFFFFFF len (stream.drop len) with
    | none => exact Or.inr rfl
    | some n =>
      have long : 3 ≤ n := size_le_seek Codec.h263 ends
      exact Or.inl ⟨n - 3, congrArg (fun k => (k, true)) (by omega)⟩

theorem checkH263Frame_eq (flag : BitVec 32) :
    checkH263Frame behind stream flag fresh =
      match Codec.h263.find (cells behind stream) fresh with
      | some n => ((n : Int), true)
      | none => ((stream.length : Int), false) := by
  have found := checkStartCodes_find Codec.h263 behind stream fresh
  have same : checkStartCodes Codec.h263.found Codec.h263.pattern.size behind stream fresh =
      checkH263Frame behind stream flag fresh := rfl
  rw [same] at found
  rcases checkH263Frame_cases behind stream flag fresh with ⟨n, result⟩ | result
  · rw [result] at found
    rw [result, ← found]
    rfl
  · rw [result] at found
    rw [result, ← found]
    rfl

theorem reported_iff (flag : BitVec 32) : (checkH263Frame behind stream flag fresh).2 = true ↔
    ∃ p, pictureStart.At (cells behind stream) p ∧
      (fresh = true → ∃ q < p, pictureStart.At (cells behind stream) q) := by
  rw [checkH263Frame_eq]
  rcases Codec.h263.finds (cells behind stream) fresh with ⟨p, e, first, found⟩ | ⟨none, unfound⟩
  · rw [found]
    exact iff_of_true rfl ⟨p, first.1.1.1, first.1.2⟩
  · rw [unfound]
    refine iff_of_false Bool.false_ne_true ?_
    rintro ⟨p, here, earlier⟩
    exact none p _ ⟨⟨here, rfl⟩, earlier⟩

theorem checkH263Frame_independent_iff (flag : BitVec 32) :
    Independent (fun behind => checkH263Frame behind stream flag fresh) ↔
      ¬ Unfinished stream fresh := by
  constructor
  · rintro independent ⟨⟨p, pending⟩, codes⟩
    -- a byte 2 behind the buffer completes the code, and a byte 0 does not
    have ends : (checkH263Frame (fun _ => 2) stream flag fresh).2 = true := by
      refine (reported_iff flag).mpr ⟨p, at_cases.mpr (Or.inr ⟨pending, by decide⟩), fun new => ?_⟩
      rw [if_pos new] at codes
      obtain ⟨q, complete, _⟩ := codes
      have inside := complete.inside
      exact ⟨q, by have := pending.2; omega, at_cases.mpr (Or.inl complete)⟩
    have continues : ¬ (checkH263Frame (fun _ => 0) stream flag fresh).2 = true := by
      rw [reported_iff]
      rintro ⟨p', here, earlier⟩
      have complete_of {q : Nat} (found : pictureStart.At (cells (fun _ => 0) stream) q) :
          Complete stream q := by
        rcases at_cases.mp found with complete | ⟨_, type⟩
        · exact complete
        · exact absurd type (by decide)
      cases fresh with
      | false => exact codes p' (complete_of here)
      | true =>
        obtain ⟨q, before, found⟩ := earlier rfl
        obtain ⟨only, _, unique⟩ := codes
        have one := unique p' (complete_of here)
        have other := unique q (complete_of found)
        omega
    have equal := congrArg Prod.snd (independent (fun _ => 2) fun _ => 0)
    exact continues (equal.symm.trans ends)
  · intro finished behind behind'
    dsimp only
    rw [checkH263Frame_eq, checkH263Frame_eq, find_independent finished behind']

end

/-- What each detector needs to be told by the buffer, and nothing else. -/
theorem detectors_independent_iff (stream : List UInt8) (flag : BitVec 32)
    (bPreviousFrameEOF : Bool) (gWvmFormat : WmvFormat) :
    (Independent (fun behind => checkH263Frame behind stream flag bPreviousFrameEOF) ↔
      ¬ Unfinished stream bPreviousFrameEOF) ∧
    (Independent (fun behind =>
        (checkWmvFrame true gWvmFormat behind stream flag bPreviousFrameEOF).1) ↔
      flag &&& bufferFlagCodecConfig = 0 ∨ gWvmFormat ≠ .unknown ∨
        ∀ pair ∈ wmvFormats, Settled stream 16 pair.1) ∧
    (Independent (fun behind =>
        (checkWmvFrame true gWvmFormat behind stream flag bPreviousFrameEOF).2) ↔
      flag &&& bufferFlagCodecConfig = 0 ∨
        ∀ pair ∈ wmvFormats, pair.2 ≠ gWvmFormat → Settled stream 16 pair.1) ∧
    (Independent (fun behind => checkVP8Frame behind stream flag bPreviousFrameEOF) ↔
      TagSettled stream) ∧
    (Independent (fun behind => checkVP8StartCode behind stream) ↔
      stream.length < 3 ∨ TagSettled stream) :=
  ⟨checkH263Frame_independent_iff flag,
    checkWmvFrame_independent_iff gWvmFormat flag bPreviousFrameEOF,
    format_independent_iff gWvmFormat flag bPreviousFrameEOF,
    checkVP8Frame_independent_iff flag bPreviousFrameEOF, checkVP8StartCode_independent_iff⟩

/-- Buffers whose treatment depends on what follows them: a picture start code without its type,
    a header of 16 bytes, no byte at all, and the tag of a key frame alone. -/
theorem bytes_behind_decide :
    ¬ Independent (fun behind => checkH263Frame behind [0x00, 0x00, 0x80] 0 false) ∧
    ¬ Independent (fun behind => (checkWmvFrame true .unknown behind (replicate 16 0)
      bufferFlagCodecConfig true).1) ∧
    ¬ Independent (fun behind => checkVP8Frame behind [] 0 true) ∧
    ¬ Independent (fun behind => checkVP8StartCode behind [0x10, 0x00, 0x00]) := by
  refine ⟨fun same => ?_, fun same => ?_, fun same => ?_, fun same => ?_⟩
  · exact absurd (same (fun _ => 2) fun _ => 0) (by decide)
  · exact absurd (same (fun i => wmv3Code.getD i 0) fun _ => 0) (by decide)
  · exact absurd (same (fun _ => 1) fun _ => 0) (by decide)
  · exact absurd (same (fun i => vp8Code.getD i 0) fun _ => 0) (by decide)

end DetectorReads
