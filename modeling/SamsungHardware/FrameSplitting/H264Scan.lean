import SamsungHardware.Library.StartCode

/- `Check_H264_Frame` of SEC_OMX_H264dec.c, which looks for the start of the next access unit in
   one input buffer, and the frame boundaries that it finds. The register starts anew with
   every buffer, and drops the header of a slice for the byte behind it. -/
namespace H264Scan
open StartCode

def naluType (byte : UInt8) : Nat := (byte &&& 0x1F).toNat

/-- NAL units that begin the contents of a frame; the build option ADD_SPS_PPS_I_FRAME leaves
    out the parameter sets. -/
def startsFrame (addSpsPpsIFrame : Bool) (naluType : Nat) : Bool :=
  if addSpsPpsIFrame then naluType = 1 || naluType = 5
  else naluType = 1 || naluType = 5 || naluType = 7 || naluType = 8

/-- Behind the loop: the size without the start code and the bytes read of the next unit. -/
def endOfFrame (preFourByte : BitVec 32) (accessUnitSize : Nat) (frameTypeBoundary : Int) :
    Int × Bool :=
  let nextNaluSize : Int := -5
  let nextNaluSize := if frameTypeBoundary = -1 then -6 else nextNaluSize
  let nextNaluSize := if preFourByte ≠ 0x00000001 then nextNaluSize + 1 else nextNaluSize
  (accessUnitSize + nextNaluSize, true)

def checkLoop (addSpsPpsIFrame : Bool) :
    List UInt8 → BitVec 32 → Nat → Bool → Int × Bool
  | [], _, accessUnitSize, _ => (accessUnitSize, false)
  | inputOneByte :: pInputStream, preFourByte, accessUnitSize, naluStart =>
    let accessUnitSize := accessUnitSize + 1
    if preFourByte = 0x00000001 ∨ preFourByte <<< 8 = 0x00000100 then
      let naluType := naluType inputOneByte
      if naluStart = false then
        checkLoop addSpsPpsIFrame pInputStream (shift preFourByte inputOneByte) accessUnitSize
          (startsFrame addSpsPpsIFrame naluType)
      else
        let frameTypeBoundary : Int := if naluType = 9 then -2 else 0
        if naluType = 1 ∨ naluType = 5 then
          match pInputStream with
          | [] => ((accessUnitSize : Int) - 1, false)
          | inputOneByte :: pInputStream =>
            let accessUnitSize := accessUnitSize + 1
            let frameTypeBoundary := if 0x80 ≤ inputOneByte then -1 else frameTypeBoundary
            if frameTypeBoundary < 0 then endOfFrame preFourByte accessUnitSize frameTypeBoundary
            else
              checkLoop addSpsPpsIFrame pInputStream (shift preFourByte inputOneByte)
                accessUnitSize naluStart
        else if frameTypeBoundary < 0 then endOfFrame preFourByte accessUnitSize frameTypeBoundary
        else
          checkLoop addSpsPpsIFrame pInputStream (shift preFourByte inputOneByte) accessUnitSize
            naluStart
    else
      checkLoop addSpsPpsIFrame pInputStream (shift preFourByte inputOneByte) accessUnitSize
        naluStart

/-- The size that is returned, and `*pbEndOfFrame`. The flags are not looked at. -/
def checkH264Frame (addSpsPpsIFrame : Bool) (pInputStream : List UInt8) (_flag : BitVec 32)
    (bPreviousFrameEOF : Bool) : Int × Bool :=
  checkLoop addSpsPpsIFrame pInputStream (BitVec.ofInt 32 (-1)) 0 (!bPreviousFrameEOF)

def NalAt (bytes : List UInt8) (p type : Nat) : Prop :=
  CodeAt bytes p ∧ ∃ header, bytes[p + 3]? = some header ∧ naluType header = type

/-- A NAL unit at `p` that begins a new frame: an access unit delimiter, or a slice whose first
    macroblock is the first of the picture. It is known when the bytes up to `e` are read. -/
inductive Boundary (bytes : List UInt8) (p : Nat) : Nat → Prop where
  | delimiter (unit : NalAt bytes p 9) : Boundary bytes p (p + 4)
  | slice {type : Nat} (kind : type = 1 ∨ type = 5) (unit : NalAt bytes p type) {next : UInt8}
      (read : bytes[p + 4]? = some next) (first : 0x80 ≤ next) : Boundary bytes p (p + 5)

def frameStart (bytes : List UInt8) (p : Nat) : Nat :=
  if 0 < p ∧ bytes[p - 1]? = some 0 then p - 1 else p

section

variable {bytes : List UInt8} {p q e type type' : Nat}

theorem NalAt.inside (unit : NalAt bytes p type) : p + 3 < bytes.length := by
  obtain ⟨_, header, read, _⟩ := unit
  exact (List.getElem?_eq_some_iff.mp read).1

theorem NalAt.unique (unit : NalAt bytes p type) (unit' : NalAt bytes p type') : type = type' := by
  obtain ⟨_, header, read, kind⟩ := unit
  obtain ⟨_, header', read', kind'⟩ := unit'
  rw [read, Option.some_inj] at read'
  rw [← kind, ← kind', read']

variable (boundary : Boundary bytes p e)
include boundary

theorem Boundary.code : CodeAt bytes p := by
  cases boundary with
  | delimiter unit => exact unit.1
  | slice _ unit _ _ => exact unit.1

theorem Boundary.after : p + 4 ≤ e := by
  cases boundary with
  | delimiter _ => exact Nat.le_refl _
  | slice _ _ _ _ => omega

theorem Boundary.inside : e ≤ bytes.length := by
  cases boundary with
  | delimiter unit => exact unit.inside
  | slice _ _ read _ => exact (List.getElem?_eq_some_iff.mp read).1

theorem Boundary.unit_type (unit : NalAt bytes p type) :
    type = 9 ∧ e = p + 4 ∨
      (type = 1 ∨ type = 5) ∧ e = p + 5 ∧ ∃ next, bytes[p + 4]? = some next ∧ 0x80 ≤ next := by
  cases boundary with
  | delimiter unit' => exact Or.inl ⟨unit.unique unit', rfl⟩
  | slice kind unit' read first =>
    rw [← unit.unique unit'] at kind
    exact Or.inr ⟨kind, rfl, _, read, first⟩

end

variable (addSpsPpsIFrame : Bool) (bytes : List UInt8)

def StartsAt (q : Nat) : Prop := ∃ type, NalAt bytes q type ∧ startsFrame addSpsPpsIFrame type = true

variable (bPreviousFrameEOF : Bool)

/-- A boundary that the scanner takes for one: in a new frame only behind a unit that belongs to
    its contents. -/
def Eligible (p e : Nat) : Prop :=
  Boundary bytes p e ∧ (bPreviousFrameEOF = true → ∃ q < p, StartsAt addSpsPpsIFrame bytes q)

def First (p e : Nat) : Prop :=
  Eligible addSpsPpsIFrame bytes bPreviousFrameEOF p e ∧
    ∀ p' e', Eligible addSpsPpsIFrame bytes bPreviousFrameEOF p' e' → p ≤ p'

def Searched (result : Int × Bool) : Prop :=
  (∃ p e, First addSpsPpsIFrame bytes bPreviousFrameEOF p e ∧
    result = (↑(frameStart bytes p), true)) ∨
  ((∀ p e, ¬ Eligible addSpsPpsIFrame bytes bPreviousFrameEOF p e) ∧ result.2 = false)

/-- The scanner in front of byte `k`: no unit whose header it has read is a boundary for it. -/
structure Scanning (bPreviousFrameEOF : Bool) (k : Nat) (preFourByte : BitVec 32)
    (naluStart : Bool) : Prop where
  tracks : Tracks preFourByte (phaseAt bytes k)
  started : naluStart = true ↔
    bPreviousFrameEOF = false ∨ ∃ q, StartsAt addSpsPpsIFrame bytes q ∧ q + 4 ≤ k
  quiet : ∀ p e, Eligible addSpsPpsIFrame bytes bPreviousFrameEOF p e → k < p + 4

variable {addSpsPpsIFrame bytes} {fresh : Bool} {k : Nat} {preFourByte : BitVec 32}
  {naluStart : Bool}

section
variable (scanning : Scanning addSpsPpsIFrame bytes fresh k preFourByte naluStart)
include scanning

theorem Scanning.exhausted (read : bytes.length ≤ k) (result : Int × Bool) (none : result.2 = false) :
    Searched addSpsPpsIFrame bytes fresh result := by
  refine Or.inr ⟨fun p e eligible => ?_, none⟩
  have later := scanning.quiet p e eligible
  have inside := eligible.1.inside
  have after := eligible.1.after
  omega

omit scanning in
theorem unit_read (code : (phaseAt bytes k).isCode = true) {header : UInt8}
    (read : bytes[k]? = some header) : ∃ p, k = p + 3 ∧ NalAt bytes p (naluType header) := by
  have inside := (List.getElem?_eq_some_iff.mp read).1
  obtain ⟨p, rfl⟩ := Nat.exists_eq_add_of_le' (three_of_isCode (Nat.le_of_lt inside) code)
  exact ⟨p, rfl, (isCode_iff (by omega)).mp code, header, read, rfl⟩

omit scanning in
theorem code_of_unit {q type : Nat} (unit : NalAt bytes q type) (next : q + 4 = k + 1) :
    (phaseAt bytes k).isCode = true := by
  have inside := unit.inside
  have same : k = q + 3 := by omega
  rw [same]
  exact (isCode_iff (by omega)).mpr unit.1

theorem Scanning.advance {byte : UInt8} (read : bytes[k]? = some byte) {naluStart' : Bool}
    (start : naluStart' = true ↔ naluStart = true ∨ ∃ q, q + 4 = k + 1 ∧ StartsAt addSpsPpsIFrame bytes q)
    (here : ∀ p e, p + 4 = k + 1 → ¬ Eligible addSpsPpsIFrame bytes fresh p e) :
    Scanning addSpsPpsIFrame bytes fresh (k + 1) (shift preFourByte byte) naluStart' where
  tracks := by
    rw [phaseAt_succ read]
    exact scanning.tracks.push byte
  started := by
    rw [start, scanning.started]
    constructor
    · rintro ((old | ⟨q, starts, before⟩) | ⟨q, now, starts⟩)
      · exact Or.inl old
      · exact Or.inr ⟨q, starts, by omega⟩
      · exact Or.inr ⟨q, starts, Nat.le_of_eq now⟩
    · rintro (old | ⟨q, starts, before⟩)
      · exact Or.inl (Or.inl old)
      · rcases Nat.lt_or_eq_of_le before with earlier | now
        · exact Or.inl (Or.inr ⟨q, starts, by omega⟩)
        · exact Or.inr ⟨q, now, starts⟩
  quiet := by
    intro p e eligible
    have later := scanning.quiet p e eligible
    have other : p + 4 ≠ k + 1 := fun now => here p e now eligible
    omega

theorem Scanning.plain {byte : UInt8} (read : bytes[k]? = some byte)
    (plain : (phaseAt bytes k).isCode = false) :
    Scanning addSpsPpsIFrame bytes fresh (k + 1) (shift preFourByte byte) naluStart := by
  refine scanning.advance read ?_ ?_
  · constructor
    · exact Or.inl
    · rintro (old | ⟨q, now, type, unit, _⟩)
      · exact old
      · rw [code_of_unit unit now] at plain
        cases plain
  · intro p e now eligible
    have code : (phaseAt bytes k).isCode = true := by
      cases eligible.1 with
      | delimiter unit => exact code_of_unit unit now
      | slice _ unit _ _ => exact code_of_unit unit now
    rw [code] at plain
    cases plain

end

section

variable {p : Nat} {header : UInt8}

theorem Scanning.before (scanning : Scanning addSpsPpsIFrame bytes fresh k preFourByte false)
    (read : bytes[k]? = some header) (position : k = p + 3)
    (unit : NalAt bytes p (naluType header)) :
    Scanning addSpsPpsIFrame bytes fresh (k + 1) (shift preFourByte header)
      (startsFrame addSpsPpsIFrame (naluType header)) := by
  have none : ¬ (fresh = false ∨ ∃ q, StartsAt addSpsPpsIFrame bytes q ∧ q + 4 ≤ k) :=
    fun started => Bool.false_ne_true (scanning.started.mpr started)
  rw [not_or] at none
  refine scanning.advance read ?_ ?_
  · constructor
    · intro starts
      exact Or.inr ⟨p, by omega, _, unit, starts⟩
    · rintro (old | ⟨q, now, type, unit', starts⟩)
      · cases old
      · obtain rfl : q = p := by omega
        rw [unit.unique unit']
        exact starts
  · intro q e now eligible
    obtain rfl : q = p := by omega
    obtain ⟨first, before, type, unit', starts⟩ := eligible.2 (Bool.not_eq_false _ ▸ none.1)
    exact none.2 ⟨first, ⟨type, unit', starts⟩, by omega⟩

variable (scanning : Scanning addSpsPpsIFrame bytes fresh k preFourByte true) (position : k = p + 3)

include scanning position

theorem Scanning.found {e : Nat} (boundary : Boundary bytes p e) :
    First addSpsPpsIFrame bytes fresh p e := by
  refine ⟨⟨boundary, fun new => ?_⟩, fun p' e' eligible => ?_⟩
  · rcases scanning.started.mp rfl with old | ⟨q, starts, before⟩
    · rw [new] at old
      cases old
    · exact ⟨q, by omega, starts⟩
  · have later := scanning.quiet p' e' eligible
    omega

/-- The size that is returned leaves out the start code and what was read behind it. -/
theorem Scanning.endOfFrame (unit : NalAt bytes p (naluType header)) {accessUnitSize : Nat}
    {frameTypeBoundary : Int}
    (total : accessUnitSize + (if frameTypeBoundary = -1 then -6 else -5) = (p : Int) - 1) :
    endOfFrame preFourByte accessUnitSize frameTypeBoundary = (↑(frameStart bytes p), true) := by
  have inside := unit.inside
  have code : (phaseAt bytes k).isCode = true := code_of_unit unit (by omega)
  have long := scanning.tracks.long_iff code
  rw [position, StartCode.long_iff (by omega) unit.1] at long
  unfold frameStart
  dsimp only [H264Scan.endOfFrame]
  by_cases zero : 0 < p ∧ bytes[p - 1]? = some 0
  · rw [if_pos zero, if_neg (not_not.mpr (long.mpr zero)), total]
    exact congrArg (fun n => (n, true)) (by omega)
  · have short : preFourByte ≠ 1 := fun one => zero (long.mp one)
    rw [if_neg zero, if_pos short]
    exact congrArg (fun n => (n, true)) (by omega)

theorem Scanning.inner (read : bytes[k]? = some header)
    (none : ∀ e, ¬ Boundary bytes p e) :
    Scanning addSpsPpsIFrame bytes fresh (k + 1) (shift preFourByte header) true := by
  refine scanning.advance read (iff_of_true rfl (Or.inl rfl)) ?_
  intro q e now eligible
  obtain rfl : q = p := by omega
  exact none e eligible.1

/-- A slice whose first macroblock is another one: two bytes are read, and the register only
    sees the second. -/
theorem Scanning.slice (unit : NalAt bytes p (naluType header))
    (read : bytes[k]? = some header) (kind : naluType header = 1 ∨ naluType header = 5)
    {next : UInt8} (readNext : bytes[k + 1]? = some next) (low : ¬ 0x80 ≤ next) :
    Scanning addSpsPpsIFrame bytes fresh (k + 1 + 1) (shift preFourByte next) true := by
  have code : (phaseAt bytes k).isCode = true := code_of_unit unit (by omega)
  have nonzero : header ≠ 0 := by
    rintro rfl
    revert kind
    decide
  have none : ∀ e, ¬ Boundary bytes p e := by
    intro e boundary
    rcases boundary.unit_type unit with ⟨nine, _⟩ | ⟨_, _, next', read', high⟩
    · omega
    · have same : k + 1 = p + 4 := by omega
      rw [same, read', Option.some_inj] at readNext
      exact low (readNext ▸ high)
  have one := scanning.inner position read none
  refine ⟨?_, iff_of_true rfl ?_, ?_⟩
  · rw [phaseAt_succ readNext, phaseAt_succ read, Phase.push_skip code nonzero]
    exact scanning.tracks.push next
  · rcases one.started.mp rfl with old | ⟨q, starts, before⟩
    · exact Or.inl old
    · exact Or.inr ⟨q, starts, by omega⟩
  · intro q e eligible
    have later := one.quiet q e eligible
    by_contra close
    have apart := unit.1.apart eligible.1.code (by omega)
    omega

end

theorem drop_read {byte : UInt8} {rest : List UInt8} (left : bytes.drop k = byte :: rest) :
    bytes[k]? = some byte ∧ bytes.drop (k + 1) = rest := by
  constructor
  · rw [← Nat.add_zero k, ← List.getElem?_drop, left]
    rfl
  · rw [← List.tail_drop, left, List.tail_cons]

theorem checkLoop_searched (rest : List UInt8) (left : bytes.drop k = rest)
    (scanning : Scanning addSpsPpsIFrame bytes fresh k preFourByte naluStart) :
    Searched addSpsPpsIFrame bytes fresh
      (checkLoop addSpsPpsIFrame rest preFourByte k naluStart) := by
  obtain ⟨n, length⟩ : ∃ n, rest.length = n := ⟨_, rfl⟩
  induction n using Nat.strongRecOn generalizing rest k preFourByte naluStart with
  | _ n ih =>
    cases rest with
    | nil =>
      rw [checkLoop]
      exact scanning.exhausted (List.drop_eq_nil_iff.mp left) _ rfl
    | cons byte rest =>
      obtain ⟨read, left'⟩ := drop_read left
      have shorter : rest.length < n := by rw [← length]; exact Nat.lt_succ_self _
      rw [checkLoop]
      cases code : (phaseAt bytes k).isCode with
      | false =>
        rw [if_neg fun test => by rw [scanning.tracks.code_iff, code] at test; cases test]
        exact ih _ shorter rest left' (scanning.plain read code) rfl
      | true =>
        rw [if_pos (scanning.tracks.code_iff.mpr code)]
        obtain ⟨p, position, unit⟩ := unit_read code read
        cases naluStart with
        | false => exact ih _ shorter rest left' (scanning.before read position unit) rfl
        | true =>
          dsimp only
          rw [if_neg Bool.noConfusion]
          by_cases kind : naluType byte = 1 ∨ naluType byte = 5
          · have other : naluType byte ≠ 9 := by omega
            rw [if_pos kind]
            cases rest with
            | nil =>
              have all : bytes.length ≤ k + 1 := List.drop_eq_nil_iff.mp left'
              refine (scanning.inner position read ?_).exhausted all _ rfl
              intro e boundary
              have inside := boundary.inside
              rcases boundary.unit_type unit with ⟨nine, _⟩ | ⟨_, after, _⟩
              · exact other nine
              · omega
            | cons next rest =>
              obtain ⟨readNext, left''⟩ := drop_read left'
              by_cases first : 0x80 ≤ next
              · have same : p + 4 = k + 1 := by omega
                have boundary : Boundary bytes p (p + 5) :=
                  .slice kind unit (same ▸ readNext) first
                refine Or.inl ⟨p, p + 5, scanning.found position boundary, ?_⟩
                simp only [first, if_true]
                exact scanning.endOfFrame position unit (by simp; omega)
              · simp only [first, other, if_false]
                exact ih _ (by simp at shorter; omega) rest left''
                  (scanning.slice position unit read kind readNext first) rfl
          · rw [if_neg kind]
            by_cases nine : naluType byte = 9
            · have boundary : Boundary bytes p (p + 4) := .delimiter (nine ▸ unit)
              refine Or.inl ⟨p, p + 4, scanning.found position boundary, ?_⟩
              simp only [nine, if_true]
              exact scanning.endOfFrame position unit (by simp; omega)
            · simp only [nine, if_false]
              refine ih _ shorter rest left' (scanning.inner position read ?_) rfl
              intro e boundary
              rcases boundary.unit_type unit with ⟨isNine, _⟩ | ⟨isSlice, _⟩
              · exact nine isNine
              · exact kind isSlice

/-- Either the first boundary is found and the size up to its start code is returned, or there
    is none. -/
theorem checkH264Frame_searched (addSpsPpsIFrame : Bool) (pInputStream : List UInt8)
    (flag : BitVec 32) (bPreviousFrameEOF : Bool) :
    Searched addSpsPpsIFrame pInputStream bPreviousFrameEOF
      (checkH264Frame addSpsPpsIFrame pInputStream flag bPreviousFrameEOF) := by
  refine checkLoop_searched pInputStream rfl ⟨Tracks.start, ?_, ?_⟩
  · cases bPreviousFrameEOF <;> simp
  · intro p e _
    omega

theorem First.unique {p q e e' : Nat} (first : First addSpsPpsIFrame bytes fresh p e)
    (first' : First addSpsPpsIFrame bytes fresh q e') : p = q :=
  Nat.le_antisymm (first.2 q e' first'.1) (first'.2 p e first.1)

/-- The end of a frame is reported with the start of the first boundary, and exactly when there
    is one. -/
theorem checkH264Frame_iff (pInputStream : List UInt8) (flag : BitVec 32)
    (bPreviousFrameEOF : Bool) :
    (∀ n : Int, checkH264Frame false pInputStream flag bPreviousFrameEOF = (n, true) ↔
      ∃ p e, First false pInputStream bPreviousFrameEOF p e ∧ n = frameStart pInputStream p) ∧
    ((checkH264Frame false pInputStream flag bPreviousFrameEOF).2 = false ↔
      ∀ p e, ¬ Eligible false pInputStream bPreviousFrameEOF p e) := by
  rcases checkH264Frame_searched false pInputStream flag bPreviousFrameEOF with
    ⟨p, e, first, result⟩ | ⟨none, result⟩
  · rw [result]
    constructor
    · intro n
      constructor
      · intro reported
        exact ⟨p, e, first, (congrArg Prod.fst reported).symm⟩
      · rintro ⟨q, e', first', rfl⟩
        rw [first.unique first']
    · exact iff_of_false (by simp) fun none => none p e first.1
  · constructor
    · intro n
      constructor
      · intro reported
        rw [reported] at result
        cases result
      · rintro ⟨p, e, first, _⟩
        exact absurd first.1 (none p e)
    · exact iff_of_true result none

end H264Scan
