import SamsungHardware.EdidParsing.EdidLibrary
import SamsungHardware.EdidParsing.EdidStructure

/- Which parts of an EDID have to be inside of it so that every query stays inside. -/
namespace ReadBounds
open ReadPrograms VideoFormats EdidQueries EdidStructure EdidLibrary List

def size (n : Nat) : Nat := (n + 1) * sizeOfEdidBlock

def Inside (n : Nat) : Place → Prop
  | .data i => i < size n
  | .vic i => i < numOfVicFor3D

variable {m : Place → UInt8} {n : Nat}

@[simp] theorem inside_data (i : Nat) : Inside n (.data i) ↔ i < size n := Iff.rfl

theorem head_inside {e k : Nat} (known : e ≤ n) (small : k < sizeOfEdidBlock) :
    Inside n (.data (e * sizeOfEdidBlock + k)) := by
  have before : e * sizeOfEdidBlock ≤ n * sizeOfEdidBlock := Nat.mul_le_mul_right _ known
  change e * sizeOfEdidBlock + k < (n + 1) * sizeOfEdidBlock
  rw [Nat.add_mul, Nat.one_mul]
  exact Nat.add_lt_add_of_le_of_lt before small

theorem le_of_extension {e : Nat} (extension : e ∈ extensions n) : e ≤ n := by
  have range := mem_range'_1.mp extension
  omega

def VendorInside (d : Nat → UInt8) (n p : Nat) : Prop :=
  tagAt d p = vsdbTag → p + 1 < size n ∧
    (d (p + 1) = 0x03 → p + 2 < size n ∧ (d (p + 2) = 0x0C → p + 3 < size n))

theorem stays_isHdmiVsdb (p : Nat) : (isHdmiVsdb p).Stays m (Inside n) ↔
    p < size n ∧ VendorInside (bytes m) n p := by
  simp only [isHdmiVsdb, stays_both, stays_check, val_check, beq_iff_eq, inside_data]
  constructor
  · rintro ⟨header, rest⟩
    refine ⟨header, fun tag => ?_⟩
    obtain ⟨first, rest⟩ := rest tag
    exact ⟨first, fun three => ⟨(rest three).1, fun twelve => ((rest three).2 twelve).1⟩⟩
  · rintro ⟨header, vendor⟩
    refine ⟨header, fun tag => ?_⟩
    obtain ⟨first, rest⟩ := vendor tag
    exact ⟨first, fun three => ⟨(rest three).1, fun twelve => ⟨(rest three).2 twelve,
      fun _ => header⟩⟩⟩

theorem stays_getVSDBOffset {e : Nat} (known : e ≤ n) :
    (getVSDBOffset n e).Stays m (Inside n) ↔
      ∀ p ∈ reached (hdmiAt (bytes m)) (blocks (bytes m) e),
        p < size n ∧ VendorInside (bytes m) n p := by
  have found : ∀ p, ((isHdmiVsdb p >>= fun here => (pure (if here then some p else none) :
      Query (Option Nat))).val m).isSome = hdmiAt (bytes m) p := by
    intro p
    rw [val_bind, val_isHdmiVsdb, val_pure]
    cases hdmiAt (bytes m) p <;> rfl
  unfold getVSDBOffset
  rw [if_neg (by omega), stays_bind, stays_dataBlocks]
  simp only [found, stays_bind, stays_pure, and_true, stays_isHdmiVsdb]
  constructor
  · intro all p member
    exact (all.2 p member).2
  · intro all
    exact ⟨head_inside known (by decide), fun p member => ⟨(all p member).1, all p member⟩⟩

/-- The vendor block of an extension, if there is one, is among the blocks that were looked at. -/
theorem vsdb_reached {d : Nat → UInt8} {e : Nat} (found : vsdb d n e > 0) :
    vsdb d n e ∈ reached (hdmiAt d) (blocks d e) ∧ hdmiAt d (vsdb d n e) = true := by
  apply (find_iff_reached _).mp
  unfold vsdb at found ⊢
  split at found
  · cases found
  · rename_i known
    rw [if_neg known]
    cases first : (blocks d e).find? (hdmiAt d) with
    | none =>
      rw [first] at found
      cases found
    | some p => rfl

section

def VendorsInside (d : Nat → UInt8) (n : Nat) : Prop :=
  ∀ e ∈ extensions n, ∀ p ∈ reached (hdmiAt d) (blocks d e), p < size n ∧ VendorInside d n p

variable (vendors : VendorsInside (bytes m) n)

include vendors

theorem stays_vsdb {e : Nat} (extension : e ∈ extensions n) :
    (getVSDBOffset n e).Stays m (Inside n) :=
  (stays_getVSDBOffset (le_of_extension extension)).mpr (vendors e extension)

theorem stays_checkHDMIMode : (checkHDMIMode n).Stays m (Inside n) := by
  refine (stays_anyOf ..).mpr ?_
  intro e member
  rw [stays_bind]
  exact ⟨stays_vsdb vendors (mem_of_reached member), stays_pure m _ _⟩

theorem stays_isTimingExtension {e : Nat} (known : e ≤ n) :
    (isTimingExtension n e).Stays m (Inside n) := by
  have header : Inside n (.data (e * sizeOfEdidBlock + 0)) := head_inside known (by decide)
  have revision : Inside n (.data (e * sizeOfEdidBlock + 1)) := head_inside known (by decide)
  have hdmi := stays_checkHDMIMode vendors
  unfold isTimingExtension
  rw [if_neg (by omega)]
  simp only [stays_both, stays_either, stays_check, stays_bind, stays_pure]
  exact ⟨header, fun _ => ⟨revision, fun _ => ⟨⟨hdmi, trivial⟩, fun _ => revision⟩⟩⟩

theorem stays_whenTiming {β : Type} {body : Nat → Query (Option β)} {e : Nat} (known : e ≤ n) :
    (whenTiming n body e).Stays m (Inside n) ↔
      (timing (bytes m) n e = true → (body e).Stays m (Inside n)) := by
  unfold whenTiming
  rw [stays_bind, val_isTimingExtension]
  simp only [stays_isTimingExtension vendors known, true_and, stays_ite, stays_pure]
  cases timing (bytes m) n e <;> simp

end

def VideoInside (d : Nat → UInt8) (n p : Nat) : Prop :=
  tagAt d p = shortVideoTag → p + lengthAt d p < size n

theorem stays_listsVIC (vic p : Nat) : (listsVIC vic p).Stays m (Inside n) ↔
    p < size n ∧ (tagAt (bytes m) p = shortVideoTag →
      ∀ i ∈ reached (fun i => (bytes m (p + i) &&& 0x7F).toNat = vic)
        (List.range' 1 (lengthAt (bytes m) p)), p + i < size n) := by
  unfold listsVIC tagAt
  rw [stays_byteAt_bind, inside_data]
  refine and_congr_right fun _ => ?_
  by_cases tag : tagCode (bytes m p) = shortVideoTag
  · rw [if_pos tag, stays_bind, stays_anyOf]
    simp only [stays_check, inside_data, val_check, stays_pure, and_true, tag, forall_const]
    rfl
  · rw [if_neg tag]
    simp only [stays_pure, tag, false_imp_iff]

theorem stays_isContainVIC {e vic : Nat} (known : e ≤ n)
    (inside : ∀ p ∈ blocks (bytes m) e, p < size n ∧ VideoInside (bytes m) n p) :
    (isContainVIC n e vic).Stays m (Inside n) := by
  have offset : Inside n (.data (e * sizeOfEdidBlock + 2)) := head_inside known (by decide)
  unfold isContainVIC
  rw [stays_bind, if_neg (by omega), stays_bind, stays_dataBlocks, stays_byteAt]
  refine ⟨offset, ⟨offset, ?_⟩, stays_pure m _ _⟩
  intro p member
  obtain ⟨header, video⟩ := inside p (mem_of_reached member)
  refine ⟨header, (stays_listsVIC vic p).mpr ⟨header, ?_⟩⟩
  intro tag i reaches
  have last := video tag
  have range := mem_range'_1.mp (mem_of_reached reaches)
  omega

theorem not_listed_beyond (svd : UInt8) : decide ((svd &&& 0x7F).toNat = 128) = false := by
  have small : (svd &&& 0x7F).toNat ≤ 127 := by
    exact Nat.and_le_right
  rw [decide_eq_false_iff_not]
  omega

theorem val_listsVIC_beyond (p : Nat) : (listsVIC 128 p).val m = none := by
  unfold listsVIC
  rw [val_byteAt_bind]
  by_cases tag : tagCode (bytes m p) = shortVideoTag
  · have never : (anyOf (fun i => check (p + i) fun svd => decide ((svd &&& 0x7F).toNat = 128))
        (List.range' 1 (dataBlockSize (bytes m p)))).val m = false := by
      rw [val_anyOf, any_eq_false]
      intro i _
      rw [val_check, not_listed_beyond]
      exact Bool.false_ne_true
    rw [if_pos tag, val_bind_of m never]
    rfl
  · rw [if_neg tag, val_pure]

theorem inside_of_isContainVIC {e : Nat} (known : e ≤ n)
    (stays : (isContainVIC n e 128).Stays m (Inside n)) :
    ∀ p ∈ blocks (bytes m) e, p < size n ∧ VideoInside (bytes m) n p := by
  unfold isContainVIC at stays
  rw [stays_bind, if_neg (by omega), stays_bind, stays_dataBlocks,
    reached_eq_self fun p _ => by rw [val_listsVIC_beyond]; rfl] at stays
  intro p member
  obtain ⟨header, list⟩ := stays.2.1.2 p member
  refine ⟨header, ?_⟩
  intro tag
  have all := ((stays_listsVIC 128 p).mp list).2 tag
  rw [reached_eq_self fun i _ => not_listed_beyond _] at all
  by_cases empty : lengthAt (bytes m) p = 0
  · rw [empty]
    exact header
  · exact all _ (mem_range'_1.mpr (by omega))

theorem stays_saveVIC (inside : ∀ e ∈ extensions n, ∀ p ∈ blocks (bytes m) e,
    p < size n ∧ VideoInside (bytes m) n p) : (saveVIC n).Stays m (Inside n) := by
  refine stays_fold m (Inside n) ?_ []
  intro e extension saved
  split
  · have offset : Inside n (.data (e * sizeOfEdidBlock + 2)) :=
      head_inside (le_of_extension extension) (by decide)
    rw [stays_byteAt_bind]
    refine ⟨offset, stays_chaseFold m (Inside n) _ _ _ ?_⟩
    intro p member
    obtain ⟨header, video⟩ := inside e extension p member
    refine ⟨(stays_blockLength m (Inside n) p).mpr header, ?_⟩
    intro saved
    rw [stays_byteAt_bind]
    refine ⟨header, ?_⟩
    split
    · rename_i tag
      refine stays_fold m (Inside n) ?_ saved
      intro i position saved
      have last := video tag
      have range := mem_range'_1.mp position
      have within : p + i < size n := by
        change _ ∧ i < 1 + lengthAt (bytes m) p at range
        omega
      split
      · rw [stays_byteAt_bind]
        exact ⟨within, stays_pure m _ _⟩
      · exact stays_pure m _ _
    · exact stays_pure m _ _
  · exact stays_pure m _ _

theorem saveVIC_length : ((saveVIC n).val m).length ≤ numOfVicFor3D := by
  have short : ([] : List UInt8).length ≤ numOfVicFor3D := Nat.zero_le _
  refine fold_keeps m (P := fun saved : List UInt8 => saved.length ≤ numOfVicFor3D) ?_ [] short
  intro e saved few
  split
  · rw [val_byteAt_bind]
    refine chaseFold_keeps m (P := fun saved : List UInt8 => saved.length ≤ numOfVicFor3D) ?_ _ _
      saved few
    intro p saved few
    rw [val_byteAt_bind]
    split
    · refine fold_keeps m (P := fun saved : List UInt8 => saved.length ≤ numOfVicFor3D) ?_ saved few
      intro i saved few
      split
      · rename_i room
        rw [val_byteAt_bind, val_pure, length_append]
        exact room
      · exact few
    · exact few
  · exact few

section

/-- A detailed timing is inside, or it has no clock and its clock is inside. -/
def TimingInside (d : Nat → UInt8) (n i : Nat) : Prop :=
  i + 1 < size n ∧ (clockAt d i ≠ 0 → i + 17 < size n)

theorem stays_isDescriptorOf (params : EdidParams) (i : Nat) :
    (isDescriptorOf params i).Stays m (Inside n) ↔ TimingInside (bytes m) n i := by
  unfold isDescriptorOf TimingInside
  rw [stays_byteAt_bind, stays_byteAt_bind]
  by_cases clock : clockAt (bytes m) i = 0
  · unfold clockAt at clock ⊢
    rw [if_pos clock]
    simp only [inside_data, stays_pure, clock, ne_eq, not_true, false_imp_iff, and_true]
    omega
  · unfold clockAt at clock ⊢
    rw [if_neg clock]
    simp only [stays_byteAt_bind, inside_data, stays_pure, clock, ne_eq, not_false_iff, forall_const,
      and_true]
    omega

theorem hBlank_of_descriptor {params : EdidParams} {i : Nat}
    (found : (isDescriptorOf params i).val m = true) : hBlankAt (bytes m) i = params.hBlank := by
  unfold isDescriptorOf at found
  rw [val_byteAt_bind, val_byteAt_bind] at found
  dsimp only at found
  split at found
  · cases found
  · simp only [val_byteAt_bind, val_pure, Bool.and_eq_true, beq_iff_eq] at found
    exact found.1.1.1.1

variable {behind : Nat → EdidParams}

def timingPositions (d : Nat → UInt8) (e : Nat) : List Nat :=
  if e = 0 then upTo 0x36 (0x36 + 18 * 4) 18 else timingsOf d e

theorem stays_isContainVideoDTD {e : Nat} (known : e ≤ n) (format : VideoFormat) :
    (isContainVideoDTD behind n e format).Stays m (Inside n) ↔
      ∀ i ∈ reached (fun i => (isDescriptorOf (videoParams behind format) i).val m)
        (timingPositions (bytes m) e), TimingInside (bytes m) n i := by
  unfold isContainVideoDTD timingArea timingPositions
  rw [if_neg (by omega)]
  by_cases first : e = 0
  · rw [if_pos first, if_pos first, stays_bind, stays_anyOf]
    simp only [stays_pure, stays_isDescriptorOf, true_and, val_pure]
  · have offset : Inside n (.data (e * sizeOfEdidBlock + 2)) := head_inside known (by decide)
    rw [if_neg first, if_neg first, stays_bind, stays_anyOf]
    simp only [stays_byteAt_bind, stays_pure, offset, stays_isDescriptorOf, true_and, val_byteAt_bind,
      val_pure]
    rfl

theorem base_timings_inside (d : Nat → UInt8) : ∀ i ∈ timingPositions d 0, TimingInside d n i := by
  intro i member
  have positions : timingPositions d 0 = [54, 72, 90, 108] := rfl
  have large : sizeOfEdidBlock ≤ size n := Nat.le_mul_of_pos_left _ (Nat.succ_pos n)
  rw [positions] at member
  simp only [mem_cons, not_mem_nil, or_false] at member
  unfold TimingInside sizeOfEdidBlock at *
  omega

def apartFormats : List VideoFormat :=
  [.v640x480p60Hz, .v720x480p60Hz, .v1280x720p60Hz, .v1920x1080i60Hz, .v720x480i60Hz,
    .v2880x480i60Hz, .v720x576p50Hz, .v1280x720p50Hz]

theorem apartFormats_hBlank : apartFormats.map (fun format => (videoParams behind format).hBlank) =
    [160, 138, 370, 280, 276, 552, 144, 700] := rfl

/-- There are at most eight timings, so some format matches none of those in front of another. -/
theorem unmatched_format (behind : Nat → EdidParams) {d : Nat → UInt8} {e i : Nat} {before after : List Nat}
    (split : timingsOf d e = before ++ i :: after) :
    ∃ format, ∀ j ∈ before, hBlankAt d j ≠ (videoParams behind format).hBlank := by
  have few : before.length < 8 := by
    have count := congrArg List.length split
    simp only [timingsOf, upTo, length_map, length_range, length_append,
      length_cons, sizeOfEdidBlock] at count
    omega
  by_contra matched
  push Not at matched
  have covered : apartFormats.map (fun format => (videoParams behind format).hBlank) ⊆
      before.map (hBlankAt d) := by
    intro blank member
    obtain ⟨format, _, rfl⟩ := mem_map.mp member
    obtain ⟨j, earlier, same⟩ := matched format
    exact mem_map.mpr ⟨j, earlier, same⟩
  rw [apartFormats_hBlank] at covered
  have eight := (subperm_of_subset (by decide) covered).length_le
  rw [length_map] at eight
  exact absurd eight (by simp only [length_cons, length_nil]; omega)

theorem inside_of_isContainVideoDTD {e : Nat} (known : e ≤ n) (extension : e ≠ 0)
    (stays : ∀ format, (isContainVideoDTD behind n e format).Stays m (Inside n)) :
    ∀ i ∈ timingsOf (bytes m) e, TimingInside (bytes m) n i := by
  intro i member
  obtain ⟨before, after, split⟩ := append_of_mem member
  obtain ⟨format, unmatched⟩ := unmatched_format behind split
  have inside := (stays_isContainVideoDTD known format).mp (stays format)
  rw [timingPositions, if_neg extension, split] at inside
  apply inside i
  apply reached_of_append
  intro j earlier
  exact Bool.eq_false_iff.mpr fun found => unmatched j earlier (hBlank_of_descriptor found)

end

section

variable (vendors : VendorsInside (bytes m) n)

include vendors

theorem stays_eachVsdb {β : Type} (body : Nat → Query (Option β)) :
    (each (whenTiming n (atVsdb n body)) (extensions n)).Stays m (Inside n) ↔
      ∀ e ∈ reached (fun e => timing (bytes m) n e && (decide (vsdb (bytes m) n e > 0) &&
          ((body (vsdb (bytes m) n e)).val m).isSome)) (extensions n),
        timing (bytes m) n e = true → vsdb (bytes m) n e > 0 →
          (body (vsdb (bytes m) n e)).Stays m (Inside n) := by
  have stops : ∀ e, ((whenTiming n (atVsdb n body) e).val m).isSome =
      (timing (bytes m) n e && (decide (vsdb (bytes m) n e > 0) &&
        ((body (vsdb (bytes m) n e)).val m).isSome)) := by
    intro e
    rw [val_whenTiming, atVsdb, val_bind_of m (val_getVSDBOffset m n e)]
    cases timing (bytes m) n e with
    | false => rfl
    | true =>
      by_cases found : vsdb (bytes m) n e > 0
      · simp only [found, if_true, decide_true, Bool.true_and]
      · simp only [found, if_true, if_false, decide_false, Bool.true_and, Bool.false_and, val_pure,
          Option.isSome_none]
  rw [stays_each]
  simp only [stops]
  refine forall_congr' fun e => forall_congr' fun member => ?_
  have extension := mem_of_reached member
  rw [stays_whenTiming vendors (le_of_extension extension)]
  refine forall_congr' fun _ => ?_
  rw [atVsdb, stays_bind_of m (Inside n) (val_getVSDBOffset m n e),
    and_iff_right (stays_vsdb vendors extension)]
  by_cases found : vsdb (bytes m) n e > 0
  · simp only [found, if_true, forall_const]
  · simp only [found, if_false, stays_pure, false_imp_iff]

theorem vsdb_inside {e : Nat} (extension : e ∈ extensions n) (found : vsdb (bytes m) n e > 0) :
    vsdb (bytes m) n e < size n :=
  (vendors e extension _ (vsdb_reached found).1).1

def FieldInside (d : Nat → UInt8) (n k : Nat) : Prop :=
  ∀ e, (extensions n).find? (fun e => timing d n e && hasField d n k e) = some e →
    vsdb d n e + k < size n

theorem stays_vsdbField (k : Nat) :
    (vsdbField n k).Stays m (Inside n) ↔ FieldInside (bytes m) n k := by
  have value : ∀ p, ((fieldAt k p).val m).isSome = decide (lengthAt (bytes m) p ≥ k) := by
    intro p
    rw [fieldAt, val_bind_of m (val_blockLength m p)]
    by_cases long : lengthAt (bytes m) p ≥ k
    · rw [if_pos long, decide_eq_true long]
      rfl
    · rw [if_neg long, decide_eq_false long]
      rfl
  have stays : ∀ p, (fieldAt k p).Stays m (Inside n) ↔
      p < size n ∧ (lengthAt (bytes m) p ≥ k → p + k < size n) := by
    intro p
    rw [fieldAt, stays_bind_of m (Inside n) (val_blockLength m p), stays_blockLength, inside_data]
    by_cases long : lengthAt (bytes m) p ≥ k
    · rw [if_pos long, stays_byteAt_bind]
      simp only [inside_data, stays_pure, and_true, long, forall_const]
    · rw [if_neg long]
      simp only [stays_pure, long, false_imp_iff]
  unfold vsdbField FieldInside hasField
  rw [stays_eachVsdb vendors]
  simp only [value, stays, find_iff_reached, Bool.and_eq_true, decide_eq_true_eq]
  constructor
  · rintro all e ⟨member, first, found, long⟩
    exact (all e member first found).2 long
  · intro all e member first found
    exact ⟨vsdb_inside vendors (mem_of_reached member) found,
      fun long => all e ⟨member, first, found, long⟩⟩

omit vendors in
theorem hasField_address {d : Nat → UInt8} (e : Nat) :
    hasField d n 5 e = decide (vsdb d n e > 0) := by
  unfold hasField
  by_cases found : vsdb d n e > 0
  · have hdmi := (vsdb_reached found).2
    simp only [hdmiAt, Bool.and_eq_true, decide_eq_true_eq] at hdmi
    have long : lengthAt d (vsdb d n e) ≥ 5 := by omega
    rw [decide_eq_true long, Bool.and_true]
  · rw [decide_eq_false found, Bool.false_and]

theorem stays_edidGetCECPhysicalAddress :
    (edidGetCECPhysicalAddress n).Stays m (Inside n) ↔ FieldInside (bytes m) n 5 := by
  unfold edidGetCECPhysicalAddress FieldInside
  rw [stays_eachVsdb vendors]
  simp only [val_byteAt_bind, val_pure, Option.isSome_some, Bool.and_true, stays_byteAt_bind,
    inside_data, stays_pure, and_true, hasField_address, find_iff_reached, Bool.and_eq_true,
    decide_eq_true_eq]
  constructor
  · rintro all e ⟨member, first, found⟩
    exact (all e member first found).2
  · intro all e member first found
    have last := all e ⟨member, first, found⟩
    omega

end

section

def BlocksInside (d : Nat → UInt8) (n : Nat) (stops : Nat → Bool) (Ok : Nat → Prop) : Prop :=
  ∀ e ∈ reached (fun e => timing d n e && (blocks d e).any stops) (extensions n),
    timing d n e = true → ∀ p ∈ reached stops (blocks d e), Ok p

variable (vendors : VendorsInside (bytes m) n)

include vendors

theorem stays_eachBlock {β : Type} (body : Nat → Query (Option β))
    (header : ∀ p, (body p).Stays m (Inside n) → p < size n) :
    (each (whenTiming n fun e => dataBlocks e body) (extensions n)).Stays m (Inside n) ↔
      BlocksInside (bytes m) n (fun p => ((body p).val m).isSome)
        fun p => (body p).Stays m (Inside n) := by
  have stops : ∀ e, ((whenTiming n (fun e => dataBlocks e body) e).val m).isSome =
      (timing (bytes m) n e && (blocks (bytes m) e).any fun p => ((body p).val m).isSome) := by
    intro e
    rw [val_whenTiming]
    cases timing (bytes m) n e with
    | false => rfl
    | true =>
      rw [if_pos rfl, val_dataBlocks, isSome_findSome?]
      rfl
  rw [stays_each]
  simp only [stops]
  refine forall_congr' fun e => forall_congr' fun member => ?_
  have known := le_of_extension (mem_of_reached member)
  have offset : Inside n (.data (e * sizeOfEdidBlock + 2)) := head_inside known (by decide)
  rw [stays_whenTiming vendors known, stays_dataBlocks, and_iff_right offset]
  refine forall_congr' fun _ => forall_congr' fun p => forall_congr' fun _ => ?_
  exact and_iff_right_of_imp (header p)

end

def ColorInside (d : Nat → UInt8) (n p : Nat) : Prop :=
  tagAt d p = extendedTag → p + 1 < size n ∧ (colorimetryBlock d p = true → p + 3 < size n)

theorem val_isColorimetryBlock (p : Nat) :
    (isColorimetryBlock p).val m = colorimetryBlock (bytes m) p := by
  simp only [isColorimetryBlock, val_both, val_check]
  rfl

theorem stays_isColorimetryBlock (p : Nat) : (isColorimetryBlock p).Stays m (Inside n) ↔
    p < size n ∧ (tagAt (bytes m) p = extendedTag → p + 1 < size n) := by
  simp only [isColorimetryBlock, stays_both, stays_check, val_check, beq_iff_eq, inside_data]
  constructor
  · rintro ⟨header, rest⟩
    exact ⟨header, fun tag => (rest tag).1⟩
  · rintro ⟨header, kind⟩
    exact ⟨header, fun tag => ⟨kind tag, fun _ => header⟩⟩

theorem val_colorimetryAt (color : HDMIColorimetry) (p : Nat) :
    ((colorimetryAt color p).val m).isSome = colorimetryBlock (bytes m) p := by
  rw [colorimetryAt, val_bind_of m (val_isColorimetryBlock p)]
  cases colorimetryBlock (bytes m) p <;> rfl

theorem stays_colorimetryAt (color : HDMIColorimetry) (p : Nat) :
    (colorimetryAt color p).Stays m (Inside n) ↔ p < size n ∧ ColorInside (bytes m) n p := by
  rw [colorimetryAt, stays_bind_of m (Inside n) (val_isColorimetryBlock p),
    stays_isColorimetryBlock, and_assoc]
  refine and_congr_right fun header => ?_
  unfold ColorInside
  cases block : colorimetryBlock (bytes m) p with
  | false => simp
  | true =>
    have tag : tagAt (bytes m) p = extendedTag := by
      simp only [colorimetryBlock, Bool.and_eq_true, beq_iff_eq] at block
      exact block.1
    simp only [if_true, stays_byteAt_bind, inside_data, stays_pure, tag, forall_const, and_true]
    omega

theorem stays_checkColorimetry (vendors : VendorsInside (bytes m) n) (color : HDMIColorimetry) :
    (checkColorimetry n color).Stays m (Inside n) ↔
      (¬ (color = .noData ∨ color = .itu601 ∨ color = .itu709) →
        BlocksInside (bytes m) n (colorimetryBlock (bytes m))
          fun p => p < size n ∧ ColorInside (bytes m) n p) := by
  unfold checkColorimetry
  by_cases plain : color = .noData ∨ color = .itu601 ∨ color = .itu709
  · rw [if_pos plain]
    simp only [stays_pure, plain, not_true, false_imp_iff]
  · rw [if_neg plain, stays_bind, stays_eachBlock vendors _
      fun p stays => ((stays_colorimetryAt color p).mp stays).1]
    simp only [val_colorimetryAt, stays_colorimetryAt, stays_pure, and_true, plain, not_false_iff,
      forall_const]

/-- The short audio descriptors of a data block, up to the one that meets the request. -/
def AudioInside (d : Nat → UInt8) (n : Nat) (audio : HDMIAudioParameter) (p : Nat) : Prop :=
  tagAt d p = shortAudioTag →
    ∀ j ∈ reached (fun j => (audioDescriptor d audio p j).isSome) (upTo 1 (lengthAt d p + 1) 3),
      p + j + 2 < size n

variable (audio : HDMIAudioParameter)

theorem val_audioDescriptorAt (p j : Nat) :
    (audioDescriptorAt audio p j).val m = audioDescriptor (bytes m) audio p j := rfl

theorem stays_audioDescriptorAt (p j : Nat) :
    (audioDescriptorAt audio p j).Stays m (Inside n) ↔ p + j + 2 < size n := by
  simp only [audioDescriptorAt, stays_byteAt_bind, inside_data, stays_pure, and_true]
  omega

theorem val_audioAt (p : Nat) : (audioAt audio p).val m = audioBlock (bytes m) audio p := by
  unfold audioAt audioBlock tagAt
  rw [val_byteAt_bind]
  by_cases tag : tagCode (bytes m p) = shortAudioTag
  · rw [if_pos tag, if_pos tag, val_each]
    rfl
  · rw [if_neg tag, if_neg tag]
    rfl

theorem stays_audioAt (p : Nat) :
    (audioAt audio p).Stays m (Inside n) ↔ p < size n ∧ AudioInside (bytes m) n audio p := by
  unfold audioAt AudioInside tagAt
  rw [stays_byteAt_bind, inside_data]
  refine and_congr_right fun _ => ?_
  by_cases tag : tagCode (bytes m p) = shortAudioTag
  · rw [if_pos tag, stays_each]
    simp only [val_audioDescriptorAt, stays_audioDescriptorAt, tag, forall_const]
    rfl
  · rw [if_neg tag]
    simp only [stays_pure, tag, false_imp_iff]

theorem stays_edidAudioModeSupport (vendors : VendorsInside (bytes m) n)
    (audio : HDMIAudioParameter) :
    (edidAudioModeSupport n audio).Stays m (Inside n) ↔
      BlocksInside (bytes m) n (fun p => (audioBlock (bytes m) audio p).isSome)
        fun p => p < size n ∧ AudioInside (bytes m) n audio p := by
  unfold edidAudioModeSupport
  rw [stays_bind, stays_eachBlock vendors _ fun p stays => ((stays_audioAt audio p).mp stays).1]
  simp only [val_audioAt, stays_audioAt, stays_pure, and_true]

end ReadBounds
