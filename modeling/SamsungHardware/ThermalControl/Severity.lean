import SamsungHardware.Library.StepRuns

/- Throttling severities of a sensor: the scans of thermal-helper.cpp over thresholds and
   hysteresis, and what ParseSensorInfo admits for the hot ones. Temperatures are exact numbers; an
   absent threshold is `none`. -/
namespace Severity
open StepRuns Option List Nat

inductive ThrottlingSeverity where
  | none | light | moderate | severe | critical | emergency | shutdown
  deriving DecidableEq, Repr

abbrev ThrottlingSeverity.toNat (level : ThrottlingSeverity) : Nat := level.ctorIdx

def fromHigh : List ThrottlingSeverity :=
  [.shutdown, .emergency, .critical, .severe, .moderate, .light]

def levels : List ThrottlingSeverity := .none :: fromHigh.reverse

/-- One of the variables that the loop sets at the first level that passes. -/
def scan (passes : ThrottlingSeverity → Bool) : ThrottlingSeverity :=
  fromHigh.foldl (fun ret level => if passes level && ret = .none then level else ret) .none

section

variable (passes : ThrottlingSeverity → Bool)

theorem scan_eq_find : scan passes = (fromHigh.find? passes).getD .none := by
  simp only [scan, fromHigh, foldl, find?]
  cases passes .shutdown <;> cases passes .emergency <;> cases passes .critical <;>
    cases passes .severe <;> cases passes .moderate <;> cases passes .light <;> rfl

theorem scan_passes : scan passes = .none ∨ passes (scan passes) = true := by
  rw [scan_eq_find]
  cases found : fromHigh.find? passes with
  | none => exact Or.inl rfl
  | some level => exact Or.inr (find?_some found)

theorem le_scan {level : ThrottlingSeverity} (above : level ≠ .none)
    (pass : passes level = true) : level.toNat ≤ (scan passes).toNat := by
  rw [scan_eq_find]
  simp only [fromHigh, find?]
  cases level with
  | none => exact absurd rfl above
  | light | moderate | severe | critical | emergency | shutdown =>
    simp only [pass]
    repeat' split
    all_goals decide

end

section

variable {α : Type} [AddCommGroup α] [LinearOrder α]

abbrev Thresholds (α : Type) := ThrottlingSeverity → Option α

abbrev Hysteresis (α : Type) := ThrottlingSeverity → α

variable (thresholds : Thresholds α)

def hotAt (value : α) (level : ThrottlingSeverity) : Bool :=
  (thresholds level).any fun t => t ≤ value

def hotHeldAt (hysteresis : Hysteresis α) (value : α) (level : ThrottlingSeverity) : Bool :=
  (thresholds level).any fun t => t - hysteresis level < value

def coldAt (value : α) (level : ThrottlingSeverity) : Bool :=
  (thresholds level).any fun t => t ≥ value

def coldHeldAt (hysteresis : Hysteresis α) (value : α) (level : ThrottlingSeverity) : Bool :=
  (thresholds level).any fun t => t + hysteresis level > value

def settle (prev found held : ThrottlingSeverity) : ThrottlingSeverity :=
  if found.toNat < prev.toNat then held else found

def getSeverityFromThresholds (hotThresholds coldThresholds : Thresholds α)
    (hotHysteresis coldHysteresis : Hysteresis α) (prevHot prevCold : ThrottlingSeverity)
    (value : α) : ThrottlingSeverity × ThrottlingSeverity :=
  (settle prevHot (scan (hotAt hotThresholds value))
      (scan (hotHeldAt hotThresholds hotHysteresis value)),
    settle prevCold (scan (coldAt coldThresholds value))
      (scan (coldHeldAt coldThresholds coldHysteresis value)))

/-- The thresholds have to be in order; `min` is the smallest one allowed. -/
def ordered (min : α) : List (Option α) → Bool
  | [] => true
  | .none :: rest => ordered min rest
  | some t :: rest => !(t < min) && ordered t rest

def valueOf (values : List (Option α)) (level : ThrottlingSeverity) : Option α :=
  values[level.toNat]?.join

def parseHotThreshold (min : α) (values : List (Option α)) : Option (Thresholds α) :=
  if values.length = 0 then some fun _ => .none
  else if values.length ≠ levels.length then .none
  else if ordered min values then some (valueOf values) else .none

/-- Absent values are refused here. -/
def parseHotHysteresis (values : List (Option α)) : Option (Hysteresis α) :=
  if values.length = 0 then some fun _ => 0
  else if values.length ≠ levels.length then .none
  else if values.all Option.isSome then some fun level => (valueOf values level).getD 0 else .none

def overlapped (thresholds : Thresholds α) (hysteresis : Hysteresis α) :
    List ThrottlingSeverity → Bool
  | [] => false
  | j :: rest =>
    ((thresholds j).any fun t => ((rest.find? fun k => (thresholds k).isSome).bind fun k =>
      (thresholds k).map fun t' => decide (t > t' - hysteresis k)).getD false) ||
    overlapped thresholds hysteresis rest

def parseHot (min : α) (hotThreshold hotHysteresis : List (Option α)) :
    Option (Thresholds α × Hysteresis α) := do
  let thresholds ← parseHotThreshold min hotThreshold
  let hysteresis ← parseHotHysteresis hotHysteresis
  if overlapped thresholds hysteresis levels then .none else some (thresholds, hysteresis)

end

section

variable {α : Type} [AddCommGroup α] [LinearOrder α]

structure Sensor (α : Type) where
  (hotThresholds coldThresholds : Thresholds α)
  (hotHysteresis coldHysteresis : Hysteresis α)

def step (sensor : Sensor α) (prev : ThrottlingSeverity × ThrottlingSeverity) (value : α) :
    ThrottlingSeverity × ThrottlingSeverity :=
  getSeverityFromThresholds sensor.hotThresholds sensor.coldThresholds sensor.hotHysteresis
    sensor.coldHysteresis prev.1 prev.2 value

/-- The hot severity is not below a level whose threshold is reached. -/
def Reported (sensor : Sensor α) (prev : ThrottlingSeverity × ThrottlingSeverity) (value : α) :
    Prop :=
  ∀ level, level ≠ .none → hotAt sensor.hotThresholds value level = true →
    level.toNat ≤ (step sensor prev value).1.toNat

/-- The reading does not lower the severity, or it is above the lower end of each level that it
    reaches, or of a higher one. -/
def Kept (sensor : Sensor α) (prev : ThrottlingSeverity × ThrottlingSeverity) (value : α) : Prop :=
  prev.1 = .none ∨
  (∃ level, prev.1.toNat ≤ level.toNat ∧ hotAt sensor.hotThresholds value level = true) ∨
  ∀ level, level ≠ .none → hotAt sensor.hotThresholds value level = true →
    ∃ higher, level.toNat ≤ higher.toNat ∧
      hotHeldAt sensor.hotThresholds sensor.hotHysteresis value higher = true

theorem toNat_pos {level : ThrottlingSeverity} : level ≠ .none ↔ 0 < level.toNat := by
  cases level <;> decide

theorem none_of_le {level other : ThrottlingSeverity} (above : level ≠ .none)
    (le : level.toNat ≤ other.toNat) : other ≠ .none :=
  toNat_pos.mpr (lt_of_lt_of_le (toNat_pos.mp above) le)

variable {sensor : Sensor α} {prev : ThrottlingSeverity × ThrottlingSeverity} {value : α}

theorem step_of_le (le : prev.1.toNat ≤ (scan (hotAt sensor.hotThresholds value)).toNat) :
    (step sensor prev value).1 = scan (hotAt sensor.hotThresholds value) :=
  if_neg (not_lt.mpr le)

theorem step_of_lt (lt : (scan (hotAt sensor.hotThresholds value)).toNat < prev.1.toNat) :
    (step sensor prev value).1 = scan (hotHeldAt sensor.hotThresholds sensor.hotHysteresis value) :=
  if_pos lt

theorem reported_iff_kept (sensor : Sensor α) (prev : ThrottlingSeverity × ThrottlingSeverity)
    (value : α) : Reported sensor prev value ↔ Kept sensor prev value := by
  rcases lt_or_ge (scan (hotAt sensor.hotThresholds value)).toNat prev.1.toNat with lt | le
  · -- the second scan decides: it has to reach every level that the first one reaches
    have falls : ∀ level, prev.1.toNat ≤ level.toNat →
        hotAt sensor.hotThresholds value level ≠ true := by
      intro level above reached
      have positive : level ≠ .none := toNat_pos.mpr (by omega)
      have := le_scan _ positive reached
      omega
    unfold Reported
    rw [step_of_lt lt]
    constructor
    · intro reported
      refine Or.inr (Or.inr fun level above reached => ⟨_, reported level above reached, ?_⟩)
      rcases scan_passes (hotHeldAt sensor.hotThresholds sensor.hotHysteresis value) with
        nothing | passes
      · exact absurd nothing (none_of_le above (reported level above reached))
      · exact passes
    · rintro (start | ⟨level, above, reached⟩ | held) level' above' reached'
      · rw [start] at lt
        exact absurd lt (not_lt_zero _)
      · exact absurd reached (falls level above)
      · obtain ⟨higher, le, passes⟩ := held level' above' reached'
        exact le_trans le (le_scan _ (none_of_le above' le) passes)
  · have whole : Reported sensor prev value := by
      intro level above reached
      rw [step_of_le le]
      exact le_scan _ above reached
    refine ⟨fun _ => ?_, fun _ => whole⟩
    rcases scan_passes (hotAt sensor.hotThresholds value) with nothing | passes
    · rw [nothing] at le
      exact Or.inl (Classical.not_not.mp fun above => none_of_le above le rfl)
    · exact Or.inr (Or.inl ⟨_, le, passes⟩)

/-- No reading of a sequence is reported below a level that it reaches, exactly if every reading
    meets the condition. -/
theorem severity_not_under_reported (sensor : Sensor α)
    (start : ThrottlingSeverity × ThrottlingSeverity) (readings : List α) :
    Meets (step sensor) (Reported sensor) start readings ↔
      Meets (step sensor) (Kept sensor) start readings :=
  meets_congr (reported_iff_kept sensor) readings start

def floatMin : ℚ := 1 / 2 ^ 126

def twoLevels : List (Option ℚ) := [.none, some 40, some 50, .none, .none, .none, .none]

def noHysteresis : Sensor ℚ := ⟨valueOf twoLevels, fun _ => .none, fun _ => 0, fun _ => 0⟩

theorem twoLevels_accepted : parseHotThreshold floatMin twoLevels = some (valueOf twoLevels) := by
  rw [parseHotThreshold, if_neg (by decide), if_neg (by decide), if_pos (by decide +kernel)]

theorem noHysteresis_accepted : parseHot floatMin twoLevels [] =
    some (noHysteresis.hotThresholds, noHysteresis.hotHysteresis) := by
  have apart : overlapped (valueOf twoLevels) (fun _ => 0) levels = false := by decide +kernel
  simp [parseHot, twoLevels_accepted, parseHotHysteresis, apart, noHysteresis]

/-- A reading that falls to the lower threshold exactly is reported as `NONE`. -/
theorem reading_under_reported :
    parseHot floatMin twoLevels [] = some (noHysteresis.hotThresholds, noHysteresis.hotHysteresis) ∧
    (step noHysteresis (.moderate, .none) 40).1 = .none ∧
    ¬ Meets (step noHysteresis) (Reported noHysteresis) (.none, .none) [50, 40] := by
  refine ⟨noHysteresis_accepted, by decide +kernel, ?_⟩
  · rintro ⟨_, reported, _⟩
    have light := reported .light (by decide) (by decide +kernel)
    exact absurd light (by decide +kernel)

end

variable {α : Type} [AddCommGroup α] [LinearOrder α]

def Triggers (sensor : Sensor α) (prev : ThrottlingSeverity × ThrottlingSeverity) (value : α) :
    Prop :=
  (prev.1.toNat < (step sensor prev value).1.toNat →
    ∃ t, sensor.hotThresholds (step sensor prev value).1 = some t ∧ t ≤ value) ∧
  ∀ level t, sensor.hotThresholds level = some t → level.toNat ≤ prev.1.toNat →
    (step sensor prev value).1.toNat < level.toNat → value ≤ t - sensor.hotHysteresis level

variable {values : List (Option α)} {level : ThrottlingSeverity} {thresholds : Thresholds α}
  {j k : ThrottlingSeverity} {hysteresis : Hysteresis α} {sensor : Sensor α}
  {prev : ThrottlingSeverity × ThrottlingSeverity} {value : α}

omit [AddCommGroup α] in
theorem ordered_le :
    ∀ {min : α}, ordered min values = true → ∀ (j : Nat) (b : α), values[j]? = some (some b) → min ≤ b := by
  induction values with
  | nil => intro min _ j b at'; cases at'
  | cons value rest ih =>
    intro min inOrder j b at'
    cases value with
    | none =>
      cases j with
      | zero => cases at'
      | succ j => exact ih inOrder j b at'
    | some t =>
      rw [ordered, Bool.and_eq_true, Bool.not_eq_true', decide_eq_false_iff_not, not_lt] at inOrder
      cases j with
      | zero => cases at'; exact inOrder.1
      | succ j => exact le_trans inOrder.1 (ih inOrder.2 j b at')

omit [AddCommGroup α] in
theorem ordered_mono :
    ∀ {min : α}, ordered min values = true → ∀ (i j : Nat) (a b : α), i < j → values[i]? = some (some a) →
      values[j]? = some (some b) → a ≤ b := by
  induction values with
  | nil => intro min _ i j a b _ at'; cases at'
  | cons value rest ih =>
    intro min inOrder i j a b lt first second
    obtain ⟨j, rfl⟩ : ∃ k, j = k + 1 := ⟨j - 1, by omega⟩
    cases value with
    | none =>
      cases i with
      | zero => cases first
      | succ i => exact ih inOrder i j a b (by omega) first second
    | some t =>
      rw [ordered, Bool.and_eq_true] at inOrder
      cases i with
      | zero => cases first; exact ordered_le inOrder.2 j b second
      | succ i => exact ih inOrder.2 i j a b (by omega) first second

/-- Thresholds rise with the level, and each is below the lower end of every higher one. -/
structure Admitted (thresholds : Thresholds α) (hysteresis : Hysteresis α) : Prop where
  apart : ∀ j k a b, j.toNat < k.toNat → thresholds j = some a → thresholds k = some b →
    a ≤ b - hysteresis k

omit [AddCommGroup α] [LinearOrder α] in
theorem valueOf_eq_some {t : α} :
    valueOf values level = some t ↔ values[level.toNat]? = some (some t) := by
  rw [valueOf]
  cases values[level.toNat]? <;> simp

omit [AddCommGroup α] in
theorem thresholds_mono {min : α} (parsed : parseHotThreshold min values = some thresholds)
    {a b : α} (lt : j.toNat < k.toNat) (first : thresholds j = some a)
    (second : thresholds k = some b) : a ≤ b := by
  unfold parseHotThreshold at parsed
  split at parsed
  · cases parsed
    cases first
  · split at parsed
    · cases parsed
    · split at parsed
      · rename_i inOrder
        cases parsed
        exact ordered_mono inOrder _ _ a b lt (valueOf_eq_some.mp first)
          (valueOf_eq_some.mp second)
      · cases parsed

theorem apart_of_not_overlapped {list : List ThrottlingSeverity}
    (none : overlapped thresholds hysteresis list = false)
    (mono : list.Pairwise fun j k => ∀ a b, thresholds j = some a → thresholds k = some b → a ≤ b) :
    list.Pairwise fun j k => ∀ a b, thresholds j = some a → thresholds k = some b →
      a ≤ b - hysteresis k := by
  induction list with
  | nil => exact List.Pairwise.nil
  | cons j rest ih =>
    rw [overlapped, Bool.or_eq_false_iff] at none
    rw [pairwise_cons] at mono ⊢
    have later := ih none.2 mono.2
    refine ⟨fun k member a b first second => ?_, later⟩
    have check := none.1
    rw [first] at check
    simp only [any_some] at check
    -- the next present level in front of `k`, or `k` itself
    obtain ⟨next, found⟩ : ∃ next, rest.find? (fun k => (thresholds k).isSome) = some next := by
      apply isSome_iff_exists.mp
      rw [find?_isSome]
      exact ⟨k, member, by rw [second]; rfl⟩
    have holds := find?_some found
    obtain ⟨t, present⟩ : ∃ t, thresholds next = some t := isSome_iff_exists.mp holds
    rw [found] at check
    simp only [bind_some, present, map_some, getD_some, decide_eq_false_iff_not, not_lt] at check
    by_cases same : k = next
    · subst same
      rw [present] at second
      cases second
      exact check
    · have between := mono.1 next (mem_of_find?_eq_some found) a t first present
      obtain ⟨_, before, after, split, skipped⟩ := find?_eq_some_iff_append.mp found
      rw [split, pairwise_append, pairwise_cons] at later
      rw [split, mem_append, mem_cons] at member
      rcases member with earlier | rfl | later'
      · have absent := skipped k earlier
        rw [second] at absent
        cases absent
      · exact absurd rfl same
      · exact le_trans between (later.2.1.1 k later' t b present second)

theorem levels_get (level : ThrottlingSeverity) : levels[level.toNat]? = some level := by
  cases level <;> rfl

theorem pairwise_levels {R : ThrottlingSeverity → ThrottlingSeverity → Prop}
    (pairwise : levels.Pairwise R) (lt : j.toNat < k.toNat) : R j k := by
  obtain ⟨first, at'⟩ := List.getElem?_eq_some_iff.mp (levels_get j)
  obtain ⟨second, at''⟩ := List.getElem?_eq_some_iff.mp (levels_get k)
  have related := List.pairwise_iff_getElem.mp pairwise _ _ first second lt
  rw [at', at''] at related
  exact related

theorem levels_pairwise : levels.Pairwise fun j k => j.toNat < k.toNat := by decide

theorem admitted_of_parse {min : α} {hotThreshold hotHysteresis : List (Option α)}
    (accepted : parseHot min hotThreshold hotHysteresis = some (thresholds, hysteresis)) :
    Admitted thresholds hysteresis := by
  simp only [parseHot, bind_eq_bind, bind_eq_some_iff] at accepted
  obtain ⟨t, parsed, h, _, checked⟩ := accepted
  split at checked
  · cases checked
  · rename_i apart
    cases checked
    have pairs := apart_of_not_overlapped (Bool.eq_false_iff.mpr apart)
      (levels_pairwise.imp fun lt a b first second => thresholds_mono parsed lt first second)
    exact ⟨fun j k a b lt first second => pairwise_levels pairs lt a b first second⟩

def Present (sensor : Sensor α) (prev : ThrottlingSeverity × ThrottlingSeverity) : Prop :=
  prev.1 = .none ∨ ∃ t, sensor.hotThresholds prev.1 = some t

omit [AddCommGroup α] [LinearOrder α] in
theorem any_elim {holds : α → Bool} (any : (thresholds level).any holds = true) :
    ∃ t, thresholds level = some t ∧ holds t = true := by
  cases at' : thresholds level with
  | none =>
    rw [at'] at any
    cases any
  | some t =>
    rw [at'] at any
    exact ⟨t, rfl, any⟩

theorem step_present (sensor : Sensor α) (prev : ThrottlingSeverity × ThrottlingSeverity)
    (value : α) : Present sensor (step sensor prev value) := by
  have scanned : ∀ passes : ThrottlingSeverity → Bool,
      (∀ level, passes level = true → ∃ t, sensor.hotThresholds level = some t) →
      scan passes = .none ∨ ∃ t, sensor.hotThresholds (scan passes) = some t := by
    intro passes present
    rcases scan_passes passes with nothing | pass
    · exact Or.inl nothing
    · exact Or.inr (present _ pass)
  have reached : ∀ level, hotAt sensor.hotThresholds value level = true →
      ∃ t, sensor.hotThresholds level = some t := by
    intro level pass
    obtain ⟨t, at', _⟩ := any_elim pass
    exact ⟨t, at'⟩
  have held : ∀ level, hotHeldAt sensor.hotThresholds sensor.hotHysteresis value level = true →
      ∃ t, sensor.hotThresholds level = some t := by
    intro level pass
    obtain ⟨t, at', _⟩ := any_elim pass
    exact ⟨t, at'⟩
  unfold Present
  rcases lt_or_ge (scan (hotAt sensor.hotThresholds value)).toNat prev.1.toNat with lt | le
  · rw [step_of_lt lt]
    exact scanned _ held
  · rw [step_of_le le]
    exact scanned _ reached

/-- The second scan does not end above the previous level: the reading would have to be above
    the lower end of a higher level, and so above the threshold of the previous one. -/
theorem held_le_prev (admitted : Admitted sensor.hotThresholds sensor.hotHysteresis)
    (present : Present sensor prev)
    (lt : (scan (hotAt sensor.hotThresholds value)).toNat < prev.1.toNat) :
    (scan (hotHeldAt sensor.hotThresholds sensor.hotHysteresis value)).toNat ≤ prev.1.toNat := by
  by_contra above
  rw [not_le] at above
  have positive : prev.1 ≠ .none := toNat_pos.mpr (by omega)
  rcases present with start | ⟨t, at'⟩
  · exact positive start
  · rcases scan_passes (hotHeldAt sensor.hotThresholds sensor.hotHysteresis value) with
      nothing | passes
    · rw [nothing] at above
      exact not_lt_zero _ above
    · obtain ⟨t', at'', below⟩ := any_elim passes
      have apart := admitted.apart _ _ t t' above at' at''
      have reached : hotAt sensor.hotThresholds value prev.1 = true := by
        rw [hotAt, at', any_some, decide_eq_true_iff]
        exact le_of_lt (lt_of_le_of_lt apart (of_decide_eq_true below))
      have := le_scan _ positive reached
      omega

theorem triggers (admitted : Admitted sensor.hotThresholds sensor.hotHysteresis)
    (present : Present sensor prev) : Triggers sensor prev value := by
  unfold Triggers
  rcases lt_or_ge (scan (hotAt sensor.hotThresholds value)).toNat prev.1.toNat with lt | le
  · rw [step_of_lt lt]
    constructor
    · intro rise
      exact absurd rise (not_lt.mpr (held_le_prev admitted present lt))
    · intro level t at' _ fall
      by_contra above
      rw [not_le] at above
      have positive : level ≠ .none := toNat_pos.mpr (by omega)
      have held : hotHeldAt sensor.hotThresholds sensor.hotHysteresis value level = true := by
        rw [hotHeldAt, at', any_some, decide_eq_true_iff]
        exact above
      have := le_scan _ positive held
      omega
  · rw [step_of_le le]
    constructor
    · intro rise
      rcases scan_passes (hotAt sensor.hotThresholds value) with nothing | passes
      · rw [nothing] at rise
        exact absurd rise (not_lt_zero _)
      · obtain ⟨t, at', reached⟩ := any_elim passes
        exact ⟨t, at', of_decide_eq_true reached⟩
    · intro level t _ below fall
      omega

/-- With every configuration that is accepted, the hot severity is a Schmitt trigger over every
    sequence of readings. -/
theorem severity_schmitt_trigger (min : α) (hotThreshold hotHysteresis : List (Option α))
    (sensor : Sensor α) (prevCold : ThrottlingSeverity) (readings : List α)
    (accepted : parseHot min hotThreshold hotHysteresis =
      some (sensor.hotThresholds, sensor.hotHysteresis)) :
    Meets (step sensor) (Triggers sensor) (.none, prevCold) readings :=
  meets_of_inv (fun prev value _ => step_present sensor prev value)
    (fun _ _ present => triggers (admitted_of_parse accepted) present) readings _ (Or.inl rfl)

def fiveDegrees : List (Option ℚ) := List.replicate 7 (some 5)

def withHysteresis : Sensor ℚ :=
  ⟨valueOf twoLevels, fun _ => .none, fun level => (valueOf fiveDegrees level).getD 0, fun _ => 0⟩

theorem withHysteresis_accepted : parseHot floatMin twoLevels fiveDegrees =
    some (withHysteresis.hotThresholds, withHysteresis.hotHysteresis) := by
  have thresholds : parseHotThreshold floatMin twoLevels = some withHysteresis.hotThresholds :=
    twoLevels_accepted
  have hysteresis : parseHotHysteresis fiveDegrees = some withHysteresis.hotHysteresis := by
    rw [parseHotHysteresis, if_neg (by decide), if_neg (by decide), if_pos (by decide +kernel)]
    rfl
  have apart : overlapped withHysteresis.hotThresholds withHysteresis.hotHysteresis levels =
    false := by decide +kernel
  simp [parseHot, thresholds, hysteresis, apart]

/-- Up to both levels, a little down, which does not leave the upper one, and down to none. -/
theorem two_levels_trigger :
    parseHot floatMin twoLevels fiveDegrees =
      some (withHysteresis.hotThresholds, withHysteresis.hotHysteresis) ∧
    Meets (step withHysteresis) (Triggers withHysteresis) (.none, .none) [42, 55, 47, 42, 30] ∧
    [42, 55, 47, 42, 30].scanl (step withHysteresis) (.none, .none) =
      [.none, .light, .moderate, .moderate, .light, .none].map (·, .none) :=
  ⟨withHysteresis_accepted, severity_schmitt_trigger floatMin twoLevels fiveDegrees withHysteresis
    .none [42, 55, 47, 42, 30] withHysteresis_accepted, by decide +kernel⟩

end Severity
