import Mathlib

/- Runs of a machine whose steps may be disabled. A condition on single steps restricts the
   runs; what such a step preserves holds in every state that a restricted run reaches. -/
namespace StepRuns
open Option

variable {State Event : Type} (step : State → Event → Option State)

def run : State → List Event → Option State
  | s, [] => some s
  | s, e :: es => (step s e).bind fun s' => run s' es

/-- Every step of the run is enabled and meets the condition in the state it is taken from. -/
inductive RunsTo (Ok : State → Event → Prop) : State → List Event → State → Prop where
  | done (s : State) : RunsTo Ok s [] s
  | next {s s' t : State} {e : Event} {es : List Event} (ok : Ok s e) (taken : step s e = some s')
      (rest : RunsTo Ok s' es t) : RunsTo Ok s (e :: es) t

variable {step} {Ok : State → Event → Prop} {Inv : State → Prop} {s t : State}
  {events : List Event}

theorem RunsTo.preserves (runs : RunsTo step Ok s events t) (start : Inv s)
    (keep : ∀ s e s', Ok s e → Inv s → step s e = some s' → Inv s') : Inv t := by
  induction runs with
  | done s => exact start
  | next ok taken _ ih => exact ih (keep _ _ _ ok start taken)

theorem RunsTo.exists_and {P Q : State → Prop} (all : ∀ t, RunsTo step Ok s events t → P t)
    (shown : ∃ t, RunsTo step Ok s events t ∧ Q t) :
    ∃ t, RunsTo step Ok s events t ∧ P t ∧ Q t := by
  obtain ⟨t, runs, holds⟩ := shown
  exact ⟨t, runs, all t runs, holds⟩

def runWithin (step : State → Event → Option State) (Ok : State → Event → Prop)
    [∀ s e, Decidable (Ok s e)] : State → List Event → Option State
  | s, [] => some s
  | s, e :: es => if Ok s e then (step s e).bind fun s' => runWithin step Ok s' es else none

theorem RunsTo.of_runWithin [∀ s e, Decidable (Ok s e)] (events : List Event) :
    ∀ s, runWithin step Ok s events = some t → RunsTo step Ok s events t := by
  induction events with
  | nil =>
    intro s ends
    cases ends
    exact .done t
  | cons e es ih =>
    intro s ends
    rw [runWithin] at ends
    by_cases ok : Ok s e
    · rw [if_pos ok] at ends
      obtain ⟨s', taken, rest⟩ := bind_eq_some_iff.mp ends
      exact .next ok taken (ih s' rest)
    · rw [if_neg ok] at ends
      cases ends

theorem run_total (keep : ∀ s e, Inv s → ∃ s', step s e = some s' ∧ Inv s')
    (events : List Event) : ∀ s, Inv s → ∃ t, run step s events = some t ∧ Inv t := by
  induction events with
  | nil =>
    intro s start
    exact ⟨s, rfl, start⟩
  | cons e es ih =>
    intro s start
    obtain ⟨s', taken, start'⟩ := keep s e start
    obtain ⟨t, runs, done⟩ := ih s' start'
    refine ⟨t, ?_, done⟩
    rw [run, taken, bind_some, runs]

theorem run_preserves (events : List Event)
    (keep : ∀ s, ∀ e ∈ events, ∀ s', Inv s → step s e = some s' → Inv s') :
    ∀ s t, Inv s → run step s events = some t → Inv t := by
  induction events with
  | nil =>
    intro s t start ends
    cases ends
    exact start
  | cons e es ih =>
    intro s t start ends
    obtain ⟨s', taken, rest⟩ := bind_eq_some_iff.mp ends
    have first := keep s e List.mem_cons_self s' start taken
    exact ih (fun s e later => keep s e (List.mem_cons_of_mem _ later)) s' t first rest

def AllSteps (step : State → Event → Option State) (P : State → Event → State → Prop) :
    State → List Event → Prop
  | _, [] => True
  | s, e :: es => match step s e with
    | none => True
    | some s' => P s e s' ∧ AllSteps step P s' es

/-- Every event meets the condition in the state it comes in, up to the first that is disabled. -/
def Admits (step : State → Event → Option State) (Ok : State → Event → Prop) :
    State → List Event → Prop
  | _, [] => True
  | s, e :: es => Ok s e ∧ ∀ s', step s e = some s' → Admits step Ok s' es

/-- Where the invariant enables every step that meets the condition, such a run does not stop. The
    invariant may speak of what was watched of the events so far. -/
theorem run_watched {Past : Type} {watch : Past → Event → Past} {Inv : Past → State → Prop}
    (keep : ∀ w s e, Inv w s → Ok s e → ∃ s', step s e = some s' ∧ Inv (watch w e) s')
    (events : List Event) : ∀ w s, Inv w s → Admits step Ok s events →
      ∃ t, run step s events = some t ∧ Inv (events.foldl watch w) t := by
  induction events with
  | nil =>
    intro w s start _
    exact ⟨s, rfl, start⟩
  | cons e es ih =>
    intro w s start admits
    obtain ⟨s', taken, start'⟩ := keep w s e start admits.1
    obtain ⟨t, runs, done⟩ := ih _ s' start' (admits.2 s' taken)
    exact ⟨t, by simp [run, taken, runs], done⟩

/-- Where the invariant holds, two relations that agree on single steps agree on runs. -/
theorem allSteps_iff {P Q : State → Event → State → Prop}
    (keep : ∀ s e s', Inv s → step s e = some s' → Inv s')
    (same : ∀ s e s', Inv s → step s e = some s' → (P s e s' ↔ Q s e s'))
    (events : List Event) :
    ∀ s, Inv s → (AllSteps step P s events ↔ AllSteps step Q s events) := by
  induction events with
  | nil =>
    intro s _
    exact Iff.rfl
  | cons e es ih =>
    intro s start
    unfold AllSteps
    cases taken : step s e with
    | none => exact Iff.rfl
    | some s' => exact and_congr (same s e s' start taken) (ih s' (keep s e s' start taken))

variable {P : State → Event → State → Prop}

theorem allSteps_of_inv (keep : ∀ s e s', Inv s → step s e = some s' → Inv s' ∧ P s e s')
    (events : List Event) : ∀ s, Inv s → AllSteps step P s events := by
  induction events with
  | nil =>
    intro s _
    trivial
  | cons e es ih =>
    intro s start
    unfold AllSteps
    cases taken : step s e with
    | none => trivial
    | some s' =>
      obtain ⟨start', holds⟩ := keep s e s' start taken
      exact ⟨holds, ih s' start'⟩

theorem run_append (front back : List Event) :
    ∀ s, run step s (front ++ back) = (run step s front).bind fun t => run step t back := by
  induction front with
  | nil => intro s; rfl
  | cons e es ih =>
    intro s
    rw [List.cons_append, run, run, bind_assoc]
    exact congrArg _ (funext ih)

theorem AllSteps.rest {back : List Event} (front : List Event) :
    ∀ s, AllSteps step P s (front ++ back) → run step s front = some t →
      AllSteps step P t back := by
  induction front with
  | nil =>
    intro s all ends
    cases ends
    exact all
  | cons e es ih =>
    intro s all ends
    obtain ⟨s', taken, rest⟩ := bind_eq_some_iff.mp ends
    rw [List.cons_append, AllSteps, taken] at all
    exact ih s' all.2 rest

section

/- Machines whose steps are always enabled: a run is a list of events. -/
variable {State Event : Type} (step : State → Event → State)

def Visits (P : State → Prop) : State → List Event → Prop
  | s, [] => P s
  | s, e :: es => P s ∧ Visits P (step s e) es

def Meets (Ok : State → Event → Prop) : State → List Event → Prop
  | _, [] => True
  | s, e :: es => Ok s e ∧ Meets Ok (step s e) es

instance decidableMeets (Ok : State → Event → Prop) [∀ s e, Decidable (Ok s e)] :
    ∀ s events, Decidable (Meets step Ok s events)
  | _, [] => isTrue trivial
  | s, e :: es => @instDecidableAnd _ _ _ (decidableMeets Ok (step s e) es)

variable {step} {P Inv : State → Prop} {Ok : State → Event → Prop}

theorem Visits.start {s : State} {events : List Event} (visits : Visits step P s events) : P s := by
  cases events with
  | nil => exact visits
  | cons e es => exact visits.1

theorem visits_of_meets (holds : ∀ s, Inv s → P s)
    (keep : ∀ s e, Inv s → Ok s e → Inv (step s e)) (events : List Event) :
    ∀ s, Inv s → Meets step Ok s events → Visits step P s events := by
  induction events with
  | nil => intro s start _; exact holds s start
  | cons e es ih =>
    intro s start meets
    exact ⟨holds s start, ih _ (keep s e start meets.1) meets.2⟩

theorem meets_of_visits (holds : ∀ s e, P s → Ok s e) (events : List Event) :
    ∀ s, Visits step P s events → Meets step Ok s events := by
  induction events with
  | nil => intro s _; trivial
  | cons e es ih => intro s visits; exact ⟨holds s e visits.1, ih _ visits.2⟩

theorem meets_of_forall (events : List Event) (all : ∀ e ∈ events, ∀ s, Ok s e) :
    ∀ s, Meets step Ok s events := by
  induction events with
  | nil => intro s; trivial
  | cons e es ih =>
    intro s
    exact ⟨all e List.mem_cons_self s, ih (fun later member => all later (.tail _ member)) _⟩

/-- When every step that fails the condition breaks `P` at once, the condition is exact, among the runs
    that meet a further condition. -/
theorem visits_iff_meets_within {Within : State → Event → Prop} (holds : ∀ s, Inv s → P s)
    (keep : ∀ s e, Inv s → Within s e → Ok s e → Inv (step s e))
    (fails : ∀ s e, Inv s → Within s e → ¬ Ok s e → ¬ P (step s e)) (events : List Event) :
    ∀ s, Inv s → Meets step Within s events →
      (Visits step P s events ↔ Meets step Ok s events) := by
  induction events with
  | nil =>
    intro s start _
    exact ⟨fun _ => trivial, fun _ => holds s start⟩
  | cons e es ih =>
    intro s start within
    by_cases ok : Ok s e
    · have rest := ih _ (keep s e start within.1 ok) within.2
      exact ⟨fun visits => ⟨ok, rest.mp visits.2⟩, fun meets => ⟨holds s start, rest.mpr meets.2⟩⟩
    · refine ⟨fun visits => ?_, fun meets => absurd meets.1 ok⟩
      exact absurd visits.2.start (fails s e start within.1 ok)

theorem visits_iff_meets (holds : ∀ s, Inv s → P s)
    (keep : ∀ s e, Inv s → Ok s e → Inv (step s e))
    (fails : ∀ s e, Inv s → ¬ Ok s e → ¬ P (step s e)) (events : List Event) :
    ∀ s, Inv s → (Visits step P s events ↔ Meets step Ok s events) := by
  intro s start
  have every : Meets step (fun _ _ => True) s events :=
    meets_of_forall events (fun _ _ _ => trivial) s
  exact visits_iff_meets_within holds (fun s e start _ => keep s e start)
    (fun s e start _ => fails s e start) events s start every

variable {Ok' : State → Event → Prop}

theorem meets_congr (same : ∀ s e, Ok s e ↔ Ok' s e) (events : List Event) :
    ∀ s, Meets step Ok s events ↔ Meets step Ok' s events := by
  induction events with
  | nil => intro s; exact Iff.rfl
  | cons e es ih => intro s; exact and_congr (same s e) (ih _)

/-- Conditions that the invariant makes the same agree on runs that keep the invariant. -/
theorem meets_iff_of_inv {Within Ok' : State → Event → Prop}
    (keep : ∀ s e, Inv s → Within s e → Inv (step s e))
    (same : ∀ s e, Inv s → (Ok s e ↔ Ok' s e)) (events : List Event) :
    ∀ s, Inv s → Meets step Within s events →
      (Meets step Ok s events ↔ Meets step Ok' s events) := by
  induction events with
  | nil => intro s _ _; exact Iff.rfl
  | cons e es ih =>
    intro s start within
    exact and_congr (same s e start) (ih _ (keep s e start within.1) within.2)

theorem meets_of_meets (keep : ∀ s e, Inv s → Ok s e → Inv (step s e))
    (holds : ∀ s e, Inv s → Ok s e → Ok' s e) (events : List Event) :
    ∀ s, Inv s → Meets step Ok s events → Meets step Ok' s events := by
  induction events with
  | nil => intro s _ _; trivial
  | cons e es ih =>
    intro s start meets
    exact ⟨holds s e start meets.1, ih _ (keep s e start meets.1) meets.2⟩

theorem meets_of_inv (keep : ∀ s e, Inv s → Inv (step s e)) (holds : ∀ s e, Inv s → Ok s e)
    (events : List Event) : ∀ s, Inv s → Meets step Ok s events := by
  induction events with
  | nil => intro s _; trivial
  | cons e es ih => intro s start; exact ⟨holds s e start, ih _ (keep s e start)⟩

end

/- A machine whose steps may be disabled, next to what is known of its past events. -/
variable {State Event Past : Type} {step : State → Event → Option State}
  {watch : Past → Event → Past} {Broken : State → Prop}
  {Ok : Past → Event → Prop}

/-- Where a step outside the condition breaks the state for good, a run ends well exactly when all
    its steps meet the condition and so does its end. -/
theorem run_good_iff (Clean : Past → State → Prop) (Good : State → Prop) (Done : Past → Prop)
    (keep : ∀ w s e, Clean w s → Ok w e → ∃ s', step s e = some s' ∧ Clean (watch w e) s')
    (breaks : ∀ w s e s', Clean w s → ¬ Ok w e → step s e = some s' → Broken s')
    (stays : ∀ s e s', Broken s → step s e = some s' → Broken s')
    (bad : ∀ s, Broken s → ¬ Good s) (ends : ∀ w s, Clean w s → (Good s ↔ Done w))
    (events : List Event) : ∀ w s, Clean w s →
      ((∃ t, run step s events = some t ∧ Good t) ↔
        Meets watch Ok w events ∧ Done (events.foldl watch w)) := by
  induction events with
  | nil =>
    intro w s clean
    constructor
    · rintro ⟨t, stop, good⟩
      cases stop
      exact ⟨trivial, (ends w s clean).mp good⟩
    · rintro ⟨_, done⟩
      exact ⟨s, rfl, (ends w s clean).mpr done⟩
  | cons e es ih =>
    intro w s clean
    by_cases ok : Ok w e
    · obtain ⟨s', taken, clean'⟩ := keep w s e clean ok
      rw [run, taken, bind_some, ih (watch w e) s' clean', Meets, List.foldl_cons, and_assoc]
      exact (and_iff_right ok).symm
    · constructor
      · rintro ⟨t, runs, good⟩
        obtain ⟨s', taken, rest⟩ := bind_eq_some_iff.mp runs
        have broken := run_preserves es (fun s e _ s' => stays s e s') s' t
          (breaks w s e s' clean ok taken) rest
        exact absurd good (bad t broken)
      · intro meets
        exact absurd meets.1.1 ok

end StepRuns
