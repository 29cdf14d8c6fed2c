import Mathlib

/- Counted `for` loops that step a variable up to a bound, and rules for them. -/
namespace CountedLoop
variable {State : Type}

def forUp (start stop step : Nat) (body : Nat → State → State) (s : State) : State :=
  (List.range ((stop - start + step - 1) / step)).foldl (fun s n => body (start + step * n) s) s

variable {start stop step n : Nat} {P : Nat → State → Prop} {body : Nat → State → State} {s : State}
  {Point : Type} {Known : (Point → Prop) → State → Prop} {before : Point → Prop}

theorem index_lt (positive : 0 < step) (inside : n < (stop - start + step - 1) / step) :
    start + step * n < stop := by
  have reach := (Nat.le_div_iff_mul_le positive).mp (Nat.succ_le_of_lt inside)
  rw [Nat.succ_mul, Nat.mul_comm] at reach
  omega

theorem turn_le (whole : step ∣ stop - start) (inside : start + step * n < stop) :
    start + step * n + step ≤ stop := by
  obtain ⟨count, distance⟩ := whole
  have small : step * n < step * count := by omega
  have next := Nat.mul_le_mul_left step (Nat.succ_le_of_lt (Nat.lt_of_mul_lt_mul_left small))
  rw [Nat.mul_succ] at next
  omega

theorem forUp_none {start stop step : Nat} (positive : 0 < step) (none : stop ≤ start)
    (body : Nat → State → State) (s : State) : forUp start stop step body s = s := by
  have turns : (stop - start + step - 1) / step = 0 := Nat.div_eq_of_lt (by omega)
  rw [forUp, turns]
  rfl

theorem forUp_inv {start stop step : Nat} (positive : 0 < step) (base : P 0 s)
    (next : ∀ n s, start + step * n < stop → P n s → P (n + 1) (body (start + step * n) s)) :
    P ((stop - start + step - 1) / step) (forUp start stop step body s) := by
  have turns : ∀ m, m ≤ (stop - start + step - 1) / step → P m
      ((List.range m).foldl (fun s n => body (start + step * n) s) s) := by
    intro m
    induction m with
    | zero => intro _; exact base
    | succ m ih =>
      intro inside
      rw [List.range_succ, List.foldl_append]
      exact next m _ (index_lt positive (by omega)) (ih (by omega))
  exact turns _ (Nat.le_refl _)

theorem forUp_one {start stop : Nat} (base : P 0 s)
    (next : ∀ n s, start + n < stop → P n s → P (n + 1) (body (start + n) s)) :
    P (stop - start) (forUp start stop 1 body s) := by
  have turn : ∀ n s, start + 1 * n < stop → P n s → P (n + 1) (body (start + 1 * n) s) := by
    simpa using next
  simpa using forUp_inv Nat.one_pos base turn

theorem forUp_collect {start stop step : Nat} (added : Nat → Point → Prop) (positive : 0 < step)
    (weaken : ∀ {A B : Point → Prop} {s}, (∀ p, B p → A p) → Known A s → Known B s)
    (base : Known before s)
    (turn : ∀ n A s, start + step * n < stop → Known A s → Known (fun p => A p ∨ added (start + step * n) p) (body (start + step * n) s)) :
    Known (fun p => before p ∨ ∃ n, start + step * n < stop ∧ added (start + step * n) p)
      (forUp start stop step body s) := by
  have first : Known (fun p => before p ∨ ∃ n < 0, added (start + step * n) p) s := by
    refine weaken ?_ base
    rintro p (old | ⟨n, none, _⟩)
    · exact old
    · exact absurd none (Nat.not_lt_zero n)
  have next : ∀ m s, start + step * m < stop →
      Known (fun p => before p ∨ ∃ n < m, added (start + step * n) p) s →
      Known (fun p => before p ∨ ∃ n < m + 1, added (start + step * n) p)
        (body (start + step * m) s) := by
    intro m s inside known
    refine weaken ?_ (turn m _ s inside known)
    rintro p (old | ⟨n, before, new⟩)
    · exact Or.inl (Or.inl old)
    · rcases Nat.lt_succ_iff_lt_or_eq.mp before with earlier | rfl
      · exact Or.inl (Or.inr ⟨n, earlier, new⟩)
      · exact Or.inr new
  have run := forUp_inv
    (P := fun m s => Known (fun p => before p ∨ ∃ n < m, added (start + step * n) p) s)
    positive first next
  refine weaken ?_ run
  rintro p (old | ⟨n, inside, new⟩)
  · exact Or.inl old
  · refine Or.inr ⟨n, ?_, new⟩
    have room : step * (n + 1) ≤ stop - start + step - 1 := by
      rw [Nat.mul_succ]
      omega
    rw [Nat.lt_iff_add_one_le, Nat.le_div_iff_mul_le positive, Nat.mul_comm]
    exact room

/-- Turns that each add the next `step` values of a coordinate add all values up to `stop`. -/
theorem forUp_interval {start stop step : Nat} (coordinate : Point → Nat) (within : Point → Prop)
    (positive : 0 < step)
    (weaken : ∀ {A B : Point → Prop} {s}, (∀ p, B p → A p) → Known A s → Known B s)
    (base : Known before s)
    (turn : ∀ n A s, start + step * n < stop → Known A s → Known (fun p => A p ∨ within p ∧ start + step * n ≤ coordinate p ∧ coordinate p < start + step * n + step) (body (start + step * n) s)) :
    Known (fun p => before p ∨ within p ∧ start ≤ coordinate p ∧ coordinate p < stop)
      (forUp start stop step body s) := by
  refine weaken ?_ (forUp_collect
    (fun i p => within p ∧ i ≤ coordinate p ∧ coordinate p < i + step) positive weaken base turn)
  intro p covered
  rcases covered with old | ⟨inside, low, high⟩
  · exact Or.inl old
  · have split := Nat.div_add_mod (coordinate p - start) step
    have small := Nat.mod_lt (coordinate p - start) positive
    exact Or.inr ⟨(coordinate p - start) / step, by omega, inside, by omega, by omega⟩

theorem forUp_turn {P : State → Prop} {start stop step : Nat} (positive : 0 < step) (n : Nat)
    (inside : start + step * n < stop) (here : ∀ s, P (body (start + step * n) s))
    (keeps : ∀ i s, P s → P (body i s)) : P (forUp start stop step body s) := by
  have reached : n < (stop - start + step - 1) / step := by
    have room : (n + 1) * step ≤ stop - start + step - 1 := by
      rw [Nat.succ_mul, Nat.mul_comm]
      omega
    exact Nat.lt_of_succ_le ((Nat.le_div_iff_mul_le positive).mpr room)
  have first : n < 0 → P s := fun none => absurd none (Nat.not_lt_zero n)
  have next : ∀ m s, start + step * m < stop → (n < m → P s) →
      (n < m + 1 → P (body (start + step * m) s)) := by
    intro m s _ known later
    rcases Nat.lt_succ_iff_lt_or_eq.mp later with earlier | rfl
    · exact keeps _ s (known earlier)
    · exact here s
  exact forUp_inv (P := fun m s => n < m → P s) positive first next reached

theorem forUp_keeps {P : State → Prop} {start stop step : Nat} (positive : 0 < step) (base : P s)
    (keeps : ∀ i s, P s → P (body i s)) : P (forUp start stop step body s) :=
  forUp_inv (P := fun _ s => P s) positive base fun _ s _ known => keeps _ s known

/-- Two nested loops through the rows of a grid: the state in front of each cell is known, and a
    row ends where the next one begins. -/
theorem forUp_grid {height width : Nat} {body : Nat → Nat → State → State}
    (state : Nat → Nat → State)
    (cell : ∀ j < height, ∀ i < width, body j i (state j i) = state j (i + 1))
    (wrap : ∀ j, state j width = state (j + 1) 0) :
    forUp 0 height 1 (fun j => forUp 0 width 1 (body j)) (state 0 0) = state height 0 := by
  have row : ∀ j < height, forUp 0 width 1 (body j) (state j 0) = state j width := by
    intro j inside
    refine forUp_one (P := fun i s => s = state j i) rfl ?_
    intro i s bound before
    rw [Nat.zero_add] at bound ⊢
    rw [before, cell j inside i bound]
  refine forUp_one (P := fun j s => s = state j 0) rfl ?_
  intro j s inside before
  rw [Nat.zero_add] at inside ⊢
  rw [before, row j inside, wrap]

end CountedLoop
