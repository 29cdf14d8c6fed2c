import Mathlib

/- Sums of weights over a list whose entries have distinct names. The weight of one entry can be
   replaced by another one while the entry itself still stands in the list. -/
namespace NamedSums
open List

variable {Entry Name : Type}

def total (weight : Entry → Int) (l : List Entry) : Int := (l.map weight).sum

@[simp]
theorem total_nil (weight : Entry → Int) : total weight [] = 0 := rfl

@[simp]
theorem total_cons (weight : Entry → Int) (e : Entry) (l : List Entry) :
    total weight (e :: l) = weight e + total weight l := by
  simp [total]

@[simp]
theorem total_append (weight : Entry → Int) (l l' : List Entry) :
    total weight (l ++ l') = total weight l + total weight l' := by
  simp [total]

theorem total_congr {weight weight' : Entry → Int} {l : List Entry}
    (same : ∀ e ∈ l, weight e = weight' e) : total weight l = total weight' l :=
  congrArg List.sum (map_congr_left same)

theorem total_nonneg {weight : Entry → Int} (nonneg : ∀ e, 0 ≤ weight e) (l : List Entry) :
    0 ≤ total weight l := by
  induction l with
  | nil => exact Int.le_refl 0
  | cons e l ih =>
    have here := nonneg e
    rw [total_cons]
    omega

variable {i : Nat} {e : Entry} {f : Entry → Entry} {s : Int}

theorem total_eraseIdx {weight : Entry → Int} {l : List Entry} (here : l[i]? = some e) :
    total weight (l.eraseIdx i) = total weight l - weight e := by
  induction l generalizing i with
  | nil => cases here
  | cons first l ih =>
    cases i with
    | zero =>
      cases here
      rw [eraseIdx_zero, tail_cons, total_cons]
      omega
    | succ i =>
      rw [eraseIdx_cons_succ, total_cons, ih here, total_cons]
      omega

theorem total_modify_same {weight : Entry → Int} (same : ∀ e, weight (f e) = weight e)
    (l : List Entry) : ∀ i, total weight (l.modify i f) = total weight l := by
  induction l with
  | nil =>
    intro i
    rw [modify_nil]
  | cons e l ih =>
    intro i
    cases i with
    | zero => rw [modify_zero_cons, total_cons, total_cons, same e]
    | succ i => rw [modify_succ_cons, total_cons, total_cons, ih i]

theorem le_total {weight : Entry → Int} (nonneg : ∀ e, 0 ≤ weight e) {l : List Entry}
    (here : l[i]? = some e) : weight e ≤ total weight l := by
  have rest := total_nonneg nonneg (l.eraseIdx i)
  rw [total_eraseIdx here] at rest
  omega

variable [DecidableEq Name] (name : Entry → Name)

def instead (n : Name) (s : Int) (weight : Entry → Int) (e : Entry) : Int :=
  if name e = n then s else weight e

variable {name} {n : Name} {weight : Entry → Int} {l : List Entry}

theorem instead_other (other : name e ≠ n) : instead name n s weight e = weight e := if_neg other

theorem instead_nonneg (some : 0 ≤ s) (nonneg : ∀ e, 0 ≤ weight e) (e : Entry) :
    0 ≤ instead name n s weight e := by
  unfold instead
  split
  · exact some
  · exact nonneg e

theorem total_absent (absent : n ∉ l.map name) :
    total (instead name n s weight) l = total weight l := by
  refine total_congr fun e member => instead_other ?_
  intro same
  exact absent (mem_map.mpr ⟨e, member, same⟩)

omit [DecidableEq Name] in
theorem names_cons (distinct : ((e :: l).map name).Nodup) :
    name e ∉ l.map name ∧ (l.map name).Nodup := by
  rw [map_cons, nodup_cons] at distinct
  exact distinct

theorem total_instead_add (distinct : (l.map name).Nodup) (present : n ∈ l.map name) (s t : Int) :
    total (instead name n (s + t) weight) l = total (instead name n s weight) l + t := by
  induction l with
  | nil => cases present
  | cons e l ih =>
    obtain ⟨fresh, rest⟩ := names_cons distinct
    rw [total_cons, total_cons]
    by_cases here : name e = n
    · rw [here] at fresh
      rw [total_absent fresh, total_absent fresh, instead, instead, if_pos here, if_pos here]
      omega
    · have later : n ∈ l.map name := by
        rw [map_cons, mem_cons] at present
        exact present.resolve_left fun same => here same.symm
      rw [ih rest later, instead_other here, instead_other here]
      omega

theorem total_modify (distinct : (l.map name).Nodup) (here : l[i]? = some e) :
    total weight (l.modify i f) = total (instead name (name e) (weight (f e)) weight) l := by
  induction l generalizing i with
  | nil => cases here
  | cons first l ih =>
    obtain ⟨fresh, rest⟩ := names_cons distinct
    cases i with
    | zero =>
      cases here
      rw [modify_zero_cons, total_cons, total_cons, total_absent fresh, instead, if_pos rfl]
    | succ i =>
      have later : name e ∈ l.map name := mem_map.mpr ⟨e, mem_of_getElem? here, rfl⟩
      have other : name first ≠ name e := fun same => fresh (same ▸ later)
      rw [modify_succ_cons, total_cons, total_cons, ih rest here, instead_other other]

theorem total_instead_self (distinct : (l.map name).Nodup) (here : l[i]? = some e) :
    total (instead name (name e) (weight e) weight) l = total weight l := by
  have unchanged : total weight (l.modify i id) = _ := total_modify distinct here
  rw [modify_id] at unchanged
  exact unchanged.symm

end NamedSums
