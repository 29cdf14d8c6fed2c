import Mathlib

/- Programs that only read a memory. A run gives a value and the places that were read; it depends
   on the memory at these places alone. Loops go over a list of positions that is known before
   they start, or along records each of which says how long it is. -/
namespace ReadPrograms
open List

inductive Prog (Place Word α : Type) where
  | ret (a : α)
  | read (place : Place) (next : Word → Prog Place Word α)

variable {Place Word α β ι σ : Type}

def Prog.bind : Prog Place Word α → (α → Prog Place Word β) → Prog Place Word β
  | .ret a, f => f a
  | .read place next, f => .read place fun word => (next word).bind f

instance : Monad (Prog Place Word) where
  pure := .ret
  bind := .bind

def fetch (place : Place) : Prog Place Word Word := .read place .ret

def Prog.val (m : Place → Word) : Prog Place Word α → α
  | .ret a => a
  | .read place next => (next (m place)).val m

def Prog.trace (m : Place → Word) : Prog Place Word α → List Place
  | .ret _ => []
  | .read place next => place :: (next (m place)).trace m

def Prog.Stays (m : Place → Word) (Inside : Place → Prop) (x : Prog Place Word α) : Prop :=
  ∀ place ∈ x.trace m, Inside place

section

variable (m : Place → Word) (Inside : Place → Prop)

@[simp] theorem val_pure (a : α) : (pure a : Prog Place Word α).val m = a := rfl

@[simp] theorem val_bind (x : Prog Place Word α) (f : α → Prog Place Word β) :
    (x >>= f).val m = (f (x.val m)).val m := by
  induction x with
  | ret a => rfl
  | read place next ih => exact ih (m place)

theorem trace_bind (x : Prog Place Word α) (f : α → Prog Place Word β) :
    (x >>= f).trace m = x.trace m ++ (f (x.val m)).trace m := by
  induction x with
  | ret a => rfl
  | read place next ih => exact congrArg (place :: ·) (ih (m place))

@[simp] theorem stays_pure (a : α) : (pure a : Prog Place Word α).Stays m Inside := by
  intro place none
  cases none

@[simp] theorem stays_fetch (place : Place) :
    (fetch place : Prog Place Word Word).Stays m Inside ↔ Inside place := by
  simp [Prog.Stays, fetch, Prog.trace]

@[simp] theorem stays_bind (x : Prog Place Word α) (f : α → Prog Place Word β) :
    (x >>= f).Stays m Inside ↔ x.Stays m Inside ∧ (f (x.val m)).Stays m Inside := by
  simp only [Prog.Stays, trace_bind, mem_append]
  constructor
  · intro all
    exact ⟨fun place member => all place (Or.inl member),
      fun place member => all place (Or.inr member)⟩
  · intro both place member
    rcases member with first | second
    · exact both.1 place first
    · exact both.2 place second

variable {x : Prog Place Word α} {f : α → Prog Place Word β}

theorem val_bind_of {a : α} (value : x.val m = a) : (x >>= f).val m = (f a).val m := by
  rw [val_bind, value]

theorem stays_bind_of {a : α} (value : x.val m = a) :
    (x >>= f).Stays m Inside ↔ x.Stays m Inside ∧ (f a).Stays m Inside := by
  rw [stays_bind, value]

@[simp] theorem val_ite {c : Prop} [Decidable c] (x y : Prog Place Word α) :
    (if c then x else y).val m = if c then x.val m else y.val m :=
  apply_ite (Prog.val m) c x y

@[simp] theorem stays_ite {c : Prop} [Decidable c] (x y : Prog Place Word α) :
    (if c then x else y).Stays m Inside ↔ if c then x.Stays m Inside else y.Stays m Inside := by
  split <;> rfl

def both (x y : Prog Place Word Bool) : Prog Place Word Bool :=
  x >>= fun first => if first then y else pure false

@[simp] theorem val_both (x y : Prog Place Word Bool) :
    (both x y).val m = (x.val m && y.val m) := by
  rw [both, val_bind]
  cases x.val m <;> rfl

@[simp] theorem stays_both (x y : Prog Place Word Bool) :
    (both x y).Stays m Inside ↔ x.Stays m Inside ∧ (x.val m = true → y.Stays m Inside) := by
  rw [both, stays_bind]
  cases x.val m <;> simp

def either (x y : Prog Place Word Bool) : Prog Place Word Bool :=
  x >>= fun first => if first then pure true else y

@[simp] theorem val_either (x y : Prog Place Word Bool) :
    (either x y).val m = (x.val m || y.val m) := by
  rw [either, val_bind]
  cases x.val m <;> rfl

@[simp] theorem stays_either (x y : Prog Place Word Bool) :
    (either x y).Stays m Inside ↔ x.Stays m Inside ∧ (x.val m = false → y.Stays m Inside) := by
  rw [either, stays_bind]
  cases x.val m <;> simp

end

section

variable (m : Place → Word) (Inside : Place → Prop)

def reached (stops : ι → Bool) : List ι → List ι
  | [] => []
  | i :: rest => if stops i then [i] else i :: reached stops rest

variable {stops : ι → Bool} {i : ι} {list : List ι} {body : ι → σ → Prog Place Word σ}

theorem mem_of_reached (member : i ∈ reached stops list) : i ∈ list := by
  induction list with
  | nil => exact member
  | cons first rest ih =>
    rw [reached] at member
    split at member
    · rw [mem_singleton.mp member]
      exact mem_cons_self
    · rcases mem_cons.mp member with rfl | later
      · exact mem_cons_self
      · exact mem_cons_of_mem _ (ih later)

theorem reached_of_append {before after : List ι} (quiet : ∀ j ∈ before, stops j = false) :
    i ∈ reached stops (before ++ i :: after) := by
  induction before with
  | nil =>
    rw [nil_append, reached]
    split <;> exact mem_cons_self
  | cons first before ih =>
    rw [cons_append, reached, quiet first mem_cons_self]
    exact mem_cons_of_mem _ (ih fun j member => quiet j (mem_cons_of_mem _ member))

theorem reached_eq_self (quiet : ∀ i ∈ list, stops i = false) : reached stops list = list := by
  induction list with
  | nil => rfl
  | cons first rest ih =>
    rw [reached, quiet first mem_cons_self, if_neg Bool.false_ne_true,
      ih fun i member => quiet i (mem_cons_of_mem _ member)]

theorem find_iff_reached (list : List ι) :
    list.find? stops = some i ↔ i ∈ reached stops list ∧ stops i = true := by
  induction list with
  | nil => simp [reached]
  | cons first rest ih =>
    rw [reached]
    cases stop : stops first with
    | true =>
      rw [find?_cons_of_pos stop, if_pos rfl, mem_singleton, Option.some.injEq]
      constructor
      · rintro rfl
        exact ⟨rfl, stop⟩
      · intro here
        exact here.1.symm
    | false =>
      rw [find?_cons_of_neg (Bool.eq_false_iff.mp stop), ih, if_neg Bool.false_ne_true, mem_cons]
      constructor
      · intro later
        exact ⟨.inr later.1, later.2⟩
      · rintro ⟨rfl | later, stops_here⟩
        · rw [stop] at stops_here
          cases stops_here
        · exact ⟨later, stops_here⟩

def each (body : ι → Prog Place Word (Option β)) : List ι → Prog Place Word (Option β)
  | [] => pure none
  | i :: rest => body i >>= fun found => match found with
    | some b => pure (some b)
    | none => each body rest

@[simp] theorem val_each (body : ι → Prog Place Word (Option β)) (list : List ι) :
    (each body list).val m = list.findSome? fun i => (body i).val m := by
  induction list with
  | nil => rfl
  | cons i rest ih =>
    rw [each, val_bind, findSome?_cons]
    cases (body i).val m with
    | some b => rfl
    | none => exact ih

@[simp] theorem stays_each (body : ι → Prog Place Word (Option β)) (list : List ι) :
    (each body list).Stays m Inside ↔
      ∀ i ∈ reached (fun i => ((body i).val m).isSome) list, (body i).Stays m Inside := by
  induction list with
  | nil => simp [each, reached]
  | cons first rest ih =>
    rw [each, reached, stays_bind]
    cases (body first).val m with
    | some b => simp
    | none => simp [ih]

def anyOf (body : ι → Prog Place Word Bool) : List ι → Prog Place Word Bool
  | [] => pure false
  | i :: rest => either (body i) (anyOf body rest)

@[simp] theorem val_anyOf (body : ι → Prog Place Word Bool) (list : List ι) :
    (anyOf body list).val m = list.any fun i => (body i).val m := by
  induction list with
  | nil => rfl
  | cons i rest ih => rw [anyOf, val_either, ih, any_cons]

@[simp] theorem stays_anyOf (body : ι → Prog Place Word Bool) (list : List ι) :
    (anyOf body list).Stays m Inside ↔
      ∀ i ∈ reached (fun i => (body i).val m) list, (body i).Stays m Inside := by
  induction list with
  | nil => simp [anyOf, reached]
  | cons first rest ih =>
    rw [anyOf, reached, stays_either]
    cases (body first).val m with
    | true => simp
    | false => simp [ih]

def fold (body : ι → σ → Prog Place Word σ) : List ι → σ → Prog Place Word σ
  | [], s => pure s
  | i :: rest, s => body i s >>= fold body rest

theorem fold_keeps {P : σ → Prop} (keeps : ∀ i s, P s → P ((body i s).val m)) :
    ∀ s, P s → P ((fold body list s).val m) := by
  induction list with
  | nil => intro s start; exact start
  | cons i rest ih =>
    intro s start
    rw [fold, val_bind]
    exact ih _ (keeps i s start)

theorem stays_fold (inside : ∀ i ∈ list, ∀ s, (body i s).Stays m Inside) :
    ∀ s, (fold body list s).Stays m Inside := by
  induction list with
  | nil => intro s; exact stays_pure m Inside s
  | cons i rest ih =>
    intro s
    rw [fold, stays_bind]
    exact ⟨inside i mem_cons_self s, ih (fun j member => inside j (mem_cons_of_mem _ member)) _⟩

end

section

variable (m : Place → Word) (Inside : Place → Prop)

def chain (length : Nat → Nat) : Nat → Nat → Nat → List Nat
  | 0, _, _ => []
  | budget + 1, p, stop => if p < stop then p :: chain length budget (p + length p + 1) stop else []

def chase (length : Nat → Prog Place Word Nat) (body : Nat → Prog Place Word (Option β)) :
    Nat → Nat → Nat → Prog Place Word (Option β)
  | 0, _, _ => pure none
  | budget + 1, p, stop =>
    if p < stop then length p >>= fun n => body p >>= fun found => match found with
      | some b => pure (some b)
      | none => chase length body budget (p + n + 1) stop
    else pure none

section

variable (length : Nat → Prog Place Word Nat) (body : Nat → Prog Place Word (Option β))

theorem chase_eq_each (budget : Nat) :
    ∀ p stop,
      (chase length body budget p stop).val m = (each (fun p => length p >>= fun _ => body p)
        (chain (fun p => (length p).val m) budget p stop)).val m ∧
      (chase length body budget p stop).trace m = (each (fun p => length p >>= fun _ => body p)
        (chain (fun p => (length p).val m) budget p stop)).trace m := by
  induction budget with
  | zero => intro p stop; exact ⟨rfl, rfl⟩
  | succ budget ih =>
    intro p stop
    rw [chase, chain]
    split
    · rw [each, val_bind, val_bind, val_bind, val_bind, trace_bind, trace_bind, trace_bind,
        trace_bind, val_bind, append_assoc]
      cases (body p).val m with
      | some b => exact ⟨rfl, rfl⟩
      | none =>
        obtain ⟨val, trace⟩ := ih (p + (length p).val m + 1) stop
        exact ⟨val, by rw [trace]⟩
    · exact ⟨rfl, rfl⟩

theorem val_chase (budget p stop : Nat) : (chase length body budget p stop).val m =
      (chain (fun p => (length p).val m) budget p stop).findSome? fun p => (body p).val m := by
  rw [(chase_eq_each m length body budget p stop).1, val_each]
  simp only [val_bind]

theorem stays_chase (budget p stop : Nat) : (chase length body budget p stop).Stays m Inside ↔
      ∀ q ∈ reached (fun q => ((body q).val m).isSome)
          (chain (fun p => (length p).val m) budget p stop),
        (length q).Stays m Inside ∧ (body q).Stays m Inside := by
  have same := stays_each m Inside (fun p => length p >>= fun _ => body p)
    (chain (fun p => (length p).val m) budget p stop)
  simp only [val_bind, stays_bind] at same
  rw [← same, Prog.Stays, (chase_eq_each m length body budget p stop).2]
  rfl

end

def chaseFold (length : Nat → Prog Place Word Nat) (body : Nat → σ → Prog Place Word σ) :
    Nat → Nat → Nat → σ → Prog Place Word σ
  | 0, _, _, s => pure s
  | budget + 1, p, stop, s =>
    if p < stop then length p >>= fun n => body p s >>= fun s =>
      chaseFold length body budget (p + n + 1) stop s
    else pure s

variable {length : Nat → Prog Place Word Nat} {body : Nat → σ → Prog Place Word σ} {stop : Nat}

theorem chaseFold_keeps {P : σ → Prop} (keeps : ∀ p s, P s → P ((body p s).val m)) (budget : Nat) :
    ∀ p s, P s → P ((chaseFold length body budget p stop s).val m) := by
  induction budget with
  | zero => intro p s start; exact start
  | succ budget ih =>
    intro p s start
    rw [chaseFold]
    split
    · rw [val_bind, val_bind]
      exact ih _ _ (keeps p s start)
    · exact start

theorem stays_chaseFold (budget : Nat) :
    ∀ p s, (∀ q ∈ chain (fun p => (length p).val m) budget p stop,
        (length q).Stays m Inside ∧ ∀ s, (body q s).Stays m Inside) →
      (chaseFold length body budget p stop s).Stays m Inside := by
  induction budget with
  | zero => intro p s _; exact stays_pure m Inside s
  | succ budget ih =>
    intro p s inside
    rw [chain] at inside
    rw [chaseFold]
    split
    · rename_i before
      rw [if_pos before] at inside
      have here := inside p mem_cons_self
      rw [stays_bind, stays_bind]
      exact ⟨here.1, here.2 s, ih _ _ fun q member => inside q (mem_cons_of_mem _ member)⟩
    · exact stays_pure m Inside s

end

/-- A loop whose body may answer or say where to go on. `none` when there were not enough
    turns. -/
def iterate (body : σ → Prog Place Word (β ⊕ σ)) : Nat → σ → Prog Place Word (Option β)
  | 0, _ => pure none
  | turns + 1, s => body s >>= fun turn => match turn with
    | .inl b => pure (some b)
    | .inr s => iterate body turns s

end ReadPrograms
