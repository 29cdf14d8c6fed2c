import SamsungHardware.Library.CutMarks

/- Marks that are the occurrences of one pattern: a frame begins with an occurrence, and ends in
   front of the next one. The pattern is a row of tests on single elements, and two of its
   occurrences never overlap. -/
namespace PatternMarks
open CutMarks List

structure Pattern (α : Type) where
  tests : List (α → Bool)
  long : 1 < tests.length
  apart : ∀ d, 0 < d → d < tests.length → ∃ i left right,
    tests[i]? = some left ∧ tests[i + d]? = some right ∧ ∀ x, ¬ (left x = true ∧ right x = true)

variable {α : Type} (pattern : Pattern α)

def Pattern.size : Nat := pattern.tests.length

def Pattern.At (s : List α) (p : Nat) : Prop :=
  ∀ i test, pattern.tests[i]? = some test → ∃ x, s[p + i]? = some x ∧ test x = true

variable {pattern} {s rest held : List α} {p q : Nat}

theorem Pattern.At.inside (here : pattern.At s p) : p + pattern.size ≤ s.length := by
  have long := pattern.long
  have last : pattern.tests[pattern.size - 1]? = some _ :=
    List.getElem?_eq_getElem (Nat.sub_lt (Nat.lt_of_succ_lt long) Nat.one_pos)
  obtain ⟨x, read, -⟩ := here _ _ last
  obtain ⟨within, -⟩ := List.getElem?_eq_some_iff.mp read
  rw [Pattern.size] at within ⊢
  omega

theorem Pattern.At.apart (left : pattern.At s q) (right : pattern.At s p) (before : q < p) :
    q + pattern.size ≤ p := by
  by_contra near
  obtain ⟨i, first, second, atFirst, atSecond, disjoint⟩ :=
    pattern.apart (p - q) (by omega) (by rw [Pattern.size] at near; omega)
  obtain ⟨x, readX, holdsX⟩ := left _ _ atSecond
  obtain ⟨y, readY, holdsY⟩ := right _ _ atFirst
  have index : q + (i + (p - q)) = p + i := by omega
  rw [index, readY, Option.some_inj] at readX
  rw [← readX] at holdsX
  exact disjoint y ⟨holdsY, holdsX⟩

theorem at_drop : pattern.At (held ++ s) (held.length + p) ↔ pattern.At s p := by
  have read (i : Nat) : (held ++ s)[held.length + p + i]? = s[p + i]? := by
    rw [Nat.add_assoc, getElem?_append_right (Nat.le_add_right _ _), Nat.add_sub_cancel_left]
  simp only [Pattern.At, read]

theorem at_take (inside : p + pattern.size ≤ s.length) :
    pattern.At (s ++ rest) p ↔ pattern.At s p := by
  have read (i : Nat) (test : α → Bool) (inPattern : pattern.tests[i]? = some test) :
      (s ++ rest)[p + i]? = s[p + i]? := by
    obtain ⟨within, -⟩ := List.getElem?_eq_some_iff.mp inPattern
    rw [Pattern.size] at inside
    exact List.getElem?_append_left (by omega)
  constructor
  · intro here i test inPattern
    rw [← read i test inPattern]
    exact here i test inPattern
  · intro here i test inPattern
    rw [read i test inPattern]
    exact here i test inPattern

def Pattern.marks (pattern : Pattern α) : Marks α where
  Boundary s p e := pattern.At s p ∧ e = p + pattern.size
  Starts := pattern.At
  lead _ _ := false
  nonempty := by
    intro s p e boundary
    have long := pattern.long
    rw [boundary.2, Pattern.size]
    omega
  inside := by
    intro s p e boundary
    rw [boundary.2]
    exact boundary.1.inside
  unique left right := left.2.trans right.2.symm
  apart := by
    intro s p e e' left right
    have long := pattern.long
    have apart := left.1.apart right.1 (Nat.lt_succ_self p)
    rw [Pattern.size] at apart
    omega
  boundary_drop := by
    intro held s p e
    rw [at_drop, Nat.add_assoc, Nat.add_left_cancel_iff]
  boundary_take := by
    intro s rest p e inside
    apply and_congr_left
    intro ends
    rw [ends] at inside
    exact at_take inside
  starts_append rest here := (at_take here.inside).mpr here
  starts_take := by
    intro s rest p e q boundary before here
    have inside := boundary.1.inside
    exact (at_take (by omega)).mp here
  starts_apart := by
    intro s p e q boundary before here
    have long := pattern.long
    have apart := here.apart boundary.1 before
    rw [Pattern.size] at apart
    omega
  lead_drop _ := rfl
  lead_take _ := rfl

theorem marks_start (s : List α) (p : Nat) : pattern.marks.start s p = p := by
  simp [Marks.start, Pattern.marks]

def Pattern.Searches (pattern : Pattern α) (search : List α → Option Nat) : Prop :=
  ∀ s, (∃ p, pattern.At s p ∧ (∀ p', pattern.At s p' → p ≤ p') ∧
      search s = some (p + pattern.size)) ∨
    ((∀ p, ¬ pattern.At s p) ∧ search s = none)

def Pattern.frameEnd (pattern : Pattern α) (search : List α → Option Nat) (s : List α)
    (fresh : Bool) : Option Nat :=
  if fresh then
    (search s).bind fun n => (search (s.drop n)).map fun n' => n + n' - pattern.size
  else (search s).map fun n => n - pattern.size

theorem at_of_drop {n : Nat} (inside : n ≤ s.length) :
    pattern.At (s.drop n) p ↔ pattern.At s (n + p) := by
  have length : (s.take n).length = n := length_take_of_le inside
  have split : pattern.At (s.take n ++ s.drop n) ((s.take n).length + p) ↔
      pattern.At (s.drop n) p := at_drop
  rw [take_append_drop, length] at split
  exact split.symm

theorem Pattern.Searches.finds {search : List α → Option Nat}
    (searches : pattern.Searches search) : pattern.marks.Finds (pattern.frameEnd search) := by
  intro s fresh
  rcases searches s with ⟨q, here, first, found⟩ | ⟨none, unfound⟩
  swap
  · -- without an occurrence there is no end
    right
    constructor
    · intro p e eligible
      exact none p eligible.1.1
    · cases fresh
      · simp [Pattern.frameEnd, unfound]
      · simp [Pattern.frameEnd, unfound]
  cases fresh with
  | false =>
    left
    refine ⟨q, q + pattern.size, ⟨⟨⟨here, rfl⟩, by simp⟩, ?_⟩, ?_⟩
    · intro p e eligible
      exact first p eligible.1.1
    · simp [Pattern.frameEnd, found, marks_start]
  | true =>
    have inside := here.inside
    rcases searches (s.drop (q + pattern.size)) with ⟨p, there, next, found'⟩ | ⟨none, unfound⟩
    · left
      have second := (at_of_drop inside).mp there
      refine ⟨q + pattern.size + p, _, ⟨⟨⟨second, rfl⟩, ?_⟩, ?_⟩, ?_⟩
      · intro _
        have long := pattern.long
        exact ⟨q, by rw [Pattern.size]; omega, here⟩
      · intro p' e' eligible
        obtain ⟨q', before, start⟩ := eligible.2 rfl
        have later := first q' start
        have apart := here.apart eligible.1.1 (by omega)
        obtain ⟨d, rfl⟩ := Nat.exists_eq_add_of_le apart
        have least := next d ((at_of_drop inside).mpr eligible.1.1)
        omega
      · simp only [Pattern.frameEnd, found, found', if_true, Option.bind_some, Option.map_some,
          marks_start]
        congr 1
        omega
    · right
      constructor
      · intro p e eligible
        obtain ⟨q', before, start⟩ := eligible.2 rfl
        have later := first q' start
        have apart := here.apart eligible.1.1 (by omega)
        obtain ⟨d, rfl⟩ := Nat.exists_eq_add_of_le apart
        exact none d ((at_of_drop inside).mpr eligible.1.1)
      · simp [Pattern.frameEnd, found, unfound]

variable {Register : Type}

/-- A loop that pushes one element after the other into a register until a test of the register
    and of the last element succeeds. -/
def scan (push : Register → α → Register) (hit : Register → α → Bool) :
    Register → Nat → List α → Option Nat
  | _, _, [] => none
  | register, n, x :: s =>
    if hit (push register x) x then some (n + 1) else scan push hit (push register x) (n + 1) s

variable {push : Register → α → Register} {hit : Register → α → Bool}

theorem scan_shift (s : List α) : ∀ register n,
    scan push hit register n s = (scan push hit register 0 s).map (n + ·) := by
  induction s with
  | nil =>
    intro register n
    rfl
  | cons x s ih =>
    intro register n
    rw [scan, scan]
    by_cases hits : hit (push register x) x = true
    · rw [if_pos hits, if_pos hits, Option.map_some, Nat.zero_add]
    · rw [if_neg hits, if_neg hits, ih _ (n + 1), ih _ (0 + 1), Option.map_map]
      congr 1
      funext k
      simp only [Function.comp_apply]
      omega

def Pattern.Recognised (pattern : Pattern α) (push : Register → α → Register)
    (hit : Register → α → Bool) (start : Register) : Prop :=
  ∀ front x, hit ((front ++ [x]).foldl push start) x = true ↔
    ∃ p, p + pattern.size = front.length + 1 ∧ pattern.At (front ++ [x]) p

theorem scan_from {start : Register} (recognised : pattern.Recognised push hit start)
    (back : List α) : ∀ front, (∀ p, p + pattern.size ≤ front.length →
      ¬ pattern.At (front ++ back) p) →
    (∃ p, pattern.At (front ++ back) p ∧ (∀ p', pattern.At (front ++ back) p' → p ≤ p') ∧
      scan push hit (front.foldl push start) front.length back = some (p + pattern.size)) ∨
    ((∀ p, ¬ pattern.At (front ++ back) p) ∧
      scan push hit (front.foldl push start) front.length back = none) := by
  induction back with
  | nil =>
    intro front unfound
    right
    refine ⟨?_, rfl⟩
    intro p here
    have inside := here.inside
    rw [append_nil] at inside
    exact unfound p inside here
  | cons x back ih =>
    intro front unfound
    have pushed : push (front.foldl push start) x = (front ++ [x]).foldl push start := by
      rw [foldl_append]
      rfl
    have same : front ++ x :: back = front ++ [x] ++ back := by
      rw [append_assoc]
      rfl
    have length : (front ++ [x]).length = front.length + 1 := by
      rw [length_append]
      rfl
    rw [scan, pushed]
    by_cases hits : hit ((front ++ [x]).foldl push start) x = true
    · left
      obtain ⟨p, ends, here⟩ := (recognised front x).mp hits
      refine ⟨p, ?_, ?_, ?_⟩
      · rw [same]
        exact (at_take (by omega)).mpr here
      · intro p' there
        by_contra less
        exact unfound p' (by omega) there
      · rw [if_pos hits, ends]
    · have none : ∀ p, p + pattern.size ≤ (front ++ [x]).length →
          ¬ pattern.At (front ++ [x] ++ back) p := by
        intro p within here
        by_cases inside : p + pattern.size ≤ front.length
        · rw [← same] at here
          exact unfound p inside here
        · exact hits ((recognised front x).mpr ⟨p, by omega, (at_take within).mp here⟩)
      have result := ih (front ++ [x]) none
      rw [length] at result
      rw [if_neg hits, same]
      exact result

theorem scan_searches {start : Register} (recognised : pattern.Recognised push hit start) :
    pattern.Searches (scan push hit start 0) := by
  intro s
  apply scan_from recognised s []
  intro p within here
  have long := pattern.long
  rw [Pattern.size, length_nil] at within
  omega

end PatternMarks
