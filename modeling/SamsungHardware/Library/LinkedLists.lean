import Mathlib

/- Singly linked lists in a store: the cells that are reached from a head along their links, the
   search for a cell by a pointer to the link that leads to it, and the change of one link. -/
namespace LinkedLists
open List
open Function (update_of_ne update_self)

variable {Cell : Type}

def Chain (next : Cell → Option Cell) : Option Cell → List Cell → Prop
  | head, [] => head = none
  | head, cell :: rest => head = some cell ∧ Chain next (next cell) rest

variable {next : Cell → Option Cell} {cells : List Cell}

section

variable {head : Option Cell}

theorem Chain.congr {next' : Cell → Option Cell} (chain : Chain next head cells)
    (same : ∀ cell ∈ cells, next' cell = next cell) : Chain next' head cells := by
  induction cells generalizing head with
  | nil => exact chain
  | cons cell rest ih =>
    obtain ⟨start, chain⟩ := chain
    refine ⟨start, ?_⟩
    rw [same cell mem_cons_self]
    exact ih chain fun later member => same later (mem_cons_of_mem _ member)

variable {cell previous : Cell} {before after : List Cell}

theorem Chain.linked (chain : Chain next head (before ++ previous :: cell :: after)) :
    next previous = some cell := by
  induction before generalizing head with
  | nil => exact chain.2.1
  | cons first rest ih => exact ih chain.2

theorem Chain.head_eq {first : Cell} {rest : List Cell} (chain : Chain next head (first :: rest)) :
    head = some first := chain.1

variable [DecidableEq Cell]

theorem Chain.update {cell : Cell} (chain : Chain next head cells) (outside : cell ∉ cells)
    (link : Option Cell) : Chain (Function.update next cell link) head cells := by
  apply chain.congr
  intro other member
  have apart : other ≠ cell := ne_of_mem_of_not_mem member outside
  exact update_of_ne apart _ _

theorem Chain.push {cell : Cell} (chain : Chain next head cells) (outside : cell ∉ cells) :
    Chain (Function.update next cell head) (some cell) (cell :: cells) := by
  refine ⟨rfl, ?_⟩
  rw [update_self]
  exact chain.update outside head

/-- The link to the cell behind `previous`, or the head, is led past the cell. -/
theorem Chain.unlink (chain : Chain next head (before ++ previous :: cell :: after))
    (nodup : (before ++ previous :: cell :: after).Nodup) :
    Chain (Function.update next previous (next cell)) head (before ++ previous :: after) := by
  induction before generalizing head with
  | nil =>
    obtain ⟨start, _, chain⟩ := chain
    refine ⟨start, ?_⟩
    rw [update_self]
    have distinct := (nodup_cons.mp nodup).1
    exact chain.update (fun member => distinct (mem_cons_of_mem _ member)) _
  | cons first rest ih =>
    obtain ⟨start, chain⟩ := chain
    have distinct := nodup_cons.mp nodup
    have apart : first ≠ previous := by
      rintro rfl
      exact distinct.1 (mem_append_right _ mem_cons_self)
    refine ⟨start, ?_⟩
    rw [update_of_ne apart]
    exact ih chain distinct.2

theorem Chain.link {cell last : Cell} {front : List Cell} (chain : Chain next head (front ++ [last]))
    (nodup : (front ++ [last]).Nodup) (outside : cell ∉ front ++ [last]) (ends : next cell = none) :
    Chain (Function.update next last (some cell)) head (front ++ [last] ++ [cell]) := by
  induction front generalizing head with
  | nil =>
    obtain ⟨start, _⟩ := chain
    have apart : cell ≠ last := ne_of_not_mem_cons outside
    refine ⟨start, ?_⟩
    rw [update_self]
    refine ⟨rfl, ?_⟩
    rw [update_of_ne apart]
    exact ends
  | cons first rest ih =>
    obtain ⟨start, chain⟩ := chain
    have distinct := nodup_cons.mp nodup
    have apart : first ≠ last := by
      rintro rfl
      exact distinct.1 (mem_append_right _ mem_cons_self)
    refine ⟨start, ?_⟩
    rw [update_of_ne apart]
    exact ih chain distinct.2 fun member => outside (mem_cons_of_mem _ member)

end

variable [DecidableEq Cell] {target : Cell}

/-- How a search has ended: with the cell whose link leads to the target, none for the head. -/
inductive Search (Cell : Type) where
  | running
  | absent
  | found (previous : Option Cell)
  deriving DecidableEq, Repr

def seek (next : Cell → Option Cell) (target : Cell) :
    Nat → Option Cell → Option Cell → Search Cell
  | 0, _, _ => .running
  | fuel + 1, previous, link =>
    match link with
    | none => .absent
    | some cell =>
      if cell = target then .found previous else seek next target fuel (some cell) (next cell)

def searched (target : Cell) : Option Cell → List Cell → Search Cell
  | _, [] => .absent
  | previous, cell :: rest =>
    if cell = target then .found previous else searched target (some cell) rest

theorem seek_chain :
    ∀ {link : Option Cell} (fuel : Nat)
    (previous : Option Cell), Chain next link cells → cells.length < fuel →
      seek next target fuel previous link = searched target previous cells := by
  induction cells with
  | nil =>
    intro link fuel previous chain enough
    obtain ⟨n, rfl⟩ := Nat.exists_eq_add_of_lt enough
    rw [chain]
    rfl
  | cons cell rest ih =>
    intro link fuel previous chain enough
    obtain ⟨rfl, chain⟩ := chain
    cases fuel with
    | zero => cases enough
    | succ fuel =>
      rw [seek, searched]
      rw [ih fuel (some cell) chain (Nat.lt_of_succ_lt_succ enough)]

theorem searched_absent (absent : target ∉ cells) (previous : Option Cell) :
    searched target previous cells = .absent := by
  induction cells generalizing previous with
  | nil => rfl
  | cons cell rest ih =>
    have apart : cell ≠ target := (ne_of_not_mem_cons absent).symm
    rw [searched, if_neg apart]
    exact ih (fun member => absent (mem_cons_of_mem _ member)) _

theorem searched_found (member : target ∈ cells) (previous : Option Cell) :
    (∃ after, cells = target :: after ∧ searched target previous cells = .found previous) ∨
      ∃ before cell after, cells = before ++ cell :: target :: after ∧
        searched target previous cells = .found (some cell) := by
  induction cells generalizing previous with
  | nil => cases member
  | cons first rest ih =>
    by_cases same : first = target
    · subst same
      exact .inl ⟨rest, rfl, if_pos rfl⟩
    · have later : target ∈ rest := by
        rcases mem_cons.mp member with here | later
        · exact absurd here.symm same
        · exact later
      refine .inr ?_
      rw [searched, if_neg same]
      rcases ih later (some first) with ⟨after, split, found⟩ | ⟨before, cell, after, split, found⟩
      · exact ⟨[], first, after, congrArg _ split, found⟩
      · exact ⟨first :: before, cell, after, congrArg _ split, found⟩

end LinkedLists
