import Mathlib

/- Circular doubly linked lists with a sentinel, in a store of two link functions. The links in one
   direction lead from the sentinel through the cells back to it, those in the other direction through
   the cells in reverse; what holds for one direction is used for the other. -/
namespace RingLists
open List
open Function (update_of_ne update_self)

variable {Cell : Type}

def Path (next : Cell → Option Cell) : Cell → List Cell → Cell → Prop
  | first, [], last => next first = some last
  | first, cell :: rest, last => next first = some cell ∧ Path next cell rest last

variable {cell : Cell}

section

variable {next next' : Cell → Option Cell} {first last : Cell} {cells : List Cell}

theorem Path.congr (path : Path next first cells last)
    (same : ∀ cell ∈ first :: cells, next' cell = next cell) : Path next' first cells last := by
  induction cells generalizing first with
  | nil =>
    change next' first = some last
    rw [same first mem_cons_self]
    exact path
  | cons cell rest ih =>
    obtain ⟨link, path⟩ := path
    refine ⟨?_, ih path fun later member => same later (mem_cons_of_mem _ member)⟩
    rw [same first mem_cons_self]
    exact link

variable {front back : List Cell}

theorem Path.link (path : Path next first (front ++ back) last) :
    next (front.getLastD first) = some (back.headD last) := by
  induction front generalizing first with
  | nil =>
    cases back with
    | nil => exact path
    | cons cell rest => exact path.1
  | cons cell rest ih =>
    rw [getLastD_cons]
    exact ih path.2

variable [DecidableEq Cell]

theorem Path.update (path : Path next first cells last) (outside : cell ∉ first :: cells)
    (link : Option Cell) : Path (Function.update next cell link) first cells last := by
  apply path.congr
  intro other member
  have apart : other ≠ cell := ne_of_mem_of_not_mem member outside
  exact update_of_ne apart _ _

theorem Path.insert (path : Path next first (front ++ back) last)
    (nodup : (first :: (front ++ back)).Nodup) (outside : cell ∉ first :: (front ++ back)) :
    Path (Function.update (Function.update next cell (next (front.getLastD first)))
      (front.getLastD first) (some cell)) first (front ++ cell :: back) last := by
  induction front generalizing first with
  | nil =>
    have new : cell ≠ first := ne_of_not_mem_cons outside
    have distinct := (nodup_cons.mp nodup).1
    refine ⟨update_self _ _ _, ?_⟩
    -- the new cell has the link that the first one had
    have link : Function.update (Function.update next cell (next first)) first (some cell) cell =
        next first := by
      rw [update_of_ne new, update_self]
    cases back with
    | nil => exact link.trans path
    | cons later rest =>
      refine ⟨link.trans path.1, ?_⟩
      refine (Path.update path.2 ?_ _).update distinct _
      exact fun member => outside (mem_cons_of_mem _ member)
  | cons head rest ih =>
    have distinct := nodup_cons.mp nodup
    have earlier := ne_of_mem_of_not_mem (mem_append_left _ getLastD_mem_cons) distinct.1
    have new : first ≠ cell := (ne_of_not_mem_cons outside).symm
    rw [getLastD_cons]
    refine ⟨?_, ih path.2 distinct.2 fun member => outside (mem_cons_of_mem _ member)⟩
    rw [update_of_ne earlier.symm, update_of_ne new]
    exact path.1

theorem Path.remove (path : Path next first (front ++ cell :: back) last)
    (nodup : (first :: (front ++ cell :: back)).Nodup) :
    Path (Function.update next (front.getLastD first) (next cell)) first (front ++ back) last := by
  induction front generalizing first with
  | nil =>
    have distinct := (nodup_cons.mp nodup).1
    have link : Function.update next first (next cell) first = next cell :=
      update_self _ _ _
    cases back with
    | nil => exact link.trans path.2
    | cons later rest =>
      refine ⟨link.trans path.2.1, ?_⟩
      exact Path.update path.2.2 (fun member => distinct (mem_cons_of_mem _ member)) _
  | cons head rest ih =>
    have distinct := nodup_cons.mp nodup
    have earlier := ne_of_mem_of_not_mem (mem_append_left _ getLastD_mem_cons) distinct.1
    rw [getLastD_cons]
    refine ⟨?_, ih path.2 distinct.2⟩
    rw [update_of_ne earlier.symm]
    exact path.1

def walk (next : Cell → Option Cell) (stop : Cell) : Nat → Option Cell → List Cell
  | 0, _ => []
  | _ + 1, none => []
  | fuel + 1, some cell => if cell = stop then [] else cell :: walk next stop fuel (next cell)

theorem Path.walk_eq (path : Path next first cells last) (outside : last ∉ cells) {fuel : Nat}
    (enough : cells.length ≤ fuel) : walk next last fuel (next first) = cells := by
  induction cells generalizing first fuel with
  | nil =>
    cases fuel with
    | zero => rfl
    | succ fuel =>
      have link : next first = some last := path
      rw [link, walk]
      exact if_pos rfl
  | cons cell rest ih =>
    obtain ⟨link, path⟩ := path
    cases fuel with
    | zero => cases enough
    | succ fuel =>
      have apart : cell ≠ last := (ne_of_not_mem_cons outside).symm
      have later := ih path (fun member => outside (mem_cons_of_mem _ member))
        (Nat.le_of_succ_le_succ enough)
      rw [link, walk, if_neg apart, later]

end

structure Ring (next prev : Cell → Option Cell) (sentinel : Cell) (cells : List Cell) : Prop where
  forward : Path next sentinel cells sentinel
  backward : Path prev sentinel cells.reverse sentinel
  nodup : (sentinel :: cells).Nodup

section

variable {next prev next' prev' : Cell → Option Cell} {sentinel : Cell} {cells front back : List Cell}

theorem getLastD_reverse (cells : List Cell) (cell : Cell) :
    cells.reverse.getLastD cell = cells.headD cell := by
  cases cells with
  | nil => rfl
  | cons first rest => rw [reverse_cons, getLastD_concat, headD_cons]

theorem headD_reverse (cells : List Cell) (cell : Cell) :
    cells.reverse.headD cell = cells.getLastD cell := by
  rw [← getLastD_reverse, reverse_reverse]

theorem Ring.congr (ring : Ring next prev sentinel cells)
    (forward : ∀ cell ∈ sentinel :: cells, next' cell = next cell)
    (backward : ∀ cell ∈ sentinel :: cells, prev' cell = prev cell) :
    Ring next' prev' sentinel cells := by
  refine ⟨ring.forward.congr forward, ring.backward.congr ?_, ring.nodup⟩
  intro cell member
  apply backward cell
  simpa using member

section

variable (ring : Ring next prev sentinel (front ++ back))
include ring

theorem Ring.reversed :
    Path prev sentinel (back.reverse ++ front.reverse) sentinel := by
  rw [← reverse_append]
  exact ring.backward

theorem Ring.before :
    prev (back.headD sentinel) = some (front.getLastD sentinel) := by
  rw [← getLastD_reverse back, ← headD_reverse front]
  exact ring.reversed.link

theorem Ring.after :
    next (front.getLastD sentinel) = some (back.headD sentinel) :=
  ring.forward.link

end

theorem nodup_reversed (nodup : (sentinel :: (front ++ back)).Nodup) :
    (sentinel :: (back.reverse ++ front.reverse)).Nodup := by
  rw [nodup_cons] at nodup ⊢
  rw [← reverse_append, mem_reverse, nodup_reverse]
  exact nodup

variable [DecidableEq Cell]

theorem Ring.insert (ring : Ring next prev sentinel (front ++ back))
    (outside : cell ∉ sentinel :: (front ++ back)) :
    Ring
      (Function.update (Function.update next cell (some (back.headD sentinel)))
        (front.getLastD sentinel) (some cell))
      (Function.update (Function.update prev cell (some (front.getLastD sentinel)))
        (back.headD sentinel) (some cell))
      sentinel (front ++ cell :: back) := by
  have reversed : cell ∉ sentinel :: (back.reverse ++ front.reverse) := by
    rw [← reverse_append, mem_cons, mem_reverse, ← mem_cons]
    exact outside
  constructor
  · rw [← ring.after]
    exact ring.forward.insert ring.nodup outside
  · have path := ring.reversed.insert (nodup_reversed ring.nodup) reversed
    rw [getLastD_reverse, ring.before] at path
    rw [reverse_append, reverse_cons, append_assoc]
    exact path
  · rw [← cons_append, nodup_middle, cons_append, nodup_cons]
    exact ⟨outside, ring.nodup⟩

theorem Ring.remove (ring : Ring next prev sentinel (front ++ cell :: back)) :
    next cell = some (back.headD sentinel) ∧ prev cell = some (front.getLastD sentinel) ∧
      Ring
        (Function.update (Function.update next (front.getLastD sentinel) (next cell)) cell none)
        (Function.update (Function.update prev (back.headD sentinel) (prev cell)) cell none)
        sentinel (front ++ back) := by
  have whole := ring
  rw [append_cons] at whole
  have after := whole.after
  rw [getLastD_concat] at after
  have nodup : (cell :: (sentinel :: (front ++ back))).Nodup := by
    have given := ring.nodup
    rw [← cons_append, nodup_middle, cons_append] at given
    exact given
  obtain ⟨outside, rest⟩ := nodup_cons.mp nodup
  have reversed : cell ∉ sentinel :: (back.reverse ++ front.reverse) := by
    rw [← reverse_append, mem_cons, mem_reverse, ← mem_cons]
    exact outside
  refine ⟨after, ring.before, ?_, ?_, rest⟩
  · exact (ring.forward.remove ring.nodup).update outside _
  · have path := whole.reversed
    rw [reverse_append, reverse_singleton] at path
    have shorter := Path.remove path (by
      have given := nodup_reversed whole.nodup
      rw [reverse_append, reverse_singleton] at given
      exact given)
    rw [getLastD_reverse] at shorter
    rw [reverse_append]
    exact shorter.update reversed _

theorem Ring.update (ring : Ring next prev sentinel cells) (outside : cell ∉ sentinel :: cells)
    (link link' : Option Cell) :
    Ring (Function.update next cell link) (Function.update prev cell link') sentinel cells := by
  have apart : ∀ other ∈ sentinel :: cells, other ≠ cell := by
    rintro other member rfl
    exact outside member
  exact ring.congr (fun other member => update_of_ne (apart other member) _ _)
    fun other member => update_of_ne (apart other member) _ _

end

structure TwoRings (next prev : Cell → Option Cell) (first : Cell) (cells : List Cell) (second : Cell)
    (others : List Cell) : Prop where
  ring : Ring next prev first cells
  other : Ring next prev second others
  apart : ∀ cell ∈ first :: cells, cell ∉ second :: others

variable {next prev : Cell → Option Cell} {first second : Cell} {front back cells others : List Cell}

theorem TwoRings.symm (rings : TwoRings next prev first cells second others) :
    TwoRings next prev second others first cells :=
  ⟨rings.other, rings.ring, fun cell member other => rings.apart cell other member⟩

theorem headD_mem_cons (cells : List Cell) (cell : Cell) : cells.headD cell ∈ cell :: cells := by
  cases cells with
  | nil => exact mem_cons_self
  | cons head rest => exact mem_cons_of_mem _ mem_cons_self

theorem place_mem (front back : List Cell) : back.headD first ∈ first :: (front ++ back) := by
  rcases mem_cons.mp (headD_mem_cons back first) with same | later
  · rw [same]
    exact mem_cons_self
  · exact mem_cons_of_mem _ (mem_append_right _ later)

theorem previous_mem (front back : List Cell) : front.getLastD first ∈ first :: (front ++ back) := by
  rcases mem_cons.mp (getLastD_mem_cons (l := front) (a := first)) with same | earlier
  · rw [same]
    exact mem_cons_self
  · exact mem_cons_of_mem _ (mem_append_left _ earlier)

variable [DecidableEq Cell]

/-- Changes at cells of the first ring and at a further cell do not touch the second. -/
theorem TwoRings.frame {place previous cell : Cell} {link link' link'' link''' : Option Cell}
    (rings : TwoRings next prev first cells second others) (there : place ∈ first :: cells)
    (before : previous ∈ first :: cells) (outside : cell ∉ second :: others) :
    Ring (Function.update (Function.update next cell link) previous link')
      (Function.update (Function.update prev cell link'') place link''') second others := by
  apply rings.other.congr
  · intro other member
    have apart : other ≠ previous := by
      rintro rfl
      exact rings.apart other before member
    have new : other ≠ cell := ne_of_mem_of_not_mem member outside
    rw [update_of_ne apart, update_of_ne new]
  · intro other member
    have apart : other ≠ place := by
      rintro rfl
      exact rings.apart other there member
    have new : other ≠ cell := ne_of_mem_of_not_mem member outside
    rw [update_of_ne apart, update_of_ne new]

theorem TwoRings.insert (rings : TwoRings next prev first (front ++ back) second others)
    (new : cell ∉ first :: (front ++ back)) (outside : cell ∉ second :: others) :
    TwoRings
      (Function.update (Function.update next cell (some (back.headD first)))
        (front.getLastD first) (some cell))
      (Function.update (Function.update prev cell (some (front.getLastD first)))
        (back.headD first) (some cell))
      first (front ++ cell :: back) second others := by
  refine ⟨rings.ring.insert new, rings.frame (place_mem front back) (previous_mem front back) outside, ?_⟩
  intro other member
  have either : other = cell ∨ other ∈ first :: (front ++ back) := by
    simp only [mem_cons, mem_append] at member ⊢
    tauto
  rcases either with rfl | old
  · exact outside
  · exact rings.apart other old

theorem TwoRings.remove (rings : TwoRings next prev first (front ++ cell :: back) second others) :
    TwoRings
      (Function.update (Function.update next (front.getLastD first) (next cell)) cell none)
      (Function.update (Function.update prev (back.headD first) (prev cell)) cell none)
      first (front ++ back) second others := by
  obtain ⟨after, before, shorter⟩ := rings.ring.remove
  have member : cell ∈ first :: (front ++ cell :: back) :=
    mem_cons_of_mem _ (mem_append_right _ mem_cons_self)
  have fewer : ∀ other ∈ first :: (front ++ back), other ∈ first :: (front ++ cell :: back) := by
    intro other old
    simp only [mem_cons, mem_append] at old ⊢
    tauto
  refine ⟨shorter, ?_, fun other old => rings.apart other (fewer other old)⟩
  have outside := rings.apart cell member
  have before := rings.apart _ (fewer _ (previous_mem front back))
  have behind := rings.apart _ (fewer _ (place_mem front back))
  apply rings.other.congr
  · intro other there
    rw [update_of_ne, update_of_ne]
    · rintro rfl
      exact before there
    · rintro rfl
      exact outside there
  · intro other there
    rw [update_of_ne, update_of_ne]
    · rintro rfl
      exact behind there
    · rintro rfl
      exact outside there

theorem TwoRings.update (rings : TwoRings next prev first cells second others)
    (new : cell ∉ first :: cells) (outside : cell ∉ second :: others) (link link' : Option Cell) :
    TwoRings (Function.update next cell link) (Function.update prev cell link') first cells second
      others :=
  ⟨rings.ring.update new _ _, rings.other.update outside _ _, rings.apart⟩

end RingLists
