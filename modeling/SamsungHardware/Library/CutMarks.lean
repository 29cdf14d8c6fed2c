import SamsungHardware.Library.CutStream

/- Streams whose frames begin at marks that can be read off the stream. A detector that sees one
   piece at a time misses the marks that a cut divides, and in a frame that came in several
   pieces it takes every mark for the beginning of the next frame. The cuts that change no
   frame are exactly those that do neither. -/
namespace CutMarks
open CutStream List Option

/-- `Boundary s p e`: the elements of `s` from `p` up to `e` begin a new frame, provided that the
    contents of the current one have begun with a start in front of `p`. The element in front
    of `p` may lead the new frame. All this depends only on the elements it is about. -/
structure Marks (α : Type) where
  Boundary : List α → Nat → Nat → Prop
  Starts : List α → Nat → Prop
  lead : List α → Nat → Bool
  nonempty : ∀ {s p e}, Boundary s p e → p < e
  inside : ∀ {s p e}, Boundary s p e → e ≤ s.length
  unique : ∀ {s p e e'}, Boundary s p e → Boundary s p e' → e = e'
  apart : ∀ {s p e e'}, Boundary s p e → ¬ Boundary s (p + 1) e'
  boundary_drop : ∀ {held s p e},
    Boundary (held ++ s) (held.length + p) (held.length + e) ↔ Boundary s p e
  boundary_take : ∀ {s rest p e}, e ≤ s.length → (Boundary (s ++ rest) p e ↔ Boundary s p e)
  starts_append : ∀ {s q} rest, Starts s q → Starts (s ++ rest) q
  starts_take : ∀ {s rest p e q}, Boundary s p e → q < p → Starts (s ++ rest) q → Starts s q
  starts_apart : ∀ {s p e q}, Boundary s p e → q < p → Starts s q → q + 1 < p
  lead_drop : ∀ {held s p}, 0 < p → lead (held ++ s) (held.length + p) = lead s p
  lead_take : ∀ {s rest p e}, Boundary s p e → lead (s ++ rest) p = lead s p

variable {α : Type} (m : Marks α)

namespace Marks

def start (s : List α) (p : Nat) : Nat := if 0 < p ∧ m.lead s p = true then p - 1 else p

def Eligible (fresh : Bool) (s : List α) (p e : Nat) : Prop :=
  m.Boundary s p e ∧ (fresh = true → ∃ q < p, m.Starts s q)

def First (fresh : Bool) (s : List α) (p e : Nat) : Prop :=
  m.Eligible fresh s p e ∧ ∀ p' e', m.Eligible fresh s p' e' → p ≤ p'

def Finds (find : List α → Bool → Option Nat) : Prop :=
  ∀ piece fresh,
    (∃ p e, m.First fresh piece p e ∧ find piece fresh = some (m.start piece p)) ∨
    ((∀ p e, ¬ m.Eligible fresh piece p e) ∧ find piece fresh = none)

variable {m} {find : List α → Bool → Option Nat}

theorem start_le (s : List α) (p : Nat) : m.start s p ≤ p := by
  unfold start
  split_ifs
  · exact Nat.sub_le p 1
  · exact Nat.le_refl p

theorem First.positive {s : List α} {p e : Nat} (first : m.First true s p e) :
    0 < m.start s p := by
  obtain ⟨q, before, starts⟩ := first.1.2 rfl
  have apart := m.starts_apart first.1.1 before starts
  unfold start
  split_ifs <;> omega

theorem Finds.progresses (finds : m.Finds find) : Progresses find where
  positive piece n found := by
    rcases finds piece true with ⟨p, e, first, found'⟩ | ⟨_, none⟩
    · rw [found', some_inj] at found
      exact found ▸ first.positive
    · rw [none] at found
      cases found
  inside piece empty n found := by
    rcases finds piece empty with ⟨p, e, first, found'⟩ | ⟨_, none⟩
    · rw [found', some_inj] at found
      have before := start_le (m := m) piece p
      have nonempty := m.nonempty first.1.1
      have inside := m.inside first.1.1
      omega
    · rw [none] at found
      cases found

end Marks

def CutAt (held : Nat) (pieces : List (List α)) (c : Nat) : Prop :=
  ∃ k, c = held + (pieces.take k).flatten.length

variable {pieces : List (List α)}

section

variable {held c : Nat} {piece : List α}

theorem cutAt_held : CutAt held pieces held := ⟨0, rfl⟩

theorem CutAt.le (cut : CutAt held pieces c) : held ≤ c := by
  obtain ⟨k, rfl⟩ := cut
  exact Nat.le_add_right _ _

theorem cutAt_cons :
    CutAt held (piece :: pieces) c ↔ c = held ∨ CutAt (held + piece.length) pieces c := by
  constructor
  · rintro ⟨k, rfl⟩
    cases k with
    | zero => exact Or.inl rfl
    | succ k => exact Or.inr ⟨k, by simp [Nat.add_assoc]⟩
  · rintro (rfl | ⟨k, rfl⟩)
    · exact cutAt_held
    · exact ⟨k + 1, by simp [Nat.add_assoc]⟩

theorem cutAt_shift {i : Nat} : CutAt (i + held) pieces (i + c) ↔ CutAt held pieces c := by
  constructor
  · rintro ⟨k, same⟩
    exact ⟨k, by omega⟩
  · rintro ⟨k, rfl⟩
    exact ⟨k, by omega⟩

theorem cutAt_later (later : held + piece.length ≤ c) :
    CutAt held (piece :: pieces) c ↔ CutAt (held + piece.length) pieces c := by
  rw [cutAt_cons]
  constructor
  · rintro (rfl | cut)
    · have empty : piece.length = 0 := by omega
      rw [empty]
      exact cutAt_held
    · exact cut
  · exact Or.inr

end

/-- The marks that a detector of single pieces sees in the frame that began with `held`. -/
structure Seen (held : List α) (pieces : List (List α)) (p e : Nat) : Prop where
  boundary : m.Boundary (held ++ pieces.flatten) p e
  later : held.length ≤ p
  whole : ∀ c, CutAt held.length pieces c → ¬ (p < c ∧ c < e)
  shown : held ≠ [] ∨ (∃ c, CutAt held.length pieces c ∧ 0 < c ∧ c ≤ p) ∨
    ∃ q < p, m.Starts (held ++ pieces.flatten) q

variable {find : List α → Bool → Option Nat} {p e : Nat} {rest : List α}

section

variable {m} {held piece : List α}

theorem Seen.in_piece (seen : Seen m held (piece :: pieces) p e)
    (begins : p < held.length + piece.length) :
    ∃ p' e', p = held.length + p' ∧ e = held.length + e' ∧
      m.Eligible held.isEmpty piece p' e' := by
  obtain ⟨boundary, later, whole, shown⟩ := seen
  have nonempty := m.nonempty boundary
  have ends : e ≤ held.length + piece.length := by
    have cut : CutAt held.length (piece :: pieces) (held.length + piece.length) :=
      cutAt_cons.mpr (Or.inr cutAt_held)
    have := whole _ cut
    omega
  obtain ⟨p', rfl⟩ := Nat.exists_eq_add_of_le later
  obtain ⟨e', rfl⟩ := Nat.exists_eq_add_of_le (Nat.le_trans later (Nat.le_of_lt nonempty))
  have inPiece : m.Boundary piece p' e' := by
    rw [m.boundary_drop, flatten_cons, m.boundary_take (by omega)] at boundary
    exact boundary
  refine ⟨p', e', rfl, rfl, inPiece, fun fresh => ?_⟩
  obtain rfl : held = [] := isEmpty_iff.mp fresh
  simp only [length_nil, Nat.zero_add, nil_append, flatten_cons] at shown begins
  rcases shown with held | ⟨c, cut, positive, before⟩ | ⟨q, before, starts⟩
  · exact absurd rfl held
  · rcases cutAt_cons.mp cut with zero | next
    · omega
    · have := next.le
      omega
  · exact ⟨q, before, m.starts_take inPiece before starts⟩

theorem seen_more (finds : m.Finds find) (none : find piece held.isEmpty = none) :
    Seen m held (piece :: pieces) p e ↔ Seen m (held ++ piece) pieces p e := by
  have same : held ++ piece ++ pieces.flatten = held ++ (piece :: pieces).flatten := by
    rw [flatten_cons, append_assoc]
  constructor
  · intro seen
    have later : held.length + piece.length ≤ p := by
      by_contra begins
      obtain ⟨p', e', _, _, eligible⟩ := seen.in_piece (by omega)
      rcases finds piece held.isEmpty with ⟨p, e, _, found⟩ | ⟨noMark, _⟩
      · rw [none] at found
        cases found
      · exact noMark p' e' eligible
    refine ⟨same ▸ seen.boundary, by rw [length_append]; exact later, ?_, ?_⟩
    · intro c cut
      rw [length_append] at cut
      exact seen.whole c (cutAt_cons.mpr (Or.inr cut))
    · by_cases empty : held ++ piece = []
      · obtain ⟨rfl, rfl⟩ := append_eq_nil_iff.mp empty
        rcases seen.shown with held | ⟨c, cut, positive, before⟩ | starts
        · exact absurd rfl held
        · exact Or.inr (Or.inl ⟨c, (cutAt_later (Nat.zero_le c)).mp cut, positive, before⟩)
        · exact Or.inr (Or.inr starts)
      · exact Or.inl empty
  · intro seen
    have later := seen.later
    rw [length_append] at later
    refine ⟨same ▸ seen.boundary, by omega, ?_, ?_⟩
    · intro c cut
      rcases cutAt_cons.mp cut with rfl | next
      · omega
      · exact seen.whole c (by rw [length_append]; exact next)
    · cases held with
      | cons first held => exact Or.inl (cons_ne_nil first held)
      | nil =>
        right
        rcases seen.shown with nonempty | ⟨c, cut, positive, before⟩ | starts
        · have positive := length_pos_iff.mpr nonempty
          simp only [nil_append, length_nil, Nat.zero_add] at positive later ⊢
          exact Or.inl ⟨piece.length, cutAt_cons.mpr (Or.inr ⟨0, by simp⟩), positive, later⟩
        · refine Or.inl ⟨c, cutAt_cons.mpr (Or.inr ?_), positive, before⟩
          simpa using cut
        · exact Or.inr (same ▸ starts)

/-- The next frame ends at the first mark that is seen, and what follows is delivered from the
    rest of the pieces. -/
structure NextFrame (m : Marks α) (find : List α → Bool → Option Nat) (held : List α)
    (pieces frames : List (List α)) (rest : List α) (p e n : Nat)
    (pieces' frames' : List (List α)) : Prop where
  seen : Seen m held pieces p e
  least : ∀ p' e', Seen m held pieces p' e' → p ≤ p'
  leads : m.lead (held ++ pieces.flatten) p = true → ¬ CutAt held.length pieces p → n + 1 = p
  plain : m.lead (held ++ pieces.flatten) p = false ∨ CutAt held.length pieces p → n = p
  frames_eq : frames = (held ++ pieces.flatten).take n :: frames'
  after : Delivers find [] pieces' frames' rest
  flatten_eq : pieces'.flatten = (held ++ pieces.flatten).drop n
  cuts : ∀ c, 0 < c → (CutAt 0 pieces' c ↔ CutAt held.length pieces (n + c))

variable {frames : List (List α)}

variable (finds : m.Finds find)
include finds

theorem NextFrame.more (none : find piece held.isEmpty = none)
    {frames pieces' frames' : List (List α)} {n : Nat}
    (next : NextFrame m find (held ++ piece) pieces frames rest p e n pieces' frames') :
    NextFrame m find held (piece :: pieces) frames rest p e n pieces' frames' := by
  have same : held ++ piece ++ pieces.flatten = held ++ (piece :: pieces).flatten := by
    rw [flatten_cons, append_assoc]
  obtain ⟨seen, least, leads, plain, frames_eq, after, flatten_eq, cuts⟩ := next
  have later := seen.later
  rw [length_append] at later leads plain cuts
  rw [same] at leads plain frames_eq flatten_eq
  have bound : held.length + piece.length ≤ n := by
    by_cases cut : CutAt (held.length + piece.length) pieces p
    · rw [plain (Or.inr cut)]
      exact later
    · cases lead : m.lead (held ++ (piece :: pieces).flatten) p with
      | false =>
        rw [plain (Or.inl lead)]
        exact later
      | true =>
        have eq := leads lead cut
        have other : p ≠ held.length + piece.length := fun here => cut (here ▸ cutAt_held)
        omega
  refine ⟨(seen_more finds none).mpr seen, fun p' e' seen' => ?_, ?_, ?_, frames_eq, after,
    flatten_eq, fun c positive => ?_⟩
  · exact least p' e' ((seen_more finds none).mp seen')
  · rw [cutAt_later later]
    exact leads
  · rw [cutAt_later later]
    exact plain
  · rw [cutAt_later (by omega)]
    exact cuts c positive

theorem next_of_found {n : Nat} (found : find piece held.isEmpty = some n)
    (after : Delivers find [] (piece.drop n :: pieces) frames rest) :
    ∃ p e, NextFrame m find held (piece :: pieces) ((held ++ piece.take n) :: frames) rest p e
      (held.length + n) (piece.drop n :: pieces) frames := by
  rcases finds piece held.isEmpty with ⟨p, e, ⟨⟨boundary, starts⟩, least⟩, found'⟩ | ⟨_, none⟩
  swap
  · rw [none] at found
    cases found
  rw [found', some_inj] at found
  subst found
  have nonempty := m.nonempty boundary
  have inside := m.inside boundary
  have before := Marks.start_le (m := m) piece p
  have cutHere : CutAt held.length (piece :: pieces) (held.length + p) ↔ p = 0 := by
    rw [cutAt_cons]
    constructor
    · rintro (here | next)
      · omega
      · have := next.le
        omega
    · intro zero
      exact Or.inl (by omega)
  have leadHere : 0 < p → m.lead (held ++ (piece :: pieces).flatten) (held.length + p) =
      m.lead piece p := fun positive => by
    rw [m.lead_drop positive, flatten_cons, m.lead_take boundary]
  have boundary' : m.Boundary (held ++ (piece :: pieces).flatten) (held.length + p)
      (held.length + e) := by
    rw [m.boundary_drop, flatten_cons, m.boundary_take inside]
    exact boundary
  refine ⟨held.length + p, held.length + e, ⟨⟨boundary', by omega, ?_, ?_⟩, ?_, ?_, ?_, ?_, after,
    ?_, ?_⟩⟩
  · intro c cut
    rcases cutAt_cons.mp cut with rfl | next
    · omega
    · have := next.le
      omega
  · cases held with
    | cons first held => exact Or.inl (cons_ne_nil first held)
    | nil =>
      obtain ⟨q, earlier, start⟩ := starts rfl
      refine Or.inr (Or.inr ⟨q, by simpa using earlier, ?_⟩)
      exact m.starts_append pieces.flatten start
  · intro p' e' seen
    by_cases begins : p' < held.length + piece.length
    · obtain ⟨p'', e'', rfl, rfl, eligible⟩ := seen.in_piece begins
      have := least p'' e'' eligible
      omega
    · omega
  · rw [cutHere]
    intro lead notZero
    rw [leadHere (by omega)] at lead
    rw [Marks.start, if_pos ⟨by omega, lead⟩]
    omega
  · rw [cutHere]
    rintro (plain | rfl)
    · rw [Marks.start, if_neg]
      rintro ⟨positive, lead⟩
      rw [leadHere positive, lead] at plain
      cases plain
    · rfl
  · rw [flatten_cons, take_length_add_append, take_append_of_le_length (by omega)]
  · rw [flatten_cons, flatten_cons, drop_length_add_append, drop_append_of_le_length (by omega)]
  · intro c positive
    have total : held.length + piece.length =
        held.length + m.start piece p + (0 + (piece.drop (m.start piece p)).length) := by
      rw [length_drop]
      omega
    rw [cutAt_cons, cutAt_cons, total, cutAt_shift]
    exact or_congr (iff_of_false (by omega) (by omega)) Iff.rfl

theorem next_frame (delivers : Delivers find held pieces frames rest) :
    (frames = [] ∧ ∀ p e, ¬ Seen m held pieces p e) ∨
      ∃ p e n pieces' frames', NextFrame m find held pieces frames rest p e n pieces' frames' := by
  induction delivers with
  | done held =>
    refine Or.inl ⟨rfl, fun p e seen => ?_⟩
    have nonempty := m.nonempty seen.boundary
    have inside := m.inside seen.boundary
    have later := seen.later
    simp at inside
    omega
  | more none after ih =>
    rcases ih with ⟨empty, unseen⟩ | ⟨p, e, n, pieces', frames', next⟩
    · exact Or.inl ⟨empty, fun p e seen => unseen p e ((seen_more finds none).mp seen)⟩
    · exact Or.inr ⟨p, e, n, pieces', frames', next.more finds none⟩
  | frame found after ih =>
    obtain ⟨p, e, next⟩ := next_of_found finds found after
    exact Or.inr ⟨p, e, _, _, _, next⟩

theorem next_uncut {s rest : List α}
    (delivers : Delivers find [] [s] frames rest) :
    (frames = [] ∧ find s true = none ∧ ∀ p e, ¬ m.Eligible true s p e) ∨
      ∃ p e frames', m.First true s p e ∧ find s true = some (m.start s p) ∧
        frames = s.take (m.start s p) :: frames' ∧
        Delivers find [] [s.drop (m.start s p)] frames' rest := by
  rcases finds s true with ⟨p, e, first, found⟩ | ⟨none, unfound⟩
  · cases delivers with
    | more none after =>
      rw [isEmpty_nil, found] at none
      cases none
    | frame found' after =>
      rw [isEmpty_nil, found, some_inj] at found'
      subst found'
      exact Or.inr ⟨p, e, _, first, found, rfl, after⟩
  · cases delivers with
    | more _ after =>
      cases after
      exact Or.inl ⟨rfl, unfound, none⟩
    | frame found' after =>
      rw [isEmpty_nil, unfound] at found'
      cases found'

end

/-- The beginnings of the frames of a stream that comes in one piece. -/
inductive FrameStart (find : List α → Bool → Option Nat) : List α → Nat → Prop where
  | first (s : List α) : FrameStart find s 0
  | next {s : List α} {n k : Nat} (found : find s true = some n)
      (later : FrameStart find (s.drop n) k) : FrameStart find s (n + k)

/-- Cuts that leave the first frame of `s` as it is. None lies inside the mark that ends the
    frame, and a mark in front of the contents of the frame is not the first mark of a later
    piece, unless another cut divides it. -/
structure Harmless (s : List α) (Cut : Nat → Prop) : Prop where
  undivided : ∀ p e, m.First true s p e → ∀ c, Cut c → ¬ (m.start s p < c ∧ c < e)
  hidden : ∀ p e, m.Boundary s p e → (∀ q < p, ¬ m.Starts s q) →
    ∀ c, Cut c → 0 < c → c ≤ p → ∃ c', Cut c' ∧ p < c' ∧ c' < e

variable {m} {s : List α}

theorem Harmless.congr {Cut Cut' : Nat → Prop} (same : ∀ c, 0 < c → (Cut c ↔ Cut' c))
    (harmless : Harmless m s Cut) : Harmless m s Cut' where
  undivided p e first c cut between :=
    harmless.undivided p e first c ((same c (by omega)).mpr cut) between
  hidden p e boundary none c cut positive before := by
    obtain ⟨c', cut', between⟩ :=
      harmless.hidden p e boundary none c ((same c positive).mpr cut) positive before
    exact ⟨c', (same c' (by omega)).mp cut', between⟩

theorem Harmless.eligible (harmless : Harmless m pieces.flatten (CutAt 0 pieces))
    (seen : Seen m [] pieces p e) : m.Eligible true pieces.flatten p e := by
  refine ⟨seen.boundary, fun _ => ?_⟩
  by_contra none
  have unstarted : ∀ q < p, ¬ m.Starts pieces.flatten q := fun q before starts =>
    none ⟨q, before, starts⟩
  rcases seen.shown with nonempty | ⟨c, cut, positive, before⟩ | ⟨q, before, starts⟩
  · exact nonempty rfl
  · obtain ⟨c', cut', between⟩ := harmless.hidden p e seen.boundary unstarted c cut positive before
    exact seen.whole c' cut' between
  · exact unstarted q before starts

theorem seen_of_shown (boundary : m.Boundary pieces.flatten p e) {c : Nat}
    (cut : CutAt 0 pieces c) (positive : 0 < c) (before : c ≤ p)
    (whole : ¬ ∃ c', CutAt 0 pieces c' ∧ p < c' ∧ c' < e) : Seen m [] pieces p e where
  boundary := boundary
  later := Nat.zero_le p
  whole c' cut' between := whole ⟨c', cut', between⟩
  shown := Or.inr (Or.inl ⟨c, cut, positive, before⟩)

theorem Marks.First.seen (first : m.First true pieces.flatten p e)
    (whole : ∀ c, CutAt 0 pieces c → ¬ (p < c ∧ c < e)) : Seen m [] pieces p e where
  boundary := first.1.1
  later := Nat.zero_le p
  whole := whole
  shown := Or.inr (Or.inr (first.1.2 rfl))

theorem start_cases (s : List α) {p : Nat} (positive : 0 < p) :
    (m.lead s p = true ∧ m.start s p + 1 = p) ∨ (m.lead s p = false ∧ m.start s p = p) := by
  unfold Marks.start
  cases lead : m.lead s p with
  | true =>
    rw [if_pos ⟨positive, rfl⟩]
    exact Or.inl ⟨rfl, by omega⟩
  | false =>
    rw [if_neg fun both => Bool.false_ne_true both.2]
    exact Or.inr ⟨rfl, rfl⟩

theorem Marks.First.position_pos (first : m.First true s p e) : 0 < p :=
  Nat.lt_of_lt_of_le first.positive (Marks.start_le s p)

theorem unfinished_iff (finds : m.Finds find) {frames : List (List α)} {rest : List α}
    (delivers : Delivers find [] pieces frames rest)
    (none : ∀ p e, ¬ m.Eligible true pieces.flatten p e) :
    frames = [] ↔ Harmless m pieces.flatten (CutAt 0 pieces) := by
  constructor
  · intro empty
    have unseen : ∀ p e, ¬ Seen m [] pieces p e := by
      rcases next_frame finds delivers with ⟨_, unseen⟩ | ⟨_, _, _, _, _, next⟩
      · exact unseen
      · rw [next.frames_eq] at empty
        cases empty
    constructor
    · intro p e first
      exact absurd first.1 (none p e)
    · intro p e boundary _ c cut positive before
      by_contra whole
      exact unseen p e (seen_of_shown boundary cut positive before whole)
  · intro harmless
    rcases next_frame finds delivers with ⟨empty, _⟩ | ⟨p, e, _, _, _, next⟩
    · exact empty
    · exact absurd (harmless.eligible next.seen) (none p e)

section

variable {frames pieces' frames' : List (List α)} {p' e' n : Nat}

/-- The next frame ends where the first frame of the whole stream ends, exactly when the cuts
    are harmless to it. -/
theorem NextFrame.end_iff (first : m.First true pieces.flatten p e)
    (next : NextFrame m find [] pieces frames rest p' e' n pieces' frames') :
    n = m.start pieces.flatten p ↔ Harmless m pieces.flatten (CutAt 0 pieces) := by
  have positive := first.position_pos
  have starts := start_cases (m := m) pieces.flatten positive
  constructor
  · intro same
    have near : n = p' ∨ n + 1 = p' := by
      cases lead : m.lead ([] ++ pieces.flatten) p' with
      | false => exact Or.inl (next.plain (Or.inl lead))
      | true =>
        by_cases cut : CutAt 0 pieces p'
        · exact Or.inl (next.plain (Or.inr cut))
        · exact Or.inr (next.leads lead cut)
    -- two marks that begin or are led by the same element are the same
    obtain rfl : p' = p := by
      rcases Nat.lt_trichotomy p' p with less | equal | greater
      · obtain rfl : p = p' + 1 := by omega
        exact absurd first.1.1 (m.apart next.seen.boundary)
      · exact equal
      · obtain rfl : p' = p + 1 := by omega
        exact absurd next.seen.boundary (m.apart first.1.1)
    constructor
    · intro p₁ e₁ first₁ c cut between
      obtain rfl : p₁ = p' := Nat.le_antisymm (first₁.2 _ _ first.1) (first.2 _ _ first₁.1)
      obtain rfl : e₁ = e' := m.unique first₁.1.1 next.seen.boundary
      by_cases inside : p₁ < c
      · exact next.seen.whole c cut ⟨inside, between.2⟩
      · obtain rfl : c = p₁ := by omega
        have := next.plain (Or.inr cut)
        omega
    · intro p₁ e₁ boundary none c cut positive before
      by_contra whole
      have later := next.least p₁ e₁ (seen_of_shown boundary cut positive before whole)
      obtain ⟨q, earlier, start⟩ := first.1.2 rfl
      exact none q (by omega) start
  · intro harmless
    have undivided := harmless.undivided p e first
    have seen := first.seen fun c cut between => undivided c cut (by omega)
    obtain rfl : p' = p :=
      Nat.le_antisymm (next.least p e seen) (first.2 p' e' (harmless.eligible next.seen))
    rcases starts with ⟨lead, start⟩ | ⟨plain, start⟩
    · have uncut : ¬ CutAt 0 pieces p' := fun cut =>
        undivided p' cut ⟨by omega, m.nonempty first.1.1⟩
      have := next.leads lead uncut
      omega
    · rw [next.plain (Or.inl plain), start]

end

theorem frameStart_iff {n : Nat} (found : find s true = some n) {P : Nat → Prop} :
    (∀ k, FrameStart find s k → P k) ↔ P 0 ∧ ∀ k, FrameStart find (s.drop n) k → P (n + k) := by
  constructor
  · intro all
    exact ⟨all 0 (.first s), fun k later => all (n + k) (.next found later)⟩
  · rintro ⟨zero, rest⟩ k start
    cases start with
    | first => exact zero
    | next found' later =>
      rw [found, some_inj] at found'
      subst found'
      exact rest _ later

variable {frames pieces' frames' : List (List α)}

theorem NextFrame.harmless_iff {p e n : Nat}
    (next : NextFrame m find [] pieces frames rest p e n pieces' frames') (k : Nat) :
    Harmless m (pieces'.flatten.drop k) (fun c => CutAt 0 pieces' (k + c)) ↔
      Harmless m (pieces.flatten.drop (n + k)) fun c => CutAt 0 pieces (n + k + c) := by
  have same : pieces'.flatten.drop k = pieces.flatten.drop (n + k) := by
    rw [next.flatten_eq, nil_append, drop_drop]
  have cuts : ∀ c, 0 < c → (CutAt 0 pieces' (k + c) ↔ CutAt 0 pieces (n + k + c)) := by
    intro c positive
    rw [next.cuts (k + c) (by omega), Nat.add_assoc]
    exact Iff.rfl
  rw [same]
  exact ⟨Harmless.congr cuts, Harmless.congr fun c positive => (cuts c positive).symm⟩

theorem NextFrame.le_length {p e n : Nat}
    (next : NextFrame m find [] pieces frames rest p e n pieces' frames') :
    n ≤ pieces.flatten.length := by
  have nonempty := m.nonempty next.seen.boundary
  have inside := m.inside next.seen.boundary
  rw [nil_append] at inside
  cases lead : m.lead ([] ++ pieces.flatten) p with
  | false =>
    have := next.plain (Or.inl lead)
    omega
  | true =>
    by_cases cut : CutAt 0 pieces p
    · have := next.plain (Or.inr cut)
      omega
    · have := next.leads lead cut
      omega

theorem take_inj {s : List α} {n k : Nat} (left : n ≤ s.length) (right : k ≤ s.length)
    (same : s.take n = s.take k) : n = k := by
  have lengths := congrArg List.length same
  rw [length_take, length_take] at lengths
  omega

/-- The frames are those of the uncut stream exactly when the cuts are harmless to each of
    them. -/
theorem frames_eq_iff (finds : m.Finds find) {frames uncut : List (List α)} {rest rest' : List α}
    (delivers : Delivers find [] pieces frames rest)
    (whole : Delivers find [] [pieces.flatten] uncut rest') :
    frames = uncut ↔ ∀ k, FrameStart find pieces.flatten k →
      Harmless m (pieces.flatten.drop k) fun c => CutAt 0 pieces (k + c) := by
  obtain ⟨n, length⟩ : ∃ n, pieces.flatten.length = n := ⟨_, rfl⟩
  induction n using Nat.strongRecOn generalizing pieces frames uncut with
  | _ n ih =>
    have zero : Harmless m (pieces.flatten.drop 0) (fun c => CutAt 0 pieces (0 + c)) ↔
        Harmless m pieces.flatten (CutAt 0 pieces) := by
      simp only [drop_zero, Nat.zero_add]
    rcases next_uncut finds whole with ⟨rfl, unfound, none⟩ | ⟨p, e, uncut', first, found, rfl, whole'⟩
    · rw [unfinished_iff finds delivers none, ← zero]
      constructor
      · intro harmless k start
        cases start with
        | first => exact harmless
        | next found later =>
          rw [unfound] at found
          cases found
      · intro all
        exact all 0 (.first _)
    · rcases next_frame finds delivers with ⟨rfl, unseen⟩ | ⟨p', e', n', pieces', frames', next⟩
      · refine iff_of_false (cons_ne_nil _ _).symm fun all => ?_
        have harmless := zero.mp (all 0 (.first _))
        refine unseen p e (first.seen fun c cut between => ?_)
        have before := Marks.start_le (m := m) pieces.flatten p
        exact harmless.undivided p e first c cut (by omega)
      · rw [frameStart_iff found, zero, ← next.end_iff first, next.frames_eq, nil_append,
          List.cons.injEq]
        have before := Marks.start_le (m := m) pieces.flatten p
        have nonempty := m.nonempty first.1.1
        have inside := m.inside first.1.1
        have sameEnd : pieces.flatten.take n' = pieces.flatten.take (m.start pieces.flatten p) ↔
            n' = m.start pieces.flatten p :=
          ⟨take_inj next.le_length (by omega), fun same => by rw [same]⟩
        rw [sameEnd]
        refine and_congr_right fun same => ?_
        have flatten_eq := next.flatten_eq
        rw [nil_append, same] at flatten_eq
        rw [← flatten_eq] at whole' ⊢
        have positive := first.positive
        have smaller : pieces'.flatten.length < n := by
          rw [flatten_eq, length_drop]
          omega
        rw [ih _ smaller next.after whole' rfl]
        refine forall_congr' fun k => imp_congr_right fun _ => ?_
        rw [next.harmless_iff, same]

end CutMarks
