import SamsungHardware.Library.CutMarks

/- The same stream in one piece and in several pieces, for elements that also carry something of
   their surroundings. At the ends of the pieces the surroundings differ from those in the whole
   stream, so that a mark may be recognised in one of the two and not in the other. The frames
   are the same exactly when the mark that ends a frame is the first one that is recognised. -/
namespace CutContext
open CutStream CutMarks List

variable {α β : Type} (m : Marks α)

/-- The mark is recognised in the pieces of `s` between the cuts: it is not divided, and either
    a piece of the frame came before or the frame has begun in the same piece. -/
structure Recognised (s : List α) (Cut : Nat → Prop) (p e : Nat) : Prop where
  boundary : m.Boundary s p e
  whole : ∀ c, Cut c → ¬ (p < c ∧ c < e)
  shown : (∃ c, Cut c ∧ 0 < c ∧ c ≤ p) ∨ ∃ q < p, m.Starts s q

/-- The first frame of `s` in one piece ends at the first mark that is recognised in `s'`. -/
structure Alike (s s' : List α) (Cut : Nat → Prop) : Prop where
  recognised : ∀ p e, m.First true s p e → ∃ e', Recognised m s' Cut p e'
  first : ∀ p e, Recognised m s' Cut p e → ∃ p' e', m.First true s p' e' ∧ p' ≤ p

variable {m}

theorem Recognised.congr {s : List α} {Cut Cut' : Nat → Prop} {p e : Nat}
    (same : ∀ c, 0 < c → (Cut c ↔ Cut' c)) (recognised : Recognised m s Cut p e) :
    Recognised m s Cut' p e where
  boundary := recognised.boundary
  whole c cut between := recognised.whole c ((same c (by omega)).mpr cut) between
  shown := by
    rcases recognised.shown with ⟨c, cut, positive, before⟩ | start
    · exact Or.inl ⟨c, (same c positive).mp cut, positive, before⟩
    · exact Or.inr start

theorem Alike.congr {s s' : List α} {Cut Cut' : Nat → Prop}
    (same : ∀ c, 0 < c → (Cut c ↔ Cut' c)) (alike : Alike m s s' Cut) : Alike m s s' Cut' where
  recognised p e first := by
    obtain ⟨e', recognised⟩ := alike.recognised p e first
    exact ⟨e', recognised.congr same⟩
  first p e recognised :=
    alike.first p e (recognised.congr fun c positive => (same c positive).symm)

theorem seen_iff {pieces : List (List α)} {p e : Nat} :
    Seen m [] pieces p e ↔ Recognised m pieces.flatten (CutAt 0 pieces) p e := by
  constructor
  · intro seen
    refine ⟨seen.boundary, seen.whole, ?_⟩
    rcases seen.shown with nonempty | shown
    · exact absurd rfl nonempty
    · exact shown
  · intro recognised
    exact ⟨recognised.boundary, Nat.zero_le p, recognised.whole, Or.inr recognised.shown⟩

variable {find : List α → Bool → Option Nat} {view : α → β} {s rest rest' : List α}
  {pieces frames uncut : List (List α)}

theorem next_end (plain : ∀ s p, m.lead s p = false) {pieces' frames' : List (List α)}
    {p e n : Nat} (next : NextFrame m find [] pieces frames rest p e n pieces' frames') : n = p :=
  next.plain (Or.inl (plain _ p))

theorem start_plain (plain : ∀ s p, m.lead s p = false) (s : List α) (p : Nat) :
    m.start s p = p := by
  rw [Marks.start, if_neg]
  rintro ⟨-, lead⟩
  rw [plain] at lead
  cases lead

theorem first_unique {fresh : Bool} {p e p' e' : Nat} (left : m.First fresh s p e)
    (right : m.First fresh s p' e') : p = p' :=
  Nat.le_antisymm (left.2 _ _ right.1) (right.2 _ _ left.1)

/-- Where both give a frame, the frames end at the same place exactly when they are alike. -/
theorem end_iff (plain : ∀ s p, m.lead s p = false) {pieces' frames' : List (List α)}
    {p e p' e' n : Nat} (first : m.First true s p e)
    (next : NextFrame m find [] pieces frames rest p' e' n pieces' frames') :
    n = p ↔ Alike m s pieces.flatten (CutAt 0 pieces) := by
  have ends : n = p' := next_end plain next
  subst ends
  constructor
  · intro same
    subst same
    constructor
    · intro p₁ e₁ first₁
      rw [first_unique first₁ first]
      exact ⟨e', seen_iff.mp next.seen⟩
    · intro p₁ e₁ recognised
      exact ⟨n, e, first, next.least p₁ e₁ (seen_iff.mpr recognised)⟩
  · intro alike
    obtain ⟨e₁, recognised⟩ := alike.recognised p e first
    obtain ⟨p₁, e₂, first₁, before⟩ := alike.first n e' (seen_iff.mp next.seen)
    rw [first_unique first₁ first] at before
    exact Nat.le_antisymm (next.least p e₁ (seen_iff.mpr recognised)) before

theorem map_take_inj {s s' : List α} {n k : Nat} (same : s'.map view = s.map view)
    (left : n ≤ s'.length) (right : k ≤ s.length) :
    (s'.take n).map view = (s.take k).map view ↔ n = k := by
  constructor
  · intro equal
    have lengths := congrArg List.length equal
    rw [length_map, length_map, length_take, length_take] at lengths
    omega
  · intro equal
    rw [map_take, map_take, same, equal]

theorem alike_iff {pieces' frames' : List (List α)} {p e n : Nat}
    (next : NextFrame m find [] pieces frames rest p e n pieces' frames') (k : Nat) :
    Alike m ((s.drop n).drop k) (pieces'.flatten.drop k) (fun c => CutAt 0 pieces' (k + c)) ↔
      Alike m (s.drop (n + k)) (pieces.flatten.drop (n + k)) fun c =>
        CutAt 0 pieces (n + k + c) := by
  have same : pieces'.flatten.drop k = pieces.flatten.drop (n + k) := by
    rw [next.flatten_eq, nil_append, drop_drop]
  have cuts (c : Nat) (positive : 0 < c) :
      CutAt 0 pieces' (k + c) ↔ CutAt 0 pieces (n + k + c) := by
    rw [next.cuts (k + c) (by omega), Nat.add_assoc]
    exact Iff.rfl
  rw [same, drop_drop]
  exact ⟨Alike.congr cuts, Alike.congr fun c positive => (cuts c positive).symm⟩

/-- What a reader sees of the frames is the same in pieces as in one piece exactly when every
    frame of the whole stream is alike. -/
theorem frames_alike_iff (finds : m.Finds find) (plain : ∀ s p, m.lead s p = false)
    (same : pieces.flatten.map view = s.map view)
    (delivers : Delivers find [] pieces frames rest) (whole : Delivers find [] [s] uncut rest') :
    frames.map (List.map view) = uncut.map (List.map view) ↔ ∀ k, FrameStart find s k →
      Alike m (s.drop k) (pieces.flatten.drop k) fun c => CutAt 0 pieces (k + c) := by
  obtain ⟨size, length⟩ : ∃ size, s.length = size := ⟨_, rfl⟩
  induction size using Nat.strongRecOn generalizing s pieces frames uncut with
  | _ size ih =>
    have zero : Alike m (s.drop 0) (pieces.flatten.drop 0) (fun c => CutAt 0 pieces (0 + c)) ↔
        Alike m s pieces.flatten (CutAt 0 pieces) := by
      simp only [drop_zero, Nat.zero_add]
    rcases next_uncut finds whole with ⟨rfl, unfound, none⟩ |
      ⟨p, e, uncut', first, found, rfl, whole'⟩
    · -- the whole stream is one unfinished frame
      have only : (∀ k, FrameStart find s k → Alike m (s.drop k) (pieces.flatten.drop k)
          fun c => CutAt 0 pieces (k + c)) ↔ Alike m s pieces.flatten (CutAt 0 pieces) := by
        rw [← zero]
        constructor
        · intro all
          exact all 0 (.first s)
        · intro alike k start
          cases start with
          | first => exact alike
          | next found later =>
            rw [unfound] at found
            cases found
      rw [only]
      rcases next_frame finds delivers with ⟨rfl, unseen⟩ | ⟨p', e', n, pieces', frames', next⟩
      · apply iff_of_true rfl
        constructor
        · intro p e first
          exact absurd first.1 (none p e)
        · intro p e recognised
          exact absurd (seen_iff.mpr recognised) (unseen p e)
      · rw [next.frames_eq]
        apply iff_of_false (by simp)
        intro alike
        obtain ⟨p, e, first, -⟩ := alike.first p' e' (seen_iff.mp next.seen)
        exact none p e first.1
    · rw [start_plain plain] at found whole' ⊢
      have nonempty := m.nonempty first.1.1
      have inside := m.inside first.1.1
      have positive := first.position_pos
      rw [frameStart_iff found, zero]
      rcases next_frame finds delivers with ⟨rfl, unseen⟩ | ⟨p', e', n, pieces', frames', next⟩
      · apply iff_of_false (by simp)
        intro both
        obtain ⟨e₁, recognised⟩ := both.1.recognised p e first
        exact unseen p e₁ (seen_iff.mpr recognised)
      · have taken : (pieces.flatten.take n).map view = (s.take p).map view ↔ n = p :=
          map_take_inj same next.le_length (Nat.le_trans (Nat.le_of_lt nonempty) inside)
        rw [next.frames_eq, nil_append, map_cons, map_cons, List.cons.injEq, taken,
          ← end_iff plain first next]
        apply and_congr_right
        intro ends
        subst ends
        have same' : pieces'.flatten.map view = (s.drop n).map view := by
          rw [next.flatten_eq, nil_append, map_drop, map_drop, same]
        have smaller : (s.drop n).length < size := by
          rw [length_drop]
          omega
        rw [ih _ smaller same' next.after whole' rfl]
        apply forall_congr'
        intro k
        apply imp_congr_right
        intro _
        exact alike_iff next k

end CutContext
