import Mathlib

/- Votes of named voters and a set of them kept highest first. The set may hold the lowest vote more
   often than it was cast; its first element is still the highest vote. -/
namespace VoteSets
open List Function

section

variable {Voter Vote : Type} [DecidableEq Voter] {voters : List Voter}
  {vote : Voter → Option Vote} {v : Voter}

def votes (voters : List Voter) (vote : Voter → Option Vote) : List Vote := voters.filterMap vote

omit [DecidableEq Voter] in
theorem mem_votes {x : Vote} : x ∈ votes voters vote ↔ ∃ v ∈ voters, vote v = some x :=
  mem_filterMap

theorem votes_split (member : v ∈ voters) :
    (votes voters vote).Perm ((vote v).toList ++ votes (voters.erase v) vote) := by
  have apart := (perm_cons_erase member).filterMap vote
  cases cast : vote v with
  | none =>
    rw [filterMap_cons_none cast] at apart
    exact apart
  | some x =>
    rw [filterMap_cons_some cast] at apart
    exact apart

theorem votes_update (nodup : voters.Nodup) (member : v ∈ voters) (x : Option Vote) :
    (votes voters (update vote v x)).Perm
      (x.toList ++ votes (voters.erase v) vote) := by
  have others : votes (voters.erase v) (update vote v x) = votes (voters.erase v) vote := by
    apply filterMap_congr
    intro other remains
    apply update_of_ne
    rintro rfl
    exact nodup.not_mem_erase remains
  have split : (votes voters (update vote v x)).Perm _ := votes_split member
  rw [update_self, others] at split
  exact split

end

variable {Vote : Type} [LinearOrder Vote] {lowest : Vote} {cast set : List Vote}

def Descending (set : List Vote) : Prop := set.Pairwise (· ≥ ·)

def insert (x : Vote) (set : List Vote) : List Vote := set.orderedInsert (· ≥ ·) x

structure Counts (lowest : Vote) (cast set : List Vote) : Prop where
  descending : Descending set
  holds : ∃ extra, set.Perm (cast ++ List.replicate extra lowest)

theorem descending_insert (descending : Descending set) (x : Vote) : Descending (insert x set) :=
  descending.orderedInsert x set

theorem insert_perm (x : Vote) (set : List Vote) : (insert x set).Perm (x :: set) :=
  perm_orderedInsert _ x set

theorem insert_ne_nil (x : Vote) (set : List Vote) : insert x set ≠ [] := by
  intro empty
  have perm := insert_perm x set
  rw [empty] at perm
  exact cons_ne_nil x set perm.symm.eq_nil

theorem Counts.congr {cast' : List Vote} (counts : Counts lowest cast set)
    (same : cast.Perm cast') : Counts lowest cast' set := by
  obtain ⟨extra, perm⟩ := counts.holds
  exact ⟨counts.descending, extra, perm.trans (same.append_right _)⟩

theorem Counts.empty : Counts lowest ([] : List Vote) [] :=
  ⟨List.Pairwise.nil, 0, List.Perm.refl _⟩

theorem Counts.spare (counts : Counts lowest cast set) : Counts lowest cast (insert lowest set) := by
  obtain ⟨extra, perm⟩ := counts.holds
  refine ⟨descending_insert counts.descending lowest, extra + 1, ?_⟩
  exact (insert_perm lowest set).trans ((perm.cons lowest).trans perm_middle.symm)

theorem Counts.vote (counts : Counts lowest cast set) (x : Vote) :
    Counts lowest (x :: cast) (insert x set) := by
  obtain ⟨extra, perm⟩ := counts.holds
  exact ⟨descending_insert counts.descending x, extra, (insert_perm x set).trans (perm.cons x)⟩

theorem Counts.withdraw {x : Vote} (counts : Counts lowest (x :: cast) set) :
    Counts lowest cast (set.erase x) := by
  obtain ⟨extra, perm⟩ := counts.holds
  refine ⟨counts.descending.sublist erase_sublist, extra, ?_⟩
  have less := perm.erase x
  rw [cons_append, erase_cons_head] at less
  exact less

theorem Counts.mem {x : Vote} (counts : Counts lowest cast set) (member : x ∈ cast) : x ∈ set := by
  obtain ⟨extra, perm⟩ := counts.holds
  exact perm.mem_iff.mpr (mem_append_left _ member)

theorem Counts.first {x : Vote} {rest : List Vote} (counts : Counts lowest cast (x :: rest))
    (above : ∀ y ∈ cast, lowest ≤ y) (some_vote : cast ≠ []) :
    x ∈ cast ∧ ∀ y ∈ cast, y ≤ x := by
  have highest : ∀ y ∈ cast, y ≤ x := by
    intro y member
    rcases mem_cons.mp (counts.mem member) with rfl | later
    · exact le_refl y
    · exact (pairwise_cons.mp counts.descending).1 y later
  refine ⟨?_, highest⟩
  obtain ⟨extra, perm⟩ := counts.holds
  rcases mem_append.mp (perm.mem_iff.mp mem_cons_self) with member | spare
  · exact member
  · have low := eq_of_mem_replicate spare
    obtain ⟨y, member⟩ := exists_mem_of_ne_nil cast some_vote
    have same : y = x := le_antisymm (highest y member) (low ▸ above y member)
    exact same ▸ member

end VoteSets
