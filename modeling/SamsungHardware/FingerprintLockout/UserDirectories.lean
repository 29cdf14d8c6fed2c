import Mathlib

/- The directory of fingerprint templates that a new session in Session.cpp passes to the sensor
   library together with its user id. -/
namespace UserDirectories

def directory (n : Int) : List Char := ("/data/vendor_de/" ++ toString n ++ "/fpdata/").toList

/-- What `snprintf` leaves in the 64 bytes of the buffer. Its format asks for a number and none is
    passed: `argument` is what is found in its place. -/
def filename (argument : Int32) : List Char := (directory argument.toInt).take 63

structure Session where
  (userId argument : Int32)

def Session.activeGroup (session : Session) : Int32 × List Char :=
  (session.userId, filename session.argument)

theorem toString_length (n : Int) : (toString n).length ≤ n.natAbs.repr.length + 1 := by
  cases n with
  | ofNat n => exact Nat.le_succ _
  | negSucc n =>
    change ("-" ++ (n + 1).repr).length ≤ _
    rw [String.length_append, Nat.add_comm]
    exact Nat.le_refl _

theorem filename_eq (argument : Int32) : filename argument = directory argument.toInt := by
  have low := argument.le_toInt
  have high := argument.toInt_lt
  have digits : argument.toInt.natAbs.repr.length ≤ 10 :=
    (Nat.length_repr_le_iff (by decide)).mpr (by omega)
  have length := toString_length argument.toInt
  apply List.take_of_length_le
  simp only [directory, String.length_toList, String.length_append,
    show "/data/vendor_de/".length = 16 by decide, show "/fpdata/".length = 8 by decide]
  omega

theorem directory_injective {m n : Int} (same : directory m = directory n) : m = n :=
  Int.repr_injective
    ((String.append_right_inj _).mp ((String.append_left_inj _).mp (String.toList_inj.mp same)))

theorem Session.own_directory_iff (session : Session) :
    session.activeGroup.2 = directory session.userId.toInt ↔ session.argument = session.userId := by
  rw [activeGroup, filename_eq, ← Int32.toInt_inj]
  exact ⟨directory_injective, congrArg directory⟩

theorem directories_isolated_iff (first second : Session) :
    (first.activeGroup.2 = directory first.userId.toInt ∧
      second.activeGroup.2 = directory second.userId.toInt ∧
      (first.userId ≠ second.userId → first.activeGroup.2 ≠ second.activeGroup.2)) ↔
    first.argument = first.userId ∧ second.argument = second.userId := by
  rw [← first.own_directory_iff, ← second.own_directory_iff]
  constructor
  · rintro ⟨named, named', _⟩
    exact ⟨named, named'⟩
  · rintro ⟨named, named'⟩
    refine ⟨named, named', ?_⟩
    intro differ same
    rw [named, named'] at same
    exact differ (Int32.toInt_inj.mp (directory_injective same))

theorem directory_shared : (Session.mk 0 10).activeGroup = (0, directory 10) ∧
    (Session.mk 11 10).activeGroup = (11, directory 10) := by
  decide

end UserDirectories
