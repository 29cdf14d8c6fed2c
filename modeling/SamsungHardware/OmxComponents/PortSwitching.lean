import SamsungHardware.OmxComponents.ResourceManager

/- `SEC_SetPortEnable` and `SEC_SetPortDisable` of SEC_OMX_Basecomponent.c. For all ports the check
   and the change are in one loop, so that the ports in front of the one that is refused are
   already changed. The counter of the loop has 16 bits and never gets to 65536 ports; `turns` is
   the number of turns that the loop is given. -/
namespace PortSwitching
open ResourceManager Function Option Nat

structure Port where
  bEnabled : Bool
  portState : OmxState
  bIsPortDisabled : Bool
deriving DecidableEq

structure Ports where
  nPorts : Nat
  pSECPort : Nat → Port

abbrev allPortIndex : Int := -1

def switchPorts (refuses : Port → Bool) (change : Port → Port) (nPorts : Nat) :
    Nat → Nat → (Nat → Port) → Option (OmxError × (Nat → Port))
  | 0, _, _ => none
  | turns + 1, i, ports =>
    if i < nPorts then
      if refuses (ports i) then some (incorrectStateOperation, ports)
      else switchPorts refuses change nPorts turns ((i + 1) % 2 ^ 16)
        (update ports i (change (ports i)))
    else some (.errorNone, ports)

def enablePort (port : Port) : Port := { port with portState := .idle }

def disablePort (port : Port) : Port := { port with portState := .loaded, bIsPortDisabled := true }

/-- There is no result when the port index is negative and thus in front of the array. -/
def setPortEnable (turns : Nat) (component : Ports) (nParam : BitVec 32) :
    Option (OmxError × (Nat → Port)) :=
  let ports := component.pSECPort
  let portIndex := nParam.toInt
  if portIndex ≠ allPortIndex ∧ (BitVec.ofNat 32 component.nPorts).toInt ≤ portIndex then
    some (badPortIndex, ports)
  else if portIndex = allPortIndex then
    switchPorts (fun port => port.bEnabled) enablePort component.nPorts turns 0 ports
  else if portIndex < 0 then none
  else
    let i := portIndex.toNat
    if (ports i).bEnabled then some (incorrectStateOperation, ports)
    else some (.errorNone, update ports i (enablePort (ports i)))

/-- A single port is disabled without a look at it. -/
def setPortDisable (turns : Nat) (component : Ports) (nParam : BitVec 32) :
    Option (OmxError × (Nat → Port)) :=
  let ports := component.pSECPort
  let portIndex := nParam.toInt
  if portIndex ≠ allPortIndex ∧ (BitVec.ofNat 32 component.nPorts).toInt ≤ portIndex then
    some (badPortIndex, ports)
  else if portIndex = allPortIndex then
    switchPorts (fun port => !port.bEnabled) disablePort component.nPorts turns 0 ports
  else if portIndex < 0 then none
  else
    let i := portIndex.toNat
    some (.errorNone, update ports i (disablePort (ports i)))

def AllOrNothing (Switched : Port → Prop) (component : Ports)
    (result : OmxError × (Nat → Port)) : Prop :=
  (result.1 ≠ .errorNone → ∀ j < component.nPorts,
    (result.2 j).portState = (component.pSECPort j).portState ∧
      (result.2 j).bIsPortDisabled = (component.pSECPort j).bIsPortDisabled) ∧
  (result.1 = .errorNone → ∀ j < component.nPorts, Switched (result.2 j))

structure FirstRefused (refuses : Port → Bool) (component : Ports) (p : Nat) : Prop where
  inside : p < component.nPorts
  reached : p < 2 ^ 16
  refused : refuses (component.pSECPort p) = true
  accepted : ∀ j < p, refuses (component.pSECPort j) = false

section

variable {refuses : Port → Bool} {change : Port → Port} {nPorts : Nat} {ports : Nat → Port}

def swept (change : Port → Port) (ports : Nat → Port) (k : Nat) : Nat → Port :=
  fun j => if j < k then change (ports j) else ports j

theorem swept_zero : swept change ports 0 = ports := by
  funext j
  simp [swept]

variable {k j : Nat} {result : OmxError × (Nat → Port)}

theorem swept_before (before : j < k) : swept change ports k j = change (ports j) :=
  if_pos before

theorem swept_behind (behind : ¬ j < k) : swept change ports k j = ports j :=
  if_neg behind

theorem swept_next (k : Nat) :
    update (swept change ports k) k (change (swept change ports k k)) =
      swept change ports (k + 1) := by
  funext j
  by_cases here : j = k
  · subst here
    simp [swept]
  · have order : j < k + 1 ↔ j < k := by omega
    simp [swept, here, order]

theorem switchPorts_turns (turns k n : Nat) (inside : k + n ≤ nPorts) (small : k + n < 2 ^ 16)
    (accepted : ∀ j < k + n, refuses (ports j) = false) :
    switchPorts refuses change nPorts (turns + n) k (swept change ports k) =
      switchPorts refuses change nPorts turns (k + n) (swept change ports (k + n)) := by
  induction n generalizing k with
  | zero => rfl
  | succ n ih =>
    have here : swept change ports k k = ports k := swept_behind (Nat.lt_irrefl k)
    have next : (k + 1) % 2 ^ 16 = k + 1 := Nat.mod_eq_of_lt (by omega)
    rw [← Nat.add_assoc turns n 1, switchPorts, if_pos (by omega), here, accepted k (by omega),
      if_neg Bool.false_ne_true, next, ← here, swept_next]
    have rest := ih (k + 1) (by omega) (by omega) fun j before => accepted j (by omega)
    rwa [Nat.add_right_comm, Nat.add_assoc] at rest

theorem switchPorts_start (turns n : Nat) (inside : n ≤ nPorts) (small : n < 2 ^ 16)
    (accepted : ∀ j < n, refuses (ports j) = false) :
    switchPorts refuses change nPorts (turns + n) 0 ports =
      switchPorts refuses change nPorts turns n (swept change ports n) := by
  rw [← Nat.zero_add n] at inside small accepted
  have walk : switchPorts refuses change _ _ 0 (swept change _ 0) = _ :=
    switchPorts_turns turns 0 n inside small accepted
  rwa [swept_zero, Nat.zero_add] at walk

theorem switchPorts_more (turns more i : Nat)
    (returns : switchPorts refuses change nPorts turns i ports = some result) :
    switchPorts refuses change nPorts (turns + more) i ports = some result := by
  induction turns generalizing i ports with
  | zero => cases returns
  | succ turns ih =>
    rw [Nat.add_right_comm, switchPorts]
    rw [switchPorts] at returns
    by_cases inside : i < nPorts
    · rw [if_pos inside] at returns ⊢
      cases refused : refuses (ports i) with
      | true =>
        rw [refused] at returns
        exact returns
      | false =>
        rw [refused] at returns
        exact ih _ returns
    · rw [if_neg inside] at returns ⊢
      exact returns

variable (kept : ∀ port, refuses (change port) = refuses port)
include kept

/-- With more ports than the counter can count and none refused the loop does not end. -/
theorem switchPorts_endless (many : 2 ^ 16 ≤ nPorts) (turns i : Nat) (counter : i < 2 ^ 16)
    (accepted : ∀ j < 2 ^ 16, refuses (ports j) = false) :
    switchPorts refuses change nPorts turns i ports = none := by
  induction turns generalizing i ports with
  | zero => rfl
  | succ turns ih =>
    rw [switchPorts, if_pos (by omega), accepted i counter, if_neg Bool.false_ne_true]
    apply ih _ (mod_lt _ (by decide))
    intro j inside
    by_cases here : j = i
    · rw [here, update_self, kept, accepted i counter]
    · rw [update_of_ne here, accepted j inside]

variable {component : Ports}

omit kept in
theorem switchPorts_refused {p : Nat} (first : FirstRefused refuses component p) (turns : Nat) :
    switchPorts refuses change component.nPorts (turns + 1 + p) 0 component.pSECPort =
      some (incorrectStateOperation, swept change component.pSECPort p) := by
  obtain ⟨inside, reached, refused, accepted⟩ := first
  have here : swept change component.pSECPort p p = component.pSECPort p :=
    swept_behind (lt_irrefl p)
  rw [switchPorts_start _ _ (le_of_lt inside) reached accepted, switchPorts, if_pos inside, here,
    refused, if_pos rfl]

omit kept in
theorem switchPorts_accepted (few : component.nPorts < 2 ^ 16)
    (accepted : ∀ j < component.nPorts, refuses (component.pSECPort j) = false) (turns : Nat) :
    switchPorts refuses change component.nPorts (turns + 1 + component.nPorts) 0
        component.pSECPort =
      some (.errorNone, swept change component.pSECPort component.nPorts) := by
  rw [switchPorts_start _ _ (le_refl _) few accepted, switchPorts, if_neg (lt_irrefl _)]

omit kept in
theorem firstRefused_or (refuses : Port → Bool) (component : Ports) :
    (∃ p, FirstRefused refuses component p) ∨
      ∀ j < component.nPorts, j < 2 ^ 16 → refuses (component.pSECPort j) = false := by
  by_cases some : ∃ p, p < component.nPorts ∧ p < 2 ^ 16 ∧ refuses (component.pSECPort p) = true
  · obtain ⟨inside, reached, refused⟩ := Nat.find_spec some
    refine Or.inl ⟨Nat.find some, inside, reached, refused, fun j before => ?_⟩
    have earlier := Nat.find_min some before
    by_contra other
    exact earlier ⟨by omega, by omega, Bool.of_not_eq_false other⟩
  · right
    intro j inside reached
    by_contra other
    exact some ⟨j, inside, reached, Bool.of_not_eq_false other⟩

theorem switchPorts_cases {turns : Nat}
    (returns : switchPorts refuses change component.nPorts turns 0 component.pSECPort = some result) :
    (∃ p, FirstRefused refuses component p ∧
        result = (incorrectStateOperation, swept change component.pSECPort p)) ∨
      result = (.errorNone, swept change component.pSECPort component.nPorts) := by
  rcases firstRefused_or refuses component with ⟨p, first⟩ | accepted
  · have enough := switchPorts_more turns (1 + p) 0 returns
    rw [← Nat.add_assoc, switchPorts_refused first] at enough
    exact Or.inl ⟨p, first, (some_inj.mp enough).symm⟩
  · by_cases few : component.nPorts < 2 ^ 16
    · have all : ∀ j < component.nPorts, refuses (component.pSECPort j) = false :=
        fun j inside => accepted j inside (by omega)
      have enough := switchPorts_more turns (1 + component.nPorts) 0 returns
      rw [← Nat.add_assoc, switchPorts_accepted few all] at enough
      exact Or.inr (some_inj.mp enough).symm
    · have many := Nat.le_of_not_lt few
      have endless := switchPorts_endless kept many turns 0 (by decide)
        fun j reached => accepted j (Nat.lt_of_lt_of_le reached many) reached
      rw [endless] at returns
      cases returns

/-- The loop is atomic exactly when the ports in front of the refused one already are as it would
    make them. -/
theorem switchPorts_atomic_iff {Switched : Port → Prop} (switches : ∀ port, Switched (change port))
    (settled : ∀ port, (change port).portState = port.portState ∧ (change port).bIsPortDisabled = port.bIsPortDisabled ↔ Switched port) :
    (∀ turns result, switchPorts refuses change component.nPorts turns 0 component.pSECPort =
        some result → AllOrNothing Switched component result) ↔
      ∀ p, FirstRefused refuses component p → ∀ j < p, Switched (component.pSECPort j) := by
  constructor
  · intro atomic p first j before
    have same := (atomic _ _ (switchPorts_refused first 0)).1 (by simp) j
      (lt_trans before first.inside)
    dsimp only at same
    rw [swept_before before] at same
    exact (settled _).mp same
  · intro ready turns result returns
    rcases switchPorts_cases kept returns with ⟨p, first, rfl⟩ | rfl
    · refine ⟨fun _ j inside => ?_, fun fine => by cases fine⟩
      dsimp only
      by_cases before : j < p
      · rw [swept_before before]
        exact (settled _).mpr (ready p first j before)
      · rw [swept_behind before]
        exact ⟨rfl, rfl⟩
    · refine ⟨fun fails => absurd rfl fails, fun _ j inside => ?_⟩
      dsimp only
      rw [swept_before inside]
      exact switches _

end

def allPorts : BitVec 32 := BitVec.ofInt 32 allPortIndex

theorem switchPorts_returns (refuses : Port → Bool) (change : Port → Port) {component : Ports}
    (few : component.nPorts < 2 ^ 16) :
    ∃ turns, (switchPorts refuses change component.nPorts turns 0 component.pSECPort).isSome := by
  rcases firstRefused_or refuses component with ⟨p, first⟩ | accepted
  · exact ⟨_, isSome_of_eq_some (switchPorts_refused first 0)⟩
  · exact ⟨_, isSome_of_eq_some (switchPorts_accepted few
      (fun j inside => accepted j inside (by omega)) 0)⟩

/-- Both commands on all ports are atomic exactly when every port in front of the first one that is
    refused is already in the state the command would give it. With fewer than 65536 ports they
    return. -/
theorem all_ports_atomic_iff (component : Ports) :
    ((∀ turns result, setPortEnable turns component allPorts = some result →
        AllOrNothing (·.portState = .idle) component result) ↔
      ∀ p, FirstRefused (·.bEnabled) component p →
        ∀ j < p, (component.pSECPort j).portState = .idle) ∧
    ((∀ turns result, setPortDisable turns component allPorts = some result →
        AllOrNothing (fun port => port.portState = .loaded ∧ port.bIsPortDisabled = true)
          component result) ↔
      ∀ p, FirstRefused (!·.bEnabled) component p → ∀ j < p,
        (component.pSECPort j).portState = .loaded ∧
          (component.pSECPort j).bIsPortDisabled = true) ∧
    (component.nPorts < 2 ^ 16 → (∃ turns, (setPortEnable turns component allPorts).isSome) ∧
      ∃ turns, (setPortDisable turns component allPorts).isSome) := by
  refine ⟨?_, ?_, fun few => ⟨switchPorts_returns _ _ few, switchPorts_returns _ _ few⟩⟩
  · refine switchPorts_atomic_iff ?_ ?_ fun port => ?_
    · exact fun _ => rfl
    · exact fun _ => rfl
    · exact ⟨fun same => same.1.symm, fun idle => ⟨idle.symm, rfl⟩⟩
  · refine switchPorts_atomic_iff ?_ ?_ fun port => ?_
    · exact fun _ => rfl
    · exact fun _ => ⟨rfl, rfl⟩
    · exact ⟨fun same => ⟨same.1.symm, same.2.symm⟩, fun set => ⟨set.1.symm, set.2.symm⟩⟩

/-- Two ports of which only the second is refused: the first one is changed all the same. -/
theorem first_port_changed :
    ¬ (∀ turns result,
      setPortEnable turns ⟨2, fun j => ⟨j = 1, .loaded, j = 0⟩⟩ allPorts = some result →
        AllOrNothing (·.portState = .idle) ⟨2, fun j => ⟨j = 1, .loaded, j = 0⟩⟩ result) ∧
    ¬ (∀ turns result,
      setPortDisable turns ⟨2, fun j => ⟨j = 0, .idle, j = 1⟩⟩ allPorts = some result →
        AllOrNothing (fun port => port.portState = .loaded ∧ port.bIsPortDisabled = true)
          ⟨2, fun j => ⟨j = 0, .idle, j = 1⟩⟩ result) := by
  constructor
  · intro atomic
    have same := ((atomic 2 _ rfl).1 (by decide) 0 (by decide)).1
    cases same
  · intro atomic
    have same := ((atomic 2 _ rfl).1 (by decide) 0 (by decide)).1
    cases same

end PortSwitching
