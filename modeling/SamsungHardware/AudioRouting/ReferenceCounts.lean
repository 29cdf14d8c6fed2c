import SamsungHardware.Library.NamedSums
import SamsungHardware.Library.StepRuns
import SamsungHardware.AudioRouting.UsecaseRouting

/- Reference counts of the sound devices against the use case list. While `select_devices` works on
   a use case, its share of the counts differs from the devices it names; all other use cases are
   counted by the devices they name. -/
namespace ReferenceCounts
open SoundDevices UsecaseRouting NamedSums StepRuns List Function

def one (x d : SndDevice) : Int := if x = d then 1 else 0

def share (x d : SndDevice) : Int :=
  if x = .out .speakerAndHeadphones then one (.out .speaker) d + one (.out .headphones) d
  else one x d

variable (d : SndDevice)

def Single : Prop := d ≠ .none ∧ d ≠ .out .speakerAndHeadphones

theorem one_nonneg (x d : SndDevice) : 0 ≤ one x d := by
  unfold one
  split <;> decide

theorem share_nonneg (x d : SndDevice) : 0 ≤ share x d := by
  unfold share
  split
  · exact Int.add_nonneg (one_nonneg _ d) (one_nonneg _ d)
  · exact one_nonneg x d

theorem share_none {d : SndDevice} (single : Single d) : share .none d = 0 := by
  rw [share, if_neg (by decide), one, if_neg fun same => single.1 same.symm]

theorem countUp_at (cnt : RefCnt) (x d : SndDevice) : countUp cnt x d = cnt d + one x d := by
  unfold countUp one
  by_cases same : x = d
  · rw [same, update_self, if_pos rfl]
  · rw [update_of_ne (Ne.symm same), if_neg same, Int.add_zero]

theorem countDown_at {cnt : RefCnt} {x d : SndDevice} (enough : one x d ≤ cnt d) :
    countDown cnt x d = cnt d - one x d := by
  unfold countDown
  unfold one at enough ⊢
  by_cases same : x = d
  · rw [if_pos same] at enough
    rw [same, if_neg (by omega), update_self, if_pos rfl]
  · rw [if_neg same, Int.sub_zero]
    split
    · rfl
    · exact update_of_ne (Ne.symm same) _ _

theorem enable_at (cnt : RefCnt) (x d : SndDevice) :
    enableSndDevice cnt x d = cnt d + share x d := by
  unfold enableSndDevice share
  split
  · rw [countUp_at, countUp_at, Int.add_assoc]
  · exact countUp_at cnt x d

theorem disable_at {cnt : RefCnt} {x d : SndDevice} (enough : share x d ≤ cnt d) :
    disableSndDevice cnt x d = cnt d - share x d := by
  unfold disableSndDevice
  unfold share at enough ⊢
  by_cases combined : x = .out .speakerAndHeadphones
  · rw [if_pos combined] at enough ⊢
    have headphones := one_nonneg (.out .headphones) d
    have first : countDown cnt (.out .speaker) d = cnt d - one (.out .speaker) d :=
      countDown_at (by omega)
    rw [if_pos combined, countDown_at (by omega)]
    omega
  · rw [if_neg combined] at enough ⊢
    rw [if_neg combined]
    exact countDown_at enough

def holds (uc : Usecase) : Int :=
  share (.ofOut uc.outSndDevice) d + share (.ofIn uc.inSndDevice) d

theorem holds_nonneg (uc : Usecase) : 0 ≤ holds d uc :=
  Int.add_nonneg (share_nonneg _ d) (share_nonneg _ d)

theorem holds_idle {d : SndDevice} (single : Single d) (kind : UsecaseKind) (devices : Mask) :
    holds d ⟨kind, devices, none, none⟩ = 0 := by
  change share .none d + share .none d = 0
  rw [share_none single]
  rfl

theorem holds_move (t : Target) (uc : Usecase) :
    holds d (t.move uc) = holds d uc - share (t.current uc) d + share t.sndDevice d := by
  cases t with
  | playback out =>
    change share (.out out) d + share (.ofIn uc.inSndDevice) d =
      share (.ofOut uc.outSndDevice) d + share (.ofIn uc.inSndDevice) d -
        share (.ofOut uc.outSndDevice) d + share (.out out) d
    omega
  | capture inp =>
    change share (.ofOut uc.outSndDevice) d + share (.inp inp) d =
      share (.ofOut uc.outSndDevice) d + share (.ofIn uc.inSndDevice) d -
        share (.ofIn uc.inSndDevice) d + share (.inp inp) d
    omega

theorem share_current_le (t : Target) (uc : Usecase) : share (t.current uc) d ≤ holds d uc := by
  have out := share_nonneg (.ofOut uc.outSndDevice) d
  have inp := share_nonneg (.ofIn uc.inSndDevice) d
  cases t with
  | playback _ => exact Int.le_add_of_nonneg_right inp
  | capture _ => exact Int.le_add_of_nonneg_left out

variable {d : SndDevice} {uc : Usecase} {i : Nat} {adev : AudioDevice}

section

variable {n : UsecaseId} {s : Int}

def holdsBut (d : SndDevice) (n : UsecaseId) (s : Int) : Usecase → Int :=
  instead Usecase.id n s (holds d)

theorem holdsBut_nonneg (some : 0 ≤ s) (uc : Usecase) : 0 ≤ holdsBut d n s uc :=
  instead_nonneg some (holds_nonneg d) uc

variable {list : List Usecase} {out : Option OutDevice} {inp : Option InDevice}

theorem holdsBut_other (other : uc.id ≠ n) : holdsBut d n s uc = holds d uc :=
  instead_other other

theorem move_id (t : Target) (uc : Usecase) : (t.move uc).id = uc.id :=
  congrArg UsecaseKind.id (t.move_kind uc)

/-- Moving use cases other than `n` keeps the balance; `rest` is held elsewhere. -/
theorem switchAll_counts {switch : UsecaseId → Bool} {t : Target} (unmarked : switch n = false)
    (some : 0 ≤ s) (list : List Usecase) :
    ∀ cnt rest, 0 ≤ rest → cnt d = total (holdsBut d n s) list + rest →
      (switchAll switch t list cnt).2 d =
        total (holdsBut d n s) (switchAll switch t list cnt).1 + rest := by
  induction list with
  | nil =>
    intro cnt rest _ counted
    exact counted
  | cons uc list ih =>
    intro cnt rest nonneg counted
    have here := holdsBut_nonneg (d := d) (n := n) some uc
    have later := total_nonneg (holdsBut_nonneg (d := d) (n := n) some) list
    rw [total_cons] at counted
    rw [switchAll]
    by_cases marked : switch uc.id = true
    · have other : uc.id ≠ n := by
        intro same
        rw [same, unmarked] at marked
        cases marked
      have enough : share (t.current uc) d ≤ cnt d := by
        have bound := share_current_le d t uc
        rw [holdsBut_other other] at counted
        omega
      have moved : holdsBut d n s (t.move uc) = _ :=
        holdsBut_other ((move_id t uc).symm ▸ other)
      have nonneg' := holds_nonneg d (t.move uc)
      rw [if_pos marked]
      rw [total_cons, ih _ (rest + holds d (t.move uc)) (by omega)]
      · omega
      · rw [enable_at, disable_at enough, holds_move, counted, holdsBut_other other]
        omega
    · rw [if_neg marked]
      rw [total_cons, ih cnt (rest + holdsBut d n s uc) (by omega) (by omega)]
      omega

def ids (list : List Usecase) : List UsecaseId := list.map Usecase.id

theorem ids_of_kinds {list list' : List Usecase} (same : kinds list' = kinds list) :
    ids list' = ids list := by
  have names := congrArg (map UsecaseKind.id) same
  rw [kinds, kinds, map_map, map_map] at names
  exact names

theorem ids_get (here : list[i]? = some uc) :
    uc.id ∈ ids list := mem_map.mpr ⟨uc, mem_of_getElem? here, rfl⟩

theorem switchDevice_self (distinct : (ids list).Nodup) (here : list[i]? = some uc) (t : Target) :
    switchDevice list i t uc.id = false := by
  rw [Bool.eq_false_iff, Ne, switchDevice_iff]
  intro marked
  obtain ⟨j, uc', there, same, _, other, _⟩ := marked
  have first : (ids list)[i]? = some uc.id := by
    rw [ids, getElem?_map, here]
    rfl
  have second : (ids list)[j]? = some uc.id := by
    rw [ids, List.getElem?_map, there, ← same]
    rfl
  have inside : j < (ids list).length := (List.getElem?_eq_some_iff.mp second).1
  exact other ((List.getElem?_inj inside distinct).mp (second.trans first.symm))

/-- The counts of `d` are those of the list, with `s` for the use case `n` at place `i`. -/
structure Working (d : SndDevice) (i : Nat) (n : UsecaseId) (s : Int) (adev : AudioDevice) :
    Prop where
  distinct : (ids adev.usecaseList).Nodup
  place : ∃ uc, adev.usecaseList[i]? = some uc ∧ uc.id = n
  nonneg : 0 ≤ s
  owed : adev.sndDevRefCnt d = total (holdsBut d n s) adev.usecaseList

theorem Working.routeTo (working : Working d i n s adev) (t : Target) :
    Working d i n (s + share t.sndDevice d) (adev.routeTo i t) := by
  obtain ⟨distinct, ⟨uc, here, rfl⟩, nonneg, owed⟩ := working
  have same := ids_of_kinds (routeTo_kinds adev i t)
  obtain ⟨uc', here', kind⟩ := kinds_get (routeTo_kinds adev i t) here
  have distinct' : (ids (adev.routeTo i t).usecaseList).Nodup := by rw [same]; exact distinct
  have present : uc.id ∈ ids (adev.routeTo i t).usecaseList := by rw [same]; exact ids_get here
  refine ⟨distinct', ⟨uc', here', congrArg UsecaseKind.id kind⟩,
    Int.add_nonneg nonneg (share_nonneg _ d), ?_⟩
  have moved := switchAll_counts (t := t) (switchDevice_self distinct here t) nonneg
    adev.usecaseList adev.sndDevRefCnt 0 (Int.le_refl 0) (by rw [Int.add_zero]; exact owed)
  have added : total (holdsBut d uc.id (s + share t.sndDevice d)) (adev.routeTo i t).usecaseList =
      total (holdsBut d uc.id s) (adev.routeTo i t).usecaseList + share t.sndDevice d :=
    total_instead_add distinct' present s _
  rw [Int.add_zero] at moved
  change enableSndDevice _ _ _ = _
  rw [added, enable_at]
  exact congrArg (· + share t.sndDevice d) moved

def optionalShare (d : SndDevice) : Option Target → Int
  | none => 0
  | some t => share t.sndDevice d

theorem Working.routeIf (working : Working d i n s adev) (target : Option Target) :
    Working d i n (s + optionalShare d target) (adev.routeIf i target) := by
  cases target with
  | none =>
    rw [optionalShare, Int.add_zero]
    exact working
  | some t => exact working.routeTo t

theorem Working.assign (working : Working d i n s adev)
    (held : s = share (.ofOut out) d + share (.ofIn inp) d) :
    (adev.assign i out inp).sndDevRefCnt d = total (holds d) (adev.assign i out inp).usecaseList := by
  obtain ⟨distinct, ⟨uc, here, rfl⟩, _, owed⟩ := working
  have changed : total (holds d) (adev.assign i out inp).usecaseList = _ :=
    total_modify distinct here
  rw [changed]
  change adev.sndDevRefCnt d = total (holdsBut d uc.id (share (.ofOut out) d + _)) _
  rw [owed, held]

theorem disableOut_at (single : Single d) (enough : share (.ofOut out) d ≤ adev.sndDevRefCnt d) :
    (if out ≠ none then adev.disable (.ofOut out) else adev).sndDevRefCnt d =
      adev.sndDevRefCnt d - share (.ofOut out) d := by
  cases out with
  | none => exact (share_none single ▸ Int.sub_zero _).symm
  | some o =>
    exact disable_at enough

theorem disableIn_at (single : Single d) (enough : share (.ofIn inp) d ≤ adev.sndDevRefCnt d) :
    (if inp ≠ none then adev.disable (.ofIn inp) else adev).sndDevRefCnt d =
      adev.sndDevRefCnt d - share (.ofIn inp) d := by
  cases inp with
  | none => exact (share_none single ▸ Int.sub_zero _).symm
  | some o =>
    exact disable_at enough

theorem giveUp_at (single : Single d) (enough : holds d uc ≤ adev.sndDevRefCnt d) :
    (adev.giveUp uc).sndDevRefCnt d = adev.sndDevRefCnt d - holds d uc := by
  have inp := share_nonneg (.ofIn uc.inSndDevice) d
  unfold holds at enough ⊢
  have first : (if uc.outSndDevice ≠ none then adev.disable (.ofOut uc.outSndDevice)
      else adev).sndDevRefCnt d = _ := disableOut_at single (by omega)
  rw [AudioDevice.giveUp, disableIn_at single (by omega)]
  omega

end

def OneSided (uc : Usecase) : Prop :=
  (uc.type = .pcmPlayback → uc.inSndDevice = none) ∧
    (uc.type = .pcmCapture → uc.outSndDevice = none)

structure Sound (adev : AudioDevice) : Prop where
  distinct : (ids adev.usecaseList).Nodup
  oneSided : ∀ uc ∈ adev.usecaseList, OneSided uc
  counted : ∀ d, Single d → adev.sndDevRefCnt d = total (holds d) adev.usecaseList

section

variable {misread : StreamOut → InputFields × UsecaseId}

theorem type_of_id {uc uc' : Usecase} (same : uc.id = uc'.id) : uc.type = uc'.type := by
  obtain ⟨kind, _, _, _⟩ := uc
  obtain ⟨kind', _, _, _⟩ := uc'
  cases kind <;> cases kind' <;> first | rfl | cases same

theorem OneSided.move {t : Target} (oneSided : OneSided uc) (type : uc.type = t.type) :
    OneSided (t.move uc) := by
  obtain ⟨plays, records⟩ := oneSided
  cases t with
  | playback d =>
    refine ⟨plays, fun capture => ?_⟩
    have other := type.symm.trans capture
    cases other
  | capture d =>
    refine ⟨fun playback => ?_, records⟩
    have other := type.symm.trans playback
    cases other

theorem routeIf_oneSided (oneSided : ∀ uc ∈ adev.usecaseList, OneSided uc)
    (target : Option Target) : ∀ uc ∈ (adev.routeIf i target).usecaseList, OneSided uc := by
  cases target with
  | none => exact oneSided
  | some t =>
    intro uc member
    change uc ∈ (switchAll _ t adev.usecaseList _).1 at member
    rw [switchAll_list, mem_map] at member
    obtain ⟨old, present, rfl⟩ := member
    split
    · rename_i marked
      obtain ⟨_, uc', _, same, type, _⟩ := switchDevice_iff.mp marked
      exact (oneSided old present).move ((type_of_id same.symm).trans type)
    · exact oneSided old present

variable {out : Option OutDevice} {inp : Option InDevice} {adev' : AudioDevice} {stack : Nat}
  (sound : Sound adev)
include sound

section
variable (here : adev.usecaseList[i]? = some uc)
include here

theorem giveUp_working (single : Single d) : Working d i uc.id 0 (adev.giveUp uc) := by
  obtain ⟨distinct, _, counted⟩ := sound
  have whole := counted d single
  have enough := le_total (holds_nonneg d) here
  have split : total (holdsBut d uc.id (0 + holds d uc)) adev.usecaseList =
      total (holdsBut d uc.id 0) adev.usecaseList + holds d uc :=
    total_instead_add distinct (ids_get here) 0 _
  have self : total (holdsBut d uc.id (holds d uc)) adev.usecaseList =
      total (holds d) adev.usecaseList := total_instead_self distinct here
  rw [Int.zero_add] at split
  constructor
  · rw [giveUp_list]
    exact distinct
  · rw [giveUp_list]
    exact ⟨uc, here, rfl⟩
  · exact Int.le_refl 0
  · rw [giveUp_list, giveUp_at single (whole.symm ▸ enough)]
    omega

section
variable (plays : uc.type = .pcmPlayback → inp = none)
include plays

variable (records : uc.type = .pcmCapture → out = none)
include records

theorem reroute_oneSided : ∀ uc' ∈ (reroute adev i uc out inp).usecaseList, OneSided uc' := by
  have given : ∀ uc' ∈ (adev.giveUp uc).usecaseList, OneSided uc' := by
    rw [giveUp_list]
    exact sound.oneSided
  have played := routeIf_oneSided (i := i) given (out.map .playback)
  have routed := routeIf_oneSided (i := i) played (inp.map .capture)
  refine forall_modify routed ?_
  intro uc' there
  have same : kinds _ = kinds adev.usecaseList :=
    (routeIf_kinds _ i (inp.map .capture)).trans
      ((routeIf_kinds (adev.giveUp uc) i (out.map .playback)).trans
        (congrArg kinds (giveUp_list adev uc)))
  obtain ⟨uc'', there', kind⟩ := kinds_get same here
  have found : uc' = uc'' := Option.some_inj.mp (there.symm.trans there')
  have type : uc'.type = uc.type := by
    rw [found]
    exact congrArg UsecaseKind.type kind
  exact ⟨fun playback => plays (type.symm.trans playback),
    fun capture => records (type.symm.trans capture)⟩

theorem reroute_sound : Sound (reroute adev i uc out inp) := by
  constructor
  · rw [ids_of_kinds (reroute_kinds adev i uc out inp)]
    exact sound.distinct
  · exact reroute_oneSided sound here plays records
  · intro d single
    have none := share_none single
    have played := (giveUp_working sound here single).routeIf (out.map .playback)
    have routed := played.routeIf (inp.map .capture)
    refine routed.assign ?_
    rw [Int.zero_add]
    congr 1
    · cases out with
      | none => exact none.symm
      | some o => rfl
    · cases inp with
      | none => exact none.symm
      | some o => rfl

theorem switchDevices_sound : Sound (switchDevices adev i out inp) := by
  unfold switchDevices
  rw [here]
  dsimp only
  split
  · exact sound
  · exact reroute_sound sound here plays records

end

omit here in
theorem setDevices_sound (i : Nat) (devices : Mask) : Sound (adev.setDevices i devices) := by
  constructor
  · rw [ids_of_kinds (setDevices_kinds adev i devices)]
    exact sound.distinct
  · refine forall_modify sound.oneSided ?_
    intro uc here
    exact sound.oneSided uc (mem_of_getElem? here)
  · intro d single
    have same : total (holds d) (adev.setDevices i devices).usecaseList = _ :=
      total_modify_same (fun _ => by rfl) adev.usecaseList i
    rw [same]
    exact sound.counted d single

omit here in
theorem selectDevices_sound {depth : Nat} {id : UsecaseId}
    (selected : selectDevices misread depth adev id = some adev') : Sound adev' := by
  refine (selectDevices_keeps (P := Sound) ?_ ?_ ?_ depth adev id adev' selected sound).1
  · intro adev i devices sound
    exact setDevices_sound sound i devices
  · intro adev session sound
    exact { sound with }
  · intro adev i uc out inp here plays records sound
    exact switchDevices_sound sound here plays records

omit here in
theorem add_sound (kind : UsecaseKind) (absent : kind.id ∉ ids adev.usecaseList) (devices : Mask) :
    Sound (adev.add ⟨kind, devices, none, none⟩) := by
  constructor
  · change (map _ (adev.usecaseList ++ [_])).Nodup
    rw [map_append]
    refine nodup_append.mpr ⟨sound.distinct, by simp, ?_⟩
    intro a old b new same
    rw [map_singleton, mem_singleton] at new
    rw [same, new] at old
    exact absent old
  · intro uc member
    rcases mem_append.mp member with old | new
    · exact sound.oneSided uc old
    · rw [mem_singleton.mp new]
      exact ⟨fun _ => rfl, fun _ => rfl⟩
  · intro d single
    have idle := holds_idle single kind devices
    change adev.sndDevRefCnt d = total (holds d) (adev.usecaseList ++ [_])
    rw [total_append, total_cons, total_nil, sound.counted d single]
    omega

theorem remove_sound (list : adev'.usecaseList = adev.usecaseList.eraseIdx i)
    (given : ∀ d, Single d → adev'.sndDevRefCnt d = adev.sndDevRefCnt d - holds d uc) :
    Sound adev' := by
  constructor
  · rw [list, ids, ← eraseIdx_map]
    exact sound.distinct.sublist (eraseIdx_sublist _ i)
  · rw [list]
    intro other member
    exact sound.oneSided other (mem_of_mem_eraseIdx member)
  · intro d single
    rw [list, total_eraseIdx here, given d single, sound.counted d single]

theorem disable_sound (single : Single d) {x y : SndDevice}
    (both : holds d uc = share x d + share y d) :
    disableSndDevice (disableSndDevice adev.sndDevRefCnt x) y d =
      adev.sndDevRefCnt d - holds d uc := by
  have second := share_nonneg y d
  have enough := le_total (holds_nonneg d) here
  rw [← sound.counted d single] at enough
  have one : disableSndDevice adev.sndDevRefCnt x d = _ := disable_at (by omega)
  rw [disable_at (by omega)]
  omega

theorem disable_one_sound (single : Single d) {x : SndDevice} (only : holds d uc = share x d) :
    disableSndDevice adev.sndDevRefCnt x d = adev.sndDevRefCnt d - holds d uc := by
  have enough := le_total (holds_nonneg d) here
  rw [← sound.counted d single] at enough
  rw [disable_at (by omega), only]

end

theorem disableOutputPath_sound (r : OutRef) : Sound (disableOutputPath adev r) := by
  unfold disableOutputPath
  cases place : indexOf adev.usecaseList (.playback (adev.outs r).usecase) with
  | none => exact sound
  | some i =>
    obtain ⟨uc, here, id⟩ := indexOf_some place
    have type : uc.type = .pcmPlayback := by
      obtain ⟨kind, _, _, _⟩ := uc
      cases kind with
      | playback _ _ => rfl
      | capture _ => cases id
      | voiceCall _ => cases id
    have idle := (sound.oneSided uc (mem_of_getElem? here)).1 type
    dsimp only
    rw [here]
    dsimp only
    refine remove_sound sound here ?_ ?_
    · cases uc.kind <;> rfl
    · intro d single
      have only : holds d uc = share (.ofOut uc.outSndDevice) d := by
        rw [holds, idle]
        exact (congrArg (share _ d + ·) (share_none single)).trans (Int.add_zero _)
      have counts := disable_one_sound sound here single only
      cases uc.kind <;> exact counts

theorem stopInputStream_sound : Sound (stopInputStream adev) := by
  unfold stopInputStream
  cases place : indexOf adev.usecaseList .audioCapture with
  | none => exact sound
  | some i =>
    obtain ⟨uc, here, id⟩ := indexOf_some place
    have type : uc.type = .pcmCapture := by
      obtain ⟨kind, _, _, _⟩ := uc
      cases kind with
      | playback _ _ => cases id
      | capture _ => rfl
      | voiceCall _ => cases id
    have idle := (sound.oneSided uc (mem_of_getElem? here)).2 type
    dsimp only
    rw [here]
    refine remove_sound sound here rfl ?_
    intro d single
    have only : holds d uc = share (.ofIn uc.inSndDevice) d := by
      rw [holds, idle]
      exact (congrArg (· + share _ d) (share_none single)).trans (Int.zero_add _)
    exact disable_one_sound sound here single only

theorem enableOutputPath_sound {r : OutRef} {calloc callocPcm : Bool}
    (absent : .playback (adev.outs r).usecase ∉ ids adev.usecaseList) {result : AudioDevice × Bool}
    (done : enableOutputPath misread stack adev r calloc callocPcm = some result) :
    Sound result.1 := by
  cases calloc with
  | false =>
    cases done
    exact sound
  | true =>
    obtain ⟨selected, run, rfl⟩ := Option.map_eq_some_iff.mp done
    have chosen : Sound (adev.setOut r
        { adev.outs r with pcmDevList := ucSelectPcmDevices (adev.outs r).devices callocPcm }) :=
      { sound with }
    exact selectDevices_sound (add_sound chosen (.playback _ r) absent _) run

theorem startInputStream_sound {r : InRef} {calloc callocPcm ready : Bool}
    (absent : .audioCapture ∉ ids adev.usecaseList)
    (done : startInputStream misread stack adev r calloc callocPcm ready = some adev') :
    Sound adev' := by
  unfold startInputStream at done
  dsimp only at done
  split at done
  · cases done
    exact sound
  · obtain ⟨selected, run, rfl⟩ := Option.map_eq_some_iff.mp done
    have routed := selectDevices_sound (add_sound sound (.capture r) absent _) run
    cases ready with
    | false => exact stopInputStream_sound routed
    | true => exact routed

theorem startVoiceCall_sound {calloc : Bool} (absent : .voiceCall ∉ ids adev.usecaseList)
    (done : startVoiceCall misread stack adev calloc = some adev') : Sound adev' := by
  unfold startVoiceCall at done
  cases calloc with
  | false =>
    cases done
    exact sound
  | true =>
    rw [if_neg (by simp)] at done
    have calling : Sound { adev with inCall := true } := { sound with }
    split at done
    · cases done
    · exact selectDevices_sound (add_sound calling (.voiceCall _) absent _) done

theorem stopVoiceCall_sound : Sound (stopVoiceCall adev) := by
  have ended : Sound { adev with inCall := false } := { sound with }
  unfold stopVoiceCall
  dsimp only
  cases place : indexOf adev.usecaseList .voiceCall with
  | none => exact ended
  | some i =>
    obtain ⟨uc, here, _⟩ := indexOf_some place
    dsimp only
    rw [here]
    refine remove_sound ended here rfl ?_
    intro d single
    exact disable_sound ended here single rfl

end

/-- The calls that are made under the lock of the audio device. The flags say whether allocations
    and the opening of a PCM device succeed; in between other functions change streams, the mode
    and the primary output. -/
inductive Call where
  | enableOutputPath (out : OutRef) (calloc callocPcm : Bool)
  | disableOutputPath (out : OutRef)
  | startInputStream (input : InRef) (calloc callocPcm ready : Bool)
  | stopInputStream
  | startVoiceCall (calloc : Bool)
  | stopVoiceCall
  | selectDevices (id : UsecaseId)
  | others (session : Session) (primaryOutput : Option OutRef) (outs : OutRef → StreamOut)
      (ins : InRef → StreamIn)

section

variable (misread : StreamOut → InputFields × UsecaseId) (stack : Nat)

def step (adev : AudioDevice) : Call → Option AudioDevice
  | .enableOutputPath out calloc callocPcm =>
    (enableOutputPath misread stack adev out calloc callocPcm).map (·.1)
  | .disableOutputPath out => some (disableOutputPath adev out)
  | .startInputStream input calloc callocPcm ready =>
    startInputStream misread stack adev input calloc callocPcm ready
  | .stopInputStream => some (stopInputStream adev)
  | .startVoiceCall calloc => startVoiceCall misread stack adev calloc
  | .stopVoiceCall => some (stopVoiceCall adev)
  | .selectDevices id => selectDevices misread stack adev id
  | .others session primaryOutput outs ins =>
    some { adev with session := session, primaryOutput := primaryOutput, outs := outs, ins := ins }

def StartsAbsent (adev : AudioDevice) : Call → Prop
  | .enableOutputPath out _ _ => .playback (adev.outs out).usecase ∉ ids adev.usecaseList
  | .startInputStream _ _ _ _ => .audioCapture ∉ ids adev.usecaseList
  | .startVoiceCall _ => .voiceCall ∉ ids adev.usecaseList
  | _ => True

instance (adev : AudioDevice) : (call : Call) → Decidable (StartsAbsent adev call)
  | .enableOutputPath _ _ _ => inferInstanceAs (Decidable (_ ∉ _))
  | .startInputStream _ _ _ _ => inferInstanceAs (Decidable (_ ∉ _))
  | .startVoiceCall _ => inferInstanceAs (Decidable (_ ∉ _))
  | .disableOutputPath _ => inferInstanceAs (Decidable True)
  | .stopInputStream => inferInstanceAs (Decidable True)
  | .stopVoiceCall => inferInstanceAs (Decidable True)
  | .selectDevices _ => inferInstanceAs (Decidable True)
  | .others _ _ _ _ => inferInstanceAs (Decidable True)

def adevOpen (session : Session) (offloadFxStopOutput : Bool) (outs : OutRef → StreamOut)
    (ins : InRef → StreamIn) : AudioDevice :=
  ⟨[], fun _ => 0, session, false, false, none, offloadFxStopOutput, outs, ins⟩

theorem adevOpen_sound (session : Session) (fx : Bool) (outs : OutRef → StreamOut)
    (ins : InRef → StreamIn) : Sound (adevOpen session fx outs ins) := by
  refine ⟨nodup_nil, ?_, fun _ _ => rfl⟩
  intro uc none
  cases none

variable {misread stack}

theorem step_sound {adev adev' : AudioDevice} {call : Call} (absent : StartsAbsent adev call)
    (sound : Sound adev) (taken : step misread stack adev call = some adev') : Sound adev' := by
  cases call with
  | enableOutputPath out calloc callocPcm =>
    obtain ⟨result, done, rfl⟩ := Option.map_eq_some_iff.mp taken
    exact enableOutputPath_sound sound absent done
  | disableOutputPath out =>
    cases taken
    exact disableOutputPath_sound sound out
  | startInputStream input calloc callocPcm ready =>
    exact startInputStream_sound sound absent taken
  | stopInputStream =>
    cases taken
    exact stopInputStream_sound sound
  | startVoiceCall calloc => exact startVoiceCall_sound sound absent taken
  | stopVoiceCall =>
    cases taken
    exact stopVoiceCall_sound sound
  | selectDevices id => exact selectDevices_sound sound taken
  | others session primaryOutput outs ins =>
    cases taken
    exact { sound with }

end

/-- Being on `x` counts for `d`: the combined device counts for both of its parts. -/
def CountsFor (x d : SndDevice) : Prop :=
  x = d ∨ x = .out .speakerAndHeadphones ∧ (d = .out .speaker ∨ d = .out .headphones)

instance (x d : SndDevice) : Decidable (CountsFor x d) := inferInstanceAs (Decidable (_ ∨ _))

def OnDevice (d : SndDevice) (uc : Usecase) : Prop :=
  CountsFor (.ofOut uc.outSndDevice) d ∨ CountsFor (.ofIn uc.inSndDevice) d

instance (d : SndDevice) (uc : Usecase) : Decidable (OnDevice d uc) :=
  inferInstanceAs (Decidable (_ ∨ _))

theorem share_eq {x d : SndDevice} (single : Single d) :
    share x d = if CountsFor x d then 1 else 0 := by
  obtain ⟨_, combined⟩ := single
  unfold share CountsFor one
  by_cases both : x = .out .speakerAndHeadphones
  · by_cases speaker : d = .out .speaker
    · simp [both, speaker]
    · by_cases headphones : d = .out .headphones
      · simp [both, headphones]
      · simp [both, speaker, headphones, Ne.symm speaker, Ne.symm headphones, Ne.symm combined]
  · simp [both]

variable {d : SndDevice}

theorem CountsFor.out {out : Option OutDevice} (single : Single d)
    (counts : CountsFor (.ofOut out) d) : ∃ o, d = .out o := by
  rcases counts with same | ⟨_, part⟩
  · cases out with
    | none => exact absurd same.symm single.1
    | some o => exact ⟨o, same.symm⟩
  · rcases part with speaker | headphones
    · exact ⟨_, speaker⟩
    · exact ⟨_, headphones⟩

theorem CountsFor.inp {inp : Option InDevice} (single : Single d) (counts : CountsFor (.ofIn inp) d) :
    ∃ i, d = .inp i := by
  cases inp with
  | none =>
    rcases counts with same | ⟨combined, _⟩
    · exact absurd same.symm single.1
    · cases combined
  | some i =>
    rcases counts with same | ⟨combined, _⟩
    · exact ⟨i, same.symm⟩
    · cases combined

/-- Output and input devices are different, so that a use case counts at most once. -/
theorem holds_eq (single : Single d) (uc : Usecase) :
    holds d uc = if OnDevice d uc then 1 else 0 := by
  have exclusive : ¬ (CountsFor (.ofOut uc.outSndDevice) d ∧ CountsFor (.ofIn uc.inSndDevice) d) := by
    intro both
    obtain ⟨o, out⟩ := both.1.out single
    obtain ⟨i, inp⟩ := both.2.inp single
    rw [out] at inp
    cases inp
  rw [holds, share_eq single, share_eq single]
  by_cases out : CountsFor (.ofOut uc.outSndDevice) d
  · have inp := fun inp => exclusive ⟨out, inp⟩
    rw [if_pos out, if_neg inp, if_pos (show OnDevice d uc from Or.inl out)]
    rfl
  · by_cases inp : CountsFor (.ofIn uc.inSndDevice) d
    · rw [if_neg out, if_pos inp, if_pos (show OnDevice d uc from Or.inr inp)]
      rfl
    · rw [if_neg out, if_neg inp, if_neg (show ¬ OnDevice d uc from not_or.mpr ⟨out, inp⟩)]
      rfl

theorem total_eq_countP (single : Single d) (list : List Usecase) :
    total (holds d) list = (list.countP fun uc => OnDevice d uc : Nat) := by
  induction list with
  | nil => rfl
  | cons uc list ih =>
    rw [total_cons, ih, holds_eq single]
    by_cases here : OnDevice d uc
    · simp [here]
      omega
    · simp [here]

/-- Over every run of the calls in which a use case is started only while its id is absent, the
    count of every single device is the number of use cases that are on it. -/
theorem counts_match_usecases (misread : StreamOut → InputFields × UsecaseId) (stack : Nat)
    (session : Session) (fx : Bool) (outs : OutRef → StreamOut) (ins : InRef → StreamIn)
    (calls : List Call) (adev : AudioDevice)
    (runs : RunsTo (step misread stack) StartsAbsent (adevOpen session fx outs ins) calls adev)
    (d : SndDevice) (single : Single d) :
    adev.sndDevRefCnt d = (adev.usecaseList.countP fun uc => OnDevice d uc : Nat) ∧
      0 ≤ adev.sndDevRefCnt d := by
  have sound := runs.preserves (adevOpen_sound session fx outs ins)
    fun _ _ _ absent sound taken => step_sound absent sound taken
  have counted := sound.counted d single
  rw [total_eq_countP single] at counted
  refine ⟨counted, ?_⟩
  rw [counted]
  exact Int.natCast_nonneg _

/- Playback on the combined device and a recording, then a call that moves both and ends. -/

def session (mode : AudioMode) : Session := ⟨mode, false, false, false⟩

def speakerAndHeadphones : OutRef → StreamOut := fun _ =>
  ⟨.audioPlayback, outSpeaker ||| outWiredHeadphone, true, [], .idle, none, false⟩

def builtinMic : InRef → StreamIn := fun _ => ⟨.mic, inBuiltinMic, false⟩

def nothingRead : StreamOut → InputFields × UsecaseId := fun _ => (⟨.default, 0, false⟩, .voiceCall)

def callRun : List Call :=
  [.enableOutputPath 0 true true, .startInputStream 0 true true true,
    .others (session .inCall) (some 0) speakerAndHeadphones builtinMic, .startVoiceCall true,
    .stopVoiceCall]

theorem counts_match_after_call : ∃ adev, RunsTo (step nothingRead 2) StartsAbsent
      (adevOpen (session .normal) false speakerAndHeadphones builtinMic) callRun adev ∧
    adev.sndDevRefCnt (.out .voiceHeadphones) =
      (adev.usecaseList.countP fun uc => OnDevice (.out .voiceHeadphones) uc : Nat) ∧
    0 ≤ adev.sndDevRefCnt (.out .voiceHeadphones) := by
  have ends : ((runWithin (step nothingRead 2) StartsAbsent
      (adevOpen (session .normal) false speakerAndHeadphones builtinMic) callRun).map
      fun adev => (adev.sndDevRefCnt (.out .voiceHeadphones), adev.sndDevRefCnt (.out .speaker))) =
        some (1, 0) := by decide +kernel
  obtain ⟨adev, run, _⟩ := Option.map_eq_some_iff.mp ends
  have runs := RunsTo.of_runWithin _ _ run
  exact ⟨adev, runs, counts_match_usecases _ _ _ _ _ _ _ adev runs _ (by unfold Single; decide)⟩

end ReferenceCounts
