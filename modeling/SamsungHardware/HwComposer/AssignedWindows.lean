import SamsungHardware.HwComposer.LayerAssignment

/- The windows along the loop over the layers. A state of the loop is clean as long as every layer
   was proper; a layer that is not proper leaves a window or a layer behind that no later iteration
   repairs. -/
namespace AssignedWindows
open StepRuns LayerWindows LayerAssignment List Function Nat

structure Steady (p : Prepare) : Prop where
  cnt : p.ctx.numOfHwcLayer = p.overlayWinCnt
  fits : p.overlayWinCnt ≤ numOfWin
  counts : p.ctx.numOfFbLayer + p.ctx.numOfHwcLayer = p.done.length
  reserved : ∀ k : Fin numOfWin, k < p.overlayWinCnt → (p.ctx.win k).status = .reserved
  shows : ∀ k : Fin numOfWin, k < p.overlayWinCnt →
    ∃ i : Nat, (p.ctx.win k).layerIndex = i ∧ Shows p.done i
  distinct : ∀ k l : Fin numOfWin, k < p.overlayWinCnt → l < p.overlayWinCnt →
    (p.ctx.win k).layerIndex = (p.ctx.win l).layerIndex → k = l

structure Broken (p : Prepare) : Prop where
  steady : Steady p
  broken : (∃ i, Shows p.done i ∧
      ∀ k : Fin numOfWin, k < p.overlayWinCnt → (p.ctx.win k).layerIndex ≠ i) ∨
    ∃ k : Fin numOfWin, k < p.overlayWinCnt ∧ ¬ Positioned (p.ctx.win k)

/-- What the window has been given so far decides alone which layers will settle it. -/
structure Follows (setPos : Nat → Bool) (start win : Window) (turns : List (Layer × Nat)) :
    Prop where
  xres : win.xres = start.xres
  yres : win.yres = start.yres
  goes : ∀ rest, settlesFrom setPos start win.rectInfo (win.placed = some win.rectInfo) rest =
    settles setPos start (turns ++ rest)

structure Clean (setPos : Nat → Bool) (hdmi : Bool) (start : Fin numOfWin → Window)
    (before : List Layer) (p : Prepare) : Prop where
  steady : Steady p
  retakes : Retakes hdmi p
  length : p.done.length = before.length
  keeps : p.overlayWinCnt = min numOfWin (before.countP (kept hdmi))
  stale : p.overlayWinCnt = numOfWin → p.compositionType = .overlay
  shown : ∀ i, Shows p.done i →
    ∃ k : Fin numOfWin, k < p.overlayWinCnt ∧ (p.ctx.win k).layerIndex = i
  positioned : ∀ k : Fin numOfWin, k < p.overlayWinCnt → Positioned (p.ctx.win k)
  current : ∀ k : Fin numOfWin, k = p.overlayWinCnt →
    Follows setPos (start k) (p.ctx.win k) (since hdmi before) ∧
      ((p.ctx.win k).status = .reserved ↔ since hdmi before ≠ [])
  beyond : ∀ k : Fin numOfWin, p.overlayWinCnt < k →
    Follows setPos (start k) (p.ctx.win k) [] ∧ (p.ctx.win k).status ≠ .reserved

variable {setPos : Nat → Bool}

section

variable {start win : Window} {turns : List (Layer × Nat)}

theorem Follows.settled (follows : Follows setPos start win turns) :
    Positioned win ↔ settles setPos start turns = true := by
  have goes := follows.goes []
  rw [append_nil, settlesFrom] at goes
  rw [← goes, decide_eq_true_eq]
  rfl

theorem Follows.rect (follows : Follows setPos start win turns) (cur : Layer) :
    calculateRect win cur = calculateRect start cur := by
  unfold calculateRect
  rw [follows.xres, follows.yres]

theorem given_rectInfo (cur : Layer) (i : Nat) (positioned : Bool) :
    (given win cur i positioned).rectInfo = calculateRect win cur := by
  unfold given Window.move
  split
  · rename_i same
    exact same.symm
  · rfl

theorem given_placed (cur : Layer) (i : Nat) (positioned : Bool) :
    decide ((given win cur i positioned).placed = some (given win cur i positioned).rectInfo) =
      if calculateRect win cur = win.rectInfo then decide (win.placed = some win.rectInfo)
      else positioned := by
  unfold given Window.move
  by_cases same : calculateRect win cur = win.rectInfo
  · simp [same]
  · cases positioned <;> simp [same]

theorem Follows.give (follows : Follows setPos start win turns) (cur : Layer) (i : Nat) :
    Follows setPos start (given win cur i (setPos i)) (turns ++ [(cur, i)]) := by
  have kept : (given win cur i (setPos i)).xres = win.xres ∧
      (given win cur i (setPos i)).yres = win.yres := by
    unfold given Window.move
    split <;> exact ⟨rfl, rfl⟩
  refine ⟨kept.1.trans follows.xres, kept.2.trans follows.yres, fun rest => ?_⟩
  have goes := follows.goes ((cur, i) :: rest)
  rw [given_placed, given_rectInfo, follows.rect, append_assoc]
  exact goes

end

variable {hdmi : Bool} {p q : Prepare}

section

variable {cur layer : Layer}

/-- A step that leaves the counted windows alone and counts no more of them. -/
structure Leaves (p q : Prepare) (layer : Layer) : Prop where
  cnt : q.ctx.numOfHwcLayer = q.overlayWinCnt
  fewer : q.overlayWinCnt ≤ p.overlayWinCnt
  counts : q.ctx.numOfFbLayer + q.ctx.numOfHwcLayer = p.done.length + 1
  windows : ∀ k : Fin numOfWin, k < p.overlayWinCnt → q.ctx.win k = p.ctx.win k
  done : q.done = p.done ++ [layer]

theorem Steady.leave (steady : Steady p) (leaves : Leaves p q layer) : Steady q := by
  have below : ∀ k : Fin numOfWin, k < q.overlayWinCnt → k < p.overlayWinCnt :=
    fun k less => lt_of_lt_of_le less leaves.fewer
  refine ⟨leaves.cnt, le_trans leaves.fewer steady.fits, ?_, fun k less => ?_, fun k less => ?_,
    fun k l first second => ?_⟩
  · rw [leaves.counts, leaves.done, length_append, length_singleton]
  · rw [leaves.windows k (below k less)]
    exact steady.reserved k (below k less)
  · obtain ⟨i, index, shows⟩ := steady.shows k (below k less)
    rw [leaves.windows k (below k less), leaves.done]
    exact ⟨i, index, shows_snoc.mpr (.inl shows)⟩
  · rw [leaves.windows k (below k first), leaves.windows l (below l second)]
    exact steady.distinct k l (below k first) (below l second)

theorem Broken.leave (broken : Broken p) (leaves : Leaves p q layer)
    (same : q.overlayWinCnt = p.overlayWinCnt) : Broken q := by
  refine ⟨broken.steady.leave leaves, ?_⟩
  rcases broken.broken with ⟨i, shows, none⟩ | ⟨k, less, elsewhere⟩
  · refine .inl ⟨i, ?_, fun k less => ?_⟩
    · rw [leaves.done]
      exact shows_snoc.mpr (.inl shows)
    · rw [same] at less
      rw [leaves.windows k less]
      exact none k less
  · refine .inr ⟨k, same ▸ less, ?_⟩
    rw [leaves.windows k less]
    exact elsewhere

theorem leaves_plain (steady : Steady p) (type : CompositionType) :
    Leaves p (plain p type cur) { cur with compositionType := .framebuffer } := by
  refine ⟨steady.cnt, le_refl _, ?_, fun _ _ => rfl, rfl⟩
  have counts := steady.counts
  simp only [plain]
  omega

theorem leaves_retaken (steady : Steady p) (room : p.overlayWinCnt < numOfWin) :
    Leaves p (retaken setPos p cur ⟨_, room⟩)
      { cur with compositionType := .framebuffer, hints := 0 } := by
  refine ⟨steady.cnt, le_refl _, ?_, fun k less => ?_, rfl⟩
  · have counts := steady.counts
    simp only [retaken, assigned]
    omega
  · exact update_of_ne (Fin.ne_of_lt less) _ _

theorem leaves_dropped (steady : Steady p) (full : numOfWin ≤ p.overlayWinCnt) :
    Leaves p (dropped p cur) { cur with compositionType := .framebuffer, hints := 0 } := by
  have counts := steady.counts
  have cnt := steady.cnt
  have two : 2 ≤ p.overlayWinCnt := full
  refine ⟨?_, sub_le _ _, ?_, fun _ _ => rfl, rfl⟩
  · simp only [dropped]
    omega
  · simp only [dropped]
    omega

theorem broken_dropped (steady : Steady p) (full : numOfWin ≤ p.overlayWinCnt) :
    Broken (dropped p cur) := by
  have two : p.overlayWinCnt = 2 := le_antisymm steady.fits full
  obtain ⟨last, at_last⟩ : ∃ last : Fin numOfWin, (last : Nat) = 1 := ⟨⟨1, by decide⟩, rfl⟩
  obtain ⟨i, index, shows⟩ := steady.shows last (by omega)
  refine ⟨steady.leave (leaves_dropped steady full), .inl ⟨i, shows_snoc.mpr (.inl shows), ?_⟩⟩
  intro k less same
  have first : (k : Nat) < 2 - 1 := by
    rw [← two]
    exact less
  have one := steady.distinct k last (by omega) (by omega) (same.trans index.symm)
  rw [one, at_last] at first
  exact absurd first (by decide)

theorem update_below {k : Fin numOfWin} (room : p.overlayWinCnt < numOfWin)
    (less : k < p.overlayWinCnt) (win : Window) :
    update p.ctx.win ⟨p.overlayWinCnt, room⟩ win k = p.ctx.win k :=
  update_of_ne (Fin.ne_of_lt less) _ _

theorem overlaid_last (room : p.overlayWinCnt < numOfWin) :
    (overlaid setPos p cur ⟨_, room⟩).ctx.win ⟨_, room⟩ =
      given (p.ctx.win ⟨_, room⟩) cur p.done.length (setPos p.done.length) :=
  update_self _ _ _

theorem overlaid_win (room : p.overlayWinCnt < numOfWin) (k : Fin numOfWin)
    (less : k < p.overlayWinCnt + 1) :
    k < p.overlayWinCnt ∧ (overlaid setPos p cur ⟨_, room⟩).ctx.win k = p.ctx.win k ∨
      k = ⟨p.overlayWinCnt, room⟩ ∧ (overlaid setPos p cur ⟨_, room⟩).ctx.win k =
        given (p.ctx.win k) cur p.done.length (setPos p.done.length) := by
  rcases Nat.lt_succ_iff_lt_or_eq.mp less with below | last
  · exact .inl ⟨below, update_below room below _⟩
  · have same : k = ⟨p.overlayWinCnt, room⟩ := Fin.ext last
    refine .inr ⟨same, ?_⟩
    rw [same]
    exact overlaid_last room

theorem Steady.grow (steady : Steady p) (room : p.overlayWinCnt < numOfWin) :
    Steady (overlaid setPos p cur ⟨_, room⟩) := by
  have counts := steady.counts
  have cnt := steady.cnt
  have last : Shows (overlaid setPos p cur ⟨_, room⟩).done p.done.length :=
    shows_snoc.mpr (.inr ⟨rfl, rfl⟩)
  have older : ∀ k : Fin numOfWin, k < p.overlayWinCnt →
      (p.ctx.win k).layerIndex ≠ p.done.length := by
    intro k less same
    obtain ⟨i, index, shows⟩ := steady.shows k less
    have before := shows_length shows
    omega
  refine ⟨congrArg (· + 1) cnt, room, ?_, fun k less => ?_, fun k less => ?_,
    fun k l first second => ?_⟩
  · simp only [overlaid, assigned, length_append, length_singleton]
    omega
  · rcases overlaid_win room k less with ⟨below, same⟩ | ⟨_, gives⟩
    · rw [same]
      exact steady.reserved k below
    · rw [gives]
      rfl
  · rcases overlaid_win room k less with ⟨below, same⟩ | ⟨_, gives⟩
    · obtain ⟨i, index, shows⟩ := steady.shows k below
      rw [same]
      exact ⟨i, index, shows_snoc.mpr (.inl shows)⟩
    · rw [gives]
      exact ⟨p.done.length, rfl, last⟩
  · rcases overlaid_win room k first with ⟨below, same⟩ | ⟨isLast, gives⟩
    · rcases overlaid_win room l second with ⟨below', same'⟩ | ⟨_, gives'⟩
      · rw [same, same']
        exact steady.distinct k l below below'
      · rw [same, gives']
        intro equal
        exact absurd equal (older k below)
    · rcases overlaid_win room l second with ⟨below', same'⟩ | ⟨isLast', _⟩
      · rw [gives, same']
        intro equal
        exact absurd equal.symm (older l below')
      · intro _
        rw [isLast, isLast']

theorem Broken.grow (broken : Broken p) (room : p.overlayWinCnt < numOfWin) :
    Broken (overlaid setPos p cur ⟨_, room⟩) := by
  refine ⟨broken.steady.grow room, ?_⟩
  rcases broken.broken with ⟨i, shows, none⟩ | ⟨k, less, elsewhere⟩
  · refine .inl ⟨i, shows_snoc.mpr (.inl shows), fun k less => ?_⟩
    rcases overlaid_win room k less with ⟨below, same⟩ | ⟨_, gives⟩
    · rw [same]
      exact none k below
    · rw [gives]
      intro equal
      have inside := shows_length shows
      change ((p.done.length : Nat) : Int) = i at equal
      omega
  · refine .inr ⟨k, lt_succ_of_lt less, ?_⟩
    have same : (overlaid setPos p cur ⟨_, room⟩).ctx.win k = p.ctx.win k :=
      update_below room less _
    rw [same]
    exact elsewhere

theorem Broken.step (broken : Broken p) (taken : prepareLayer setPos p cur = some q) :
    Broken q := by
  obtain ⟨hdmi, retakes⟩ : ∃ hdmi, Retakes hdmi p := ⟨_, rfl⟩
  have steady := broken.steady
  by_cases room : p.overlayWinCnt < numOfWin
  · cases wants : wanted cur with
    | false =>
      rw [prepareLayer_unwanted retakes room wants] at taken
      cases taken
      exact broken.leave (leaves_plain steady _) rfl
    | true =>
      cases takes : kept hdmi cur with
      | true =>
        rw [prepareLayer_kept retakes room takes] at taken
        cases taken
        exact broken.grow room
      | false =>
        have back : takenBack hdmi cur = true := by
          simpa [kept, takenBack, wants] using takes
        rw [prepareLayer_takenBack retakes room back] at taken
        cases taken
        exact broken.leave (leaves_retaken steady room) rfl
  · have full := not_lt.mp room
    rcases prepareLayer_full full taken with rfl | rfl
    · exact broken.leave (leaves_plain steady _) rfl
    · exact broken_dropped steady full

end

variable {start : Fin numOfWin → Window} {before : List Layer}

section

variable {cur : Layer} (clean : Clean setPos hdmi start before p)
include clean

theorem Clean.room_iff : before.countP (kept hdmi) < numOfWin ↔ p.overlayWinCnt < numOfWin := by
  have keeps := clean.keeps
  omega

section
variable (room : p.overlayWinCnt < numOfWin)
include room

theorem Clean.window : before.countP (kept hdmi) = p.overlayWinCnt := by
  have keeps := clean.keeps
  omega

omit room in
theorem Clean.plain (type : CompositionType)
    (same : p.overlayWinCnt < numOfWin → since hdmi (before ++ [cur]) = since hdmi before ∧ (before ++ [cur]).countP (kept hdmi) = before.countP (kept hdmi))
    (stale : p.overlayWinCnt = numOfWin → type = .overlay) :
    Clean setPos hdmi start (before ++ [cur]) (plain p type cur) := by
  have steady := clean.steady
  refine ⟨steady.leave (leaves_plain steady type), clean.retakes, ?_, ?_, stale, ?_,
    clean.positioned, ?_, clean.beyond⟩
  · simp only [LayerAssignment.plain, length_append, length_singleton, clean.length]
  · have keeps := clean.keeps
    by_cases room : p.overlayWinCnt < numOfWin
    · rw [(same room).2]
      exact keeps
    · have fits := steady.fits
      have more : (before ++ [cur]).countP (kept hdmi) =
          before.countP (kept hdmi) + if kept hdmi cur then 1 else 0 := countP_snoc before cur
      change p.overlayWinCnt = _
      omega
  · intro i shows
    rcases shows_snoc.mp shows with earlier | ⟨_, overlay⟩
    · exact clean.shown i earlier
    · cases overlay
  · intro k isNext
    have room : p.overlayWinCnt < numOfWin := by
      have inside := k.isLt
      change (k : Nat) = p.overlayWinCnt at isNext
      omega
    rw [(same room).1]
    exact clean.current k isNext

theorem Clean.retaken (back : takenBack hdmi cur = true) :
    Clean setPos hdmi start (before ++ [cur]) (retaken setPos p cur ⟨_, room⟩) := by
  have steady := clean.steady
  have free : kept hdmi cur = false := by
    simp only [takenBack, Bool.and_eq_true] at back
    simp [kept, back]
  have turns : since hdmi (before ++ [cur]) = since hdmi before ++ [(cur, before.length)] := by
    simp [since_snoc, free, back]
  have kept_windows : ∀ k : Fin numOfWin, k < p.overlayWinCnt →
      (LayerAssignment.retaken setPos p cur ⟨_, room⟩).ctx.win k = p.ctx.win k :=
    (leaves_retaken steady room).windows
  refine ⟨steady.leave (leaves_retaken steady room), clean.retakes, ?_, ?_, fun _ => rfl, ?_, ?_, ?_,
    ?_⟩
  · simp only [LayerAssignment.retaken, length_append, length_singleton, clean.length]
  · rw [countP_snoc, free]
    exact clean.keeps
  · intro i shows
    rcases shows_snoc.mp shows with earlier | ⟨_, overlay⟩
    · obtain ⟨k, less, index⟩ := clean.shown i earlier
      refine ⟨k, less, ?_⟩
      rw [kept_windows k less]
      exact index
    · cases overlay
  · intro k less
    rw [kept_windows k less]
    exact clean.positioned k less
  · intro k isNext
    have next : k = ⟨p.overlayWinCnt, room⟩ := Fin.ext isNext
    have gives : (LayerAssignment.retaken setPos p cur ⟨_, room⟩).ctx.win k =
        given (p.ctx.win k) cur p.done.length (setPos p.done.length) := by
      rw [next]
      exact update_self _ _ _
    have follows := (clean.current k isNext).1.give cur p.done.length
    rw [gives, turns, ← clean.length]
    exact ⟨follows, fun _ => by simp, fun _ => rfl⟩
  · intro k behind
    have apart : (LayerAssignment.retaken setPos p cur ⟨_, room⟩).ctx.win k = p.ctx.win k :=
      update_of_ne (Fin.ne_of_gt behind) _ _
    rw [apart]
    exact clean.beyond k behind

theorem Clean.settles_iff :
    Positioned (given (p.ctx.win ⟨_, room⟩) cur p.done.length (setPos p.done.length)) ↔
      settles setPos (start ⟨_, room⟩) (since hdmi before ++ [(cur, before.length)]) = true := by
  have follows := (clean.current ⟨_, room⟩ rfl).1.give cur p.done.length
  rw [← clean.length]
  exact follows.settled

theorem Clean.overlaid (keeps : kept hdmi cur = true)
    (placed : Positioned (given (p.ctx.win ⟨_, room⟩) cur p.done.length (setPos p.done.length))) :
    Clean setPos hdmi start (before ++ [cur]) (overlaid setPos p cur ⟨_, room⟩) := by
  have steady := clean.steady
  have turns : since hdmi (before ++ [cur]) = [] := by simp [since_snoc, keeps]
  have apart (k : Fin numOfWin) (behind : p.overlayWinCnt < k) :
      (LayerAssignment.overlaid setPos p cur ⟨_, room⟩).ctx.win k = p.ctx.win k :=
    update_of_ne (Fin.ne_of_gt behind) _ _
  refine ⟨steady.grow room, clean.retakes, ?_, ?_, fun _ => rfl, ?_, ?_, ?_, ?_⟩
  · simp only [LayerAssignment.overlaid, length_append, length_singleton, clean.length]
  · have count := clean.window room
    rw [countP_snoc, keeps]
    change p.overlayWinCnt + 1 = min numOfWin (before.countP (kept hdmi) + 1)
    omega
  · intro i shows
    rcases shows_snoc.mp shows with earlier | ⟨rfl, _⟩
    · obtain ⟨k, less, index⟩ := clean.shown i earlier
      refine ⟨k, lt_succ_of_lt less, ?_⟩
      exact (congrArg Window.layerIndex (update_below room less _)).trans index
    · refine ⟨⟨_, room⟩, lt_succ_self _, ?_⟩
      rw [overlaid_last room]
      rfl
  · intro k less
    rcases overlaid_win room k less with ⟨below, same⟩ | ⟨next, gives⟩
    · rw [same]
      exact clean.positioned k below
    · rw [gives, next]
      exact placed
  · intro k isNext
    have behind : p.overlayWinCnt < k := by
      change (k : Nat) = p.overlayWinCnt + 1 at isNext
      omega
    rw [apart k behind, turns]
    obtain ⟨follows, free⟩ := clean.beyond k behind
    exact ⟨follows, fun reserved => absurd reserved free, fun none => absurd rfl none⟩
  · intro k further
    have behind : p.overlayWinCnt < k := lt_of_succ_lt further
    rw [apart k behind]
    exact clean.beyond k behind

theorem Clean.proper_room :
    Proper setPos hdmi start before cur ↔ (kept hdmi cur = true →
      Positioned (given (p.ctx.win ⟨_, room⟩) cur p.done.length (setPos p.done.length))) := by
  have count := clean.window room
  unfold Proper
  rw [dif_pos (clean.room_iff.mpr room), clean.settles_iff room]
  simp only [count]

end

theorem Clean.proper_full (full : numOfWin ≤ p.overlayWinCnt) :
    Proper setPos hdmi start before cur ↔
      (hdmi = true → (cur.handle.any fun handle => !handle.usageExternalDisp) = true) := by
  unfold Proper
  rw [dif_neg (fun room => not_lt.mpr full (clean.room_iff.mp room))]

theorem Clean.step (proper : Proper setPos hdmi start before cur) :
    ∃ q, prepareLayer setPos p cur = some q ∧ Clean setPos hdmi start (before ++ [cur]) q := by
  by_cases room : p.overlayWinCnt < numOfWin
  · cases wants : wanted cur with
    | false =>
      refine ⟨_, prepareLayer_unwanted clean.retakes room wants, clean.plain _ (fun _ => ?_) ?_⟩
      · simp [since_snoc, kept, takenBack, wants]
      · intro full
        omega
    | true =>
      cases takes : kept hdmi cur with
      | true =>
        have placed := (clean.proper_room room).mp proper takes
        exact ⟨_, prepareLayer_kept clean.retakes room takes, clean.overlaid room takes placed⟩
      | false =>
        have back : takenBack hdmi cur = true := by
          simpa [kept, takenBack, wants] using takes
        exact ⟨_, prepareLayer_takenBack clean.retakes room back, clean.retaken room back⟩
  · have full := not_lt.mp room
    have quiet := (clean.proper_full full).mp proper
    refine ⟨_, prepareLayer_full_quiet clean.retakes full fun taking _ => quiet taking,
      clean.plain _ (fun room' => absurd room' room) clean.stale⟩

theorem Clean.breaks (improper : ¬ Proper setPos hdmi start before cur)
    (taken : prepareLayer setPos p cur = some q) : Broken q := by
  by_cases room : p.overlayWinCnt < numOfWin
  · rw [clean.proper_room room, Classical.not_imp] at improper
    obtain ⟨takes, elsewhere⟩ := improper
    rw [prepareLayer_kept clean.retakes room takes] at taken
    cases taken
    refine ⟨clean.steady.grow room, .inr ⟨⟨_, room⟩, lt_succ_self _, ?_⟩⟩
    rw [overlaid_last room]
    exact elsewhere
  · have full := not_lt.mp room
    rw [clean.proper_full full, Classical.not_imp, Bool.not_eq_true] at improper
    obtain ⟨rfl, loud⟩ := improper
    have overlay := clean.stale (le_antisymm clean.steady.fits full)
    rw [prepareLayer_full_loud clean.retakes full overlay loud taken]
    exact broken_dropped clean.steady full

end

section

variable {p : Prepare} {ctx : Context} {layers : List Layer}

theorem assigned_same {n : Nat} {other : Context} (good : Assigned n ctx layers)
    (fb : other.numOfFbLayer = ctx.numOfFbLayer) (hwc : other.numOfHwcLayer = ctx.numOfHwcLayer)
    (windows : ∀ k : Fin numOfWin, k < ctx.numOfHwcLayer → other.win k = ctx.win k)
    (status : ∀ k, (other.win k).status = (ctx.win k).status) : Assigned n other layers := by
  refine ⟨?_, ?_, ?_, ?_, ?_, ?_, ?_, ?_⟩
  · rw [fb, hwc]
    exact good.counts
  · rw [hwc]
    exact good.fits
  · rw [hwc]
    intro k less
    rw [windows k less]
    exact good.reserved k less
  · rw [hwc]
    intro k less
    rw [windows k less]
    exact good.positioned k less
  · rw [hwc]
    intro k l first second
    rw [windows k first, windows l second]
    exact good.distinct k l first second
  · rw [hwc]
    intro k less
    rw [windows k less]
    exact good.shows k less
  · rw [hwc]
    intro i shows
    obtain ⟨k, less, index⟩ := good.shown i shows
    exact ⟨k, less, (congrArg Window.layerIndex (windows k less)).trans index⟩
  · rw [hwc]
    intro k notCounted
    rw [status k]
    exact good.others k notCounted

theorem assigned_hide (n : Nat) :
    Assigned n (ctx.hideWindows ctx.numOfHwcLayer) layers ↔ Assigned n ctx layers := by
  have windows : ∀ k : Fin numOfWin, k < ctx.numOfHwcLayer →
      (ctx.hideWindows ctx.numOfHwcLayer).win k = ctx.win k :=
    fun k less => if_neg (not_le.mpr less)
  have status : ∀ k : Fin numOfWin,
      ((ctx.hideWindows ctx.numOfHwcLayer).win k).status = (ctx.win k).status := by
    intro k
    simp only [Context.hideWindows]
    split <;> rfl
  constructor
  · intro good
    exact assigned_same good rfl rfl (fun k less => (windows k less).symm)
      (fun k => (status k).symm)
  · intro good
    exact assigned_same good rfl rfl windows status

theorem Broken.not_assigned (broken : Broken p) (n : Nat) : ¬ Assigned n p.ctx p.done := by
  intro good
  have cnt := broken.steady.cnt
  rcases broken.broken with ⟨i, shows, none⟩ | ⟨k, less, elsewhere⟩
  · obtain ⟨k, less, index⟩ := good.shown i shows
    exact none k (cnt ▸ less) index
  · exact elsewhere (good.positioned k (cnt ▸ less))

def Complete (hdmi : Bool) (n : Nat) (before : List Layer) : Prop :=
  before.length = n ∧ (before.countP (kept hdmi) < numOfWin → since hdmi before = [])

theorem Clean.assigned_iff (clean : Clean setPos hdmi start before p) (n : Nat) :
    Assigned n p.ctx p.done ↔ Complete hdmi n before := by
  have steady := clean.steady
  have length := steady.counts.trans clean.length
  constructor
  · intro good
    refine ⟨length.symm.trans good.counts, fun room => ?_⟩
    have room' := clean.room_iff.mp room
    have free := good.others ⟨_, room'⟩ (le_of_eq steady.cnt)
    by_contra turns
    exact free ((clean.current ⟨_, room'⟩ rfl).2.mpr turns)
  · rintro ⟨rfl, ends⟩
    refine ⟨length, steady.cnt ▸ steady.fits, ?_, ?_, ?_, ?_, ?_, ?_⟩
    · rw [steady.cnt]
      exact steady.reserved
    · rw [steady.cnt]
      exact clean.positioned
    · rw [steady.cnt]
      exact steady.distinct
    · rw [steady.cnt]
      exact steady.shows
    · rw [steady.cnt]
      exact clean.shown
    · rw [steady.cnt]
      intro k notCounted
      rcases lt_or_eq_of_le notCounted with behind | isNext
      · exact (clean.beyond k behind).2
      · intro reserved
        have room : p.overlayWinCnt < numOfWin := isNext ▸ k.isLt
        exact (clean.current k isNext.symm).2.mp reserved (ends (clean.room_iff.mpr room))

end

section

variable (ctx : Context) (layers : List Layer)

theorem countExternal_eq (layer : Layer) : ctx.countExternal layer =
    { ctx with
      numOfExtDispLayer := ctx.numOfExtDispLayer + if external layer then 1 else 0
      numOfExtDispVideoLayer := ctx.numOfExtDispVideoLayer + if external layer then 1 else 0 } := by
  unfold Context.countExternal external
  cases layer.handle with
  | none => rfl
  | some handle =>
    cases outside : handle.usageExternalDisp with
    | false => simp [outside]
    | true => simp [outside]

theorem countExternal_all : layers.foldl Context.countExternal ctx =
    { ctx with
      numOfExtDispLayer := ctx.numOfExtDispLayer + layers.countP external
      numOfExtDispVideoLayer := ctx.numOfExtDispVideoLayer + layers.countP external } := by
  induction layers generalizing ctx with
  | nil => rfl
  | cons layer rest ih =>
    rw [foldl_cons, ih, countExternal_eq, countP_cons]
    simp only [Context.mk.injEq, true_and, and_true]
    omega

theorem clean_start : Clean setPos (retakes ctx.hdmiCableStatus layers) ctx.win []
    ⟨layers.foldl Context.countExternal ctx.freeWindows, 0, .framebuffer, []⟩ := by
  rw [countExternal_all]
  have uncounted : ∀ k : Fin numOfWin, ¬ (k : Nat) < 0 := fun k => not_lt_zero k
  have start : ∀ k, Follows setPos (ctx.win k) (ctx.freeWindows.win k) [] :=
    fun k => ⟨rfl, rfl, fun _ => rfl⟩
  refine ⟨?_, ?_, rfl, rfl, ?_, ?_, fun k less => absurd less (uncounted k), fun k _ => ?_,
    fun k _ => ?_⟩
  · exact ⟨rfl, zero_le _, rfl, fun k less => absurd less (uncounted k),
      fun k less => absurd less (uncounted k), fun k _ less => absurd less (uncounted k)⟩
  · unfold Retakes retakes
    simp only [Context.freeWindows, Nat.zero_add]
    exact Bool.and_comm _ _
  · intro full
    cases full
  · rintro i ⟨layer, found, _⟩
    cases found
  · exact ⟨start k, fun reserved => (nomatch reserved), fun turns => absurd rfl turns⟩
  · exact ⟨start k, fun reserved => nomatch reserved⟩

end

theorem foldl_snoc (layers before : List Layer) :
    layers.foldl (fun before layer => before ++ [layer]) before = before ++ layers := by
  rw [foldl_append_eq_append, ← flatMap_def, flatMap_singleton']

theorem assignLayers_iff (setPos : Nat → Bool) (ctx : Context) (layers : List Layer) :
    (∃ ctx' layers', assignLayers setPos ctx layers = some (ctx', layers') ∧
        Assigned layers.length ctx' layers') ↔
      Orderly setPos (retakes ctx.hdmiCableStatus layers) ctx.win layers := by
  obtain ⟨hdmi, taking⟩ : ∃ hdmi, hdmi = retakes ctx.hdmiCableStatus layers := ⟨_, rfl⟩
  obtain ⟨first, eq⟩ : ∃ first : Prepare, first =
    ⟨layers.foldl Context.countExternal ctx.freeWindows, 0, .framebuffer, []⟩ := ⟨_, rfl⟩
  have start : Clean setPos hdmi ctx.win [] first := by
    rw [eq, taking]
    exact clean_start ctx layers
  let good (p : Prepare) : Prop :=
    Assigned layers.length (p.ctx.hideWindows p.overlayWinCnt) p.done
  have hides : ∀ p : Prepare, Steady p → (good p ↔ Assigned layers.length p.ctx p.done) := by
    intro p steady
    change Assigned _ (p.ctx.hideWindows p.overlayWinCnt) _ ↔ _
    rw [← steady.cnt]
    exact assigned_hide _
  have ends : (∃ p, run (prepareLayer setPos) first layers = some p ∧ good p) ↔
      Orderly setPos hdmi ctx.win layers := by
    have keep : ∀ before p cur, Clean setPos hdmi ctx.win before p →
        Proper setPos hdmi ctx.win before cur → ∃ q, prepareLayer setPos p cur = some q ∧
          Clean setPos hdmi ctx.win (before ++ [cur]) q := fun _ _ _ => Clean.step
    refine (run_good_iff (Clean setPos hdmi ctx.win) good (Complete hdmi layers.length) keep
      (fun _ _ _ _ => Clean.breaks) (fun _ _ _ => Broken.step)
      (fun p broken both => broken.not_assigned _ ((hides p broken.steady).mp both))
      (fun before p clean => (hides p clean.steady).trans (clean.assigned_iff _))
      layers [] first start).trans ?_
    rw [foldl_snoc, nil_append]
    exact and_congr_right fun _ => and_iff_right rfl
  rw [← taking, ← ends]
  unfold assignLayers
  dsimp only
  rw [← eq]
  constructor
  · rintro ⟨ctx', layers', found, both⟩
    obtain ⟨p, runs, pair⟩ := Option.map_eq_some_iff.mp found
    cases pair
    exact ⟨p, runs, both⟩
  · rintro ⟨p, runs, both⟩
    exact ⟨_, _, Option.map_eq_some_iff.mpr ⟨p, runs, rfl⟩, both⟩

/-- Behind a call with a changed geometry the windows and the counters are as the layers say exactly
    when the layers are orderly. -/
theorem layers_assigned (setPos : Nat → Bool) (hdmiCableStatus : Bool) (ctx : Context)
    (layers : List Layer) :
    (∃ ctx' layers', hwcPrepare setPos hdmiCableStatus (some ⟨true, layers⟩) ctx =
        some (ctx', layers') ∧ Assigned layers.length ctx' layers') ↔
      Orderly setPos (retakes hdmiCableStatus layers) ctx.win layers :=
  assignLayers_iff setPos (Context.resetSkip { ctx with hdmiCableStatus := hdmiCableStatus }) layers

def screen : Context :=
  ⟨fun _ => ⟨⟨0, 0, 0, 0⟩, 0, -1, .free, 1280, 720, none⟩, fun _ => ⟨0, -1, .free⟩, false, 0, 0, 0, 0, 0,
    0, fun _ => 0, 0, 0, false⟩

def video (usageExternalDisp : Bool) : Layer :=
  ⟨.framebuffer, 0, false, some ⟨4096, .customYCbCr420SP, false, usageExternalDisp⟩, .other, .none,
    ⟨0, 0, 640, 480⟩, ⟨0, 0, 640, 480⟩⟩

def bufferless : Layer := { video false with handle := none }

def outcome (setPos : Nat → Bool) (hdmiCableStatus : Bool) (layers : List Layer) :
    Option (Nat × Nat × List (WinStatus × Bool) × List CompositionType) :=
  (hwcPrepare setPos hdmiCableStatus (some ⟨true, layers⟩) screen).map fun (ctx, layers) =>
    (ctx.numOfFbLayer, ctx.numOfHwcLayer, (List.finRange numOfWin).map fun k =>
        ((ctx.win k).status, decide ((ctx.win k).placed = some (ctx.win k).rectInfo)),
      layers.map Layer.compositionType)

theorem windows_misassigned :
    outcome (fun _ => false) false [video false] =
        some (0, 1, [(.reserved, false), (.free, false)], [.overlay]) ∧
      outcome (fun _ => true) true [video true, video true] =
        some (2, 0, [(.reserved, false), (.free, false)], [.framebuffer, .framebuffer]) ∧
      outcome (fun _ => true) true [video false, video false, video true, video true] =
        some (3, 1, [(.reserved, true), (.reserved, false)],
          [.overlay, .overlay, .framebuffer, .framebuffer]) ∧
      outcome (fun _ => true) true [video true, video true, video false, video false,
        bufferless] = none := by
  refine ⟨?_, ?_, ?_, ?_⟩ <;> decide +kernel

end AssignedWindows
