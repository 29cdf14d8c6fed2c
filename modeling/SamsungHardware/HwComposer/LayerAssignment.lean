import SamsungHardware.HwComposer.LayerWindows

/- What the windows hold behind a call of the composer with a changed geometry. The error of
   window_set_pos is lost, and the overlays that are taken back for the external display leave their
   windows reserved. -/
namespace LayerAssignment
open StepRuns LayerWindows Bool

section

def Shows (layers : List Layer) (i : Nat) : Prop :=
  ∃ layer, layers[i]? = some layer ∧ layer.compositionType = .overlay

def Positioned (win : Window) : Prop := win.placed = some win.rectInfo

structure Assigned (numHwLayers : Nat) (ctx : Context) (layers : List Layer) : Prop where
  counts : ctx.numOfFbLayer + ctx.numOfHwcLayer = numHwLayers
  fits : ctx.numOfHwcLayer ≤ numOfWin
  reserved : ∀ k : Fin numOfWin, k < ctx.numOfHwcLayer → (ctx.win k).status = .reserved
  positioned : ∀ k : Fin numOfWin, k < ctx.numOfHwcLayer → Positioned (ctx.win k)
  distinct : ∀ k l : Fin numOfWin, k < ctx.numOfHwcLayer → l < ctx.numOfHwcLayer →
    (ctx.win k).layerIndex = (ctx.win l).layerIndex → k = l
  shows : ∀ k : Fin numOfWin, k < ctx.numOfHwcLayer →
    ∃ i : Nat, (ctx.win k).layerIndex = i ∧ Shows layers i
  shown : ∀ i, Shows layers i →
    ∃ k : Fin numOfWin, k < ctx.numOfHwcLayer ∧ (ctx.win k).layerIndex = i
  others : ∀ k : Fin numOfWin, ctx.numOfHwcLayer ≤ k → (ctx.win k).status ≠ .reserved

def retakes (hdmiCableStatus : Bool) (layers : List Layer) : Bool :=
  hdmiCableStatus && decide (2 ≤ layers.countP external)

variable (setPos : Nat → Bool) (hdmi : Bool)

def wanted (layer : Layer) : Bool := getHwcComposDecision layer 0 = .overlay

def kept (layer : Layer) : Bool := wanted layer && !(hdmi && external layer)

def takenBack (layer : Layer) : Bool := wanted layer && (hdmi && external layer)

/-- The layers that are taken back behind the last one that is kept, with their places. -/
def since (layers : List Layer) : List (Layer × Nat) :=
  layers.zipIdx.foldl (fun given x =>
    if kept hdmi x.1 then [] else if takenBack hdmi x.1 then given ++ [x] else given) []

/-- Of the layers given to a window in turn, the last whose rectangle is not the one before it was
    positioned without an error. -/
def settlesFrom (win : Window) : SecRect → Bool → List (Layer × Nat) → Bool
  | _, positioned, [] => positioned
  | rect, positioned, (layer, i) :: rest =>
    let next := calculateRect win layer
    settlesFrom win next (if next = rect then positioned else setPos i) rest

def settles (win : Window) (given : List (Layer × Nat)) : Bool :=
  settlesFrom setPos win win.rectInfo (win.placed = some win.rectInfo) given

/-- A kept layer finds a window that it settles; once no window is left, no layer is one of the
    external display or without a buffer while overlays are taken back. -/
def Proper (win : Fin numOfWin → Window) (before : List Layer) (layer : Layer) : Prop :=
  if room : before.countP (kept hdmi) < numOfWin then
    kept hdmi layer = true →
      settles setPos (win ⟨_, room⟩) (since hdmi before ++ [(layer, before.length)]) = true
  else hdmi = true → (layer.handle.any fun handle => !handle.usageExternalDisp) = true

/-- Each layer is proper behind those before it, and a window that is left over was not given to
    a layer. -/
def Orderly (win : Fin numOfWin → Window) (layers : List Layer) : Prop :=
  Meets (fun before layer => before ++ [layer]) (Proper setPos hdmi win) [] layers ∧
    (layers.countP (kept hdmi) < numOfWin → since hdmi layers = [])

end

variable {setPos : Nat → Bool} {hdmi : Bool}

def Decided (type : CompositionType) : Prop := type = .framebuffer ∨ type = .overlay

theorem Decided.ite {c : Prop} [Decidable c] {yes no : CompositionType} (then_ : Decided yes)
    (else_ : Decided no) : Decided (if c then yes else no) := by
  split
  · exact then_
  · exact else_

theorem decided_format (cur : Layer) (handle : PrivateHandle) :
    Decided (overlayFormat cur handle) := by
  unfold overlayFormat
  split <;> first | exact .inl rfl | exact .inr rfl | exact .ite (.inr rfl) (.inl rfl)

theorem decided (cur : Layer) : Decided (getHwcComposDecision cur 0) := by
  unfold getHwcComposDecision
  split
  · exact .inl rfl
  · rename_i handle _
    have format := decided_format cur handle
    have framebuffer : Decided .framebuffer := .inl rfl
    exact framebuffer.ite ((framebuffer.ite ((framebuffer.ite format).ite
      (framebuffer.ite format))).ite framebuffer)

theorem shows_snoc {layers : List Layer} {layer : Layer} {i : Nat} :
    Shows (layers ++ [layer]) i ↔
      Shows layers i ∨ i = layers.length ∧ layer.compositionType = .overlay := by
  unfold Shows
  by_cases inside : i < layers.length
  · rw [List.getElem?_append_left inside]
    constructor
    · intro shows
      exact .inl shows
    · rintro (shows | ⟨last, _⟩)
      · exact shows
      · omega
  · rw [List.getElem?_append_right (by omega)]
    have outside : layers[i]? = none := List.getElem?_eq_none (by omega)
    constructor
    · rintro ⟨found, at_i, overlay⟩
      have last : i - layers.length = 0 := by
        by_contra behind
        rw [List.getElem?_eq_none (by simp; omega)] at at_i
        cases at_i
      rw [last] at at_i
      cases at_i
      exact .inr ⟨by omega, overlay⟩
    · rintro (⟨found, at_i, _⟩ | ⟨rfl, overlay⟩)
      · rw [outside] at at_i
        cases at_i
      · exact ⟨layer, by simp, overlay⟩

theorem shows_length {layers : List Layer} {i : Nat} (shows : Shows layers i) :
    i < layers.length := by
  obtain ⟨layer, at_i, _⟩ := shows
  exact (List.getElem?_eq_some_iff.mp at_i).1

theorem since_snoc (before : List Layer) (layer : Layer) :
    since hdmi (before ++ [layer]) =
      if kept hdmi layer then [] else
        if takenBack hdmi layer then since hdmi before ++ [(layer, before.length)]
        else since hdmi before := by
  unfold since
  rw [List.zipIdx_append, List.foldl_append]
  simp

theorem countP_snoc (before : List Layer) (layer : Layer) :
    (before ++ [layer]).countP (kept hdmi) =
      before.countP (kept hdmi) + if kept hdmi layer then 1 else 0 := by
  rw [List.countP_append, List.countP_cons, List.countP_nil, Nat.zero_add]

variable {p : Prepare} {cur : Layer}

def Retakes (hdmi : Bool) (p : Prepare) : Prop :=
  (decide (p.ctx.numOfExtDispVideoLayer ≥ 2) && p.ctx.hdmiCableStatus) = hdmi

theorem takeBack_quiet (retakes : Retakes hdmi p)
    (quiet : hdmi = true → p.compositionType = .overlay →
      (cur.handle.any fun handle => !handle.usageExternalDisp) = true) :
    p.takeBack cur = some (p.put cur) := by
  unfold Prepare.takeBack
  rw [retakes]
  split
  · rename_i both
    simp only [and_eq_true, decide_eq_true_eq] at both
    have internal := quiet both.1 both.2
    split
    · rename_i none
      rw [none] at internal
      cases internal
    · rename_i handle found
      rw [found] at internal
      rw [if_neg (by simpa using internal)]
  · rfl

theorem takeBack_external (retakes : Retakes true p) (overlay : p.compositionType = .overlay)
    (outside : external cur = true) :
    p.takeBack cur =
      some ⟨{ p.ctx with
          numOfHwcLayer := p.ctx.numOfHwcLayer - 1, numOfFbLayer := p.ctx.numOfFbLayer + 1 },
        p.overlayWinCnt - 1, p.compositionType,
        p.done ++ [{ cur with compositionType := .framebuffer, hints := 0 }]⟩ := by
  unfold Prepare.takeBack
  rw [retakes, overlay]
  unfold external at outside
  split at outside
  · cases outside
  · rename_i handle found
    simp only [found, outside]
    rfl

def plain (p : Prepare) (type : CompositionType) (cur : Layer) : Prepare :=
  ⟨{ p.ctx with numOfFbLayer := p.ctx.numOfFbLayer + 1 }, p.overlayWinCnt, type,
    p.done ++ [{ cur with compositionType := .framebuffer }]⟩

def given (win : Window) (cur : Layer) (i : Nat) (positioned : Bool) : Window :=
  { win.move (calculateRect win cur) positioned with layerIndex := i, status := .reserved }

def assigned (setPos : Nat → Bool) (p : Prepare) (cur : Layer) (k : Fin numOfWin) : Context :=
  { p.ctx with
    win := Function.update p.ctx.win k
      (given (p.ctx.win k) cur p.done.length (setPos p.done.length))
    layerPrevBuf :=
      if calculateRect (p.ctx.win k) cur = (p.ctx.win k).rectInfo then p.ctx.layerPrevBuf
      else Function.update p.ctx.layerPrevBuf k 0 }

def overlaid (setPos : Nat → Bool) (p : Prepare) (cur : Layer) (k : Fin numOfWin) : Prepare :=
  ⟨{ assigned setPos p cur k with numOfHwcLayer := p.ctx.numOfHwcLayer + 1 }, p.overlayWinCnt + 1,
    .overlay, p.done ++ [{ cur with compositionType := .overlay, hints := hwcHintClearFb }]⟩

def retaken (setPos : Nat → Bool) (p : Prepare) (cur : Layer) (k : Fin numOfWin) : Prepare :=
  ⟨{ assigned setPos p cur k with numOfFbLayer := p.ctx.numOfFbLayer + 1 }, p.overlayWinCnt,
    .overlay, p.done ++ [{ cur with compositionType := .framebuffer, hints := 0 }]⟩

/-- The last window is taken back although the layer has none. -/
def dropped (p : Prepare) (cur : Layer) : Prepare :=
  ⟨{ p.ctx with
      numOfHwcLayer := p.ctx.numOfHwcLayer - 1, numOfFbLayer := p.ctx.numOfFbLayer + 1 + 1 },
    p.overlayWinCnt - 1, p.compositionType,
    p.done ++ [{ cur with compositionType := .framebuffer, hints := 0 }]⟩

theorem assignOverlayWindow_eq (room : p.overlayWinCnt < numOfWin) :
    p.ctx.assignOverlayWindow cur p.overlayWinCnt p.done.length (setPos p.done.length) =
      (assigned setPos p cur ⟨p.overlayWinCnt, room⟩, 0) := by
  unfold Context.assignOverlayWindow
  rw [dif_pos room]
  rfl

theorem prepareLayer_unwanted (retakes : Retakes hdmi p) (room : p.overlayWinCnt < numOfWin)
    (unwanted : wanted cur = false) :
    prepareLayer setPos p cur = some (plain p .framebuffer cur) := by
  have decision : getHwcComposDecision cur 0 = .framebuffer := by
    rcases decided cur with framebuffer | overlay
    · exact framebuffer
    · simp [wanted, overlay] at unwanted
  unfold prepareLayer
  rw [if_pos room]
  simp only [decision, if_true]
  exact takeBack_quiet retakes fun _ overlay => nomatch overlay

theorem prepareLayer_wanted (room : p.overlayWinCnt < numOfWin) (wants : wanted cur = true) :
    prepareLayer setPos p cur = Prepare.takeBack
      ⟨{ assigned setPos p cur ⟨_, room⟩ with numOfHwcLayer := p.ctx.numOfHwcLayer + 1 },
        p.overlayWinCnt + 1, .overlay, p.done⟩
      { cur with compositionType := .overlay, hints := hwcHintClearFb } := by
  have decision : getHwcComposDecision cur 0 = .overlay := by simpa [wanted] using wants
  unfold prepareLayer
  rw [if_pos room]
  simp only [decision, reduceCtorEq, if_false, assignOverlayWindow_eq room]
  rfl

theorem wanted_handle (wants : wanted cur = true) : cur.handle ≠ none := by
  intro none
  simp [wanted, getHwcComposDecision, none] at wants

theorem prepareLayer_kept (retakes : Retakes hdmi p) (room : p.overlayWinCnt < numOfWin)
    (keeps : kept hdmi cur = true) :
    prepareLayer setPos p cur = some (overlaid setPos p cur ⟨_, room⟩) := by
  simp only [kept, and_eq_true, not_eq_true', and_eq_false_iff] at keeps
  obtain ⟨wants, stays⟩ := keeps
  rw [prepareLayer_wanted room wants]
  refine takeBack_quiet retakes fun taking _ => ?_
  have inside : external cur = false := by
    rcases stays with off | inside
    · rw [off] at taking
      cases taking
    · exact inside
  cases handle : cur.handle with
  | none => exact absurd handle (wanted_handle wants)
  | some found =>
    rw [external, handle] at inside
    simpa using inside

theorem prepareLayer_takenBack (retakes : Retakes hdmi p) (room : p.overlayWinCnt < numOfWin)
    (taken : takenBack hdmi cur = true) :
    prepareLayer setPos p cur = some (retaken setPos p cur ⟨_, room⟩) := by
  simp only [takenBack, and_eq_true] at taken
  obtain ⟨wants, rfl, outside⟩ := taken
  rw [prepareLayer_wanted room wants]
  refine (takeBack_external ?_ rfl ?_).trans rfl
  · exact retakes
  · exact outside

theorem prepareLayer_full_quiet (retakes : Retakes hdmi p) (full : numOfWin ≤ p.overlayWinCnt)
    (quiet : hdmi = true → p.compositionType = .overlay →
      (cur.handle.any fun handle => !handle.usageExternalDisp) = true) :
    prepareLayer setPos p cur = some (plain p p.compositionType cur) := by
  unfold prepareLayer
  rw [if_neg (Nat.not_lt.mpr full)]
  exact takeBack_quiet retakes quiet

theorem prepareLayer_full (full : numOfWin ≤ p.overlayWinCnt) {q : Prepare}
    (step : prepareLayer setPos p cur = some q) :
    q = plain p p.compositionType cur ∨ q = dropped p cur := by
  unfold prepareLayer at step
  rw [if_neg (Nat.not_lt.mpr full)] at step
  unfold Prepare.takeBack at step
  split at step
  · split at step
    · cases step
    · split at step
      · cases step
        exact .inr rfl
      · cases step
        exact .inl rfl
  · cases step
    exact .inl rfl

theorem prepareLayer_full_loud (retakes : Retakes true p) (full : numOfWin ≤ p.overlayWinCnt)
    (overlay : p.compositionType = .overlay)
    (loud : (cur.handle.any fun handle => !handle.usageExternalDisp) = false) {q : Prepare}
    (step : prepareLayer setPos p cur = some q) : q = dropped p cur := by
  unfold prepareLayer at step
  rw [if_neg (Nat.not_lt.mpr full)] at step
  cases handle : cur.handle with
  | none =>
    have none : p.countFb.takeBack { cur with compositionType := .framebuffer } = none := by
      unfold Prepare.takeBack
      rw [if_pos]
      · simp only [handle]
      · rw [and_eq_true]
        exact ⟨retakes, decide_eq_true overlay⟩
    rw [none] at step
    cases step
  | some found =>
    rw [handle] at loud
    have outside : external cur = true := by
      rw [external, handle]
      simpa using loud
    have taken : p.countFb.takeBack { cur with compositionType := .framebuffer } =
        some (dropped p cur) := takeBack_external retakes overlay outside
    rw [taken] at step
    cases step
    rfl

end LayerAssignment
