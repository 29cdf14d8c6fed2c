import SamsungHardware.Library.StepRuns

/- The notification LED of Lights.cpp, in a build with both of its nodes: three remembered states
   and the values last written. -/
namespace NotificationLed
open StepRuns

inductive FlashMode where
  | none | timed | hardware
  deriving DecidableEq

structure HwLightState where
  color : UInt32
  flashMode : FlashMode
  (flashOnMs flashOffMs : Int)

/-- The factors of samsung_lights.h, which a device may override. -/
structure Board where
  (ledAdjustmentR ledAdjustmentG ledAdjustmentB : Rat)
  (ledBrightnessBattery ledBrightnessNotification ledBrightnessAttention : UInt32)

/-- The numbers of the text written to the blink node. -/
structure Blink where
  color : UInt32
  (onMs offMs : Int)

structure Lights where
  (battery notification attention : HwLightState)
  blink : Option Blink
  bln : Option Bool

inductive LightType where
  | battery | notifications | attention

def lit (color : UInt32) : Bool := color &&& 0x00ffffff ≠ 0

variable (board : Board) (s : Lights) (call : LightType × HwLightState)

/-- The product with an adjustment is exact, where the source rounds it to a `double` before the
    fraction is cut off. -/
def calibrateColor (color brightness : UInt32) : UInt32 :=
  let channel (value : UInt32) (adjustment : Rat) : UInt32 :=
    UInt32.ofNat ((value &&& 0xff).toNat * adjustment).floor.toNat * brightness / 255
  (channel (color >>> 16) board.ledAdjustmentR <<< 16) +
    (channel (color >>> 8) board.ledAdjustmentG <<< 8) + channel color board.ledAdjustmentB

def blinkOf (adjustedBrightness : UInt32) (state : HwLightState) : Blink :=
  let color := calibrateColor board (state.color &&& 0x00ffffff) adjustedBrightness
  if state.flashMode = .none then ⟨color, 0, 0⟩ else ⟨color, state.flashOnMs, state.flashOffMs⟩

/-- An attention light pulses blue in hardware, and does not shine steadily. -/
def attentionState (state : HwLightState) : HwLightState :=
  let state := if state.flashMode = .hardware then
      { state with
        flashMode := if state.flashOnMs > 0 ∧ state.flashOffMs = 0 then .none else .hardware
        color := 0x000000ff }
    else state
  if state.flashMode = .none then { state with color := 0 } else state

def setNotificationLED : Lights :=
  if lit s.notification.color then
    let blink := blinkOf board board.ledBrightnessNotification s.notification
    { s with blink, bln := lit blink.color }
  else if lit s.attention.color then
    { s with blink := blinkOf board board.ledBrightnessAttention (attentionState s.attention) }
  else if lit s.battery.color then
    { s with blink := blinkOf board board.ledBrightnessBattery s.battery }
  else { s with blink := some ⟨0, 0, 0⟩ }

def store : Lights :=
  match call with
  | (.battery, state) => { s with battery := state }
  | (.notifications, state) => { s with notification := state }
  | (.attention, state) => { s with attention := state }

def setLightState : Lights := setNotificationLED board (store s call)

def start : Lights :=
  let unlit := ⟨0, .none, 0, 0⟩
  ⟨unlit, unlit, unlit, none, none⟩

/-- The sources in the order of their priority, with what each of them shows. -/
def sources : List (HwLightState × Blink) :=
  [(s.notification, blinkOf board board.ledBrightnessNotification s.notification),
    (s.attention, blinkOf board board.ledBrightnessAttention (attentionState s.attention)),
    (s.battery, blinkOf board board.ledBrightnessBattery s.battery)]

def Right : Prop :=
  (s.bln = some true ↔ lit s.notification.color) ∧ s.blink.getD ⟨0, 0, 0⟩ =
    (((sources board s).find? fun source => lit source.1.color).map Prod.snd).getD ⟨0, 0, 0⟩

/-- No notification is cleared, and a lit one is not calibrated to black. -/
def Kept : Prop :=
  let state := (store s call).notification
  if lit state.color then lit (blinkOf board board.ledBrightnessNotification state).color
  else ¬ lit s.notification.color

theorem right_step_iff (right : Right board s) :
    Right board (setLightState board s call) ↔ Kept board s call := by
  have same : (store s call).bln = s.bln := by
    rcases call with ⟨_ | _ | _, state⟩ <;> rfl
  unfold setLightState setNotificationLED Right Kept
  split_ifs with notified warned charged
  · simp [notified, sources]
  · simp [notified, warned, sources, same, right.1]
  · simp [notified, warned, charged, sources, same, right.1]
  · simp [notified, warned, charged, sources, same, right.1]

theorem right_iff_kept (calls : List (LightType × HwLightState)) :
    Visits (setLightState board) (Right board) start calls ↔
      Meets (setLightState board) (Kept board) start calls := by
  refine visits_iff_meets (fun _ right => right) (fun s call right kept => ?_)
    (fun s call right lost => ?_) calls start ?_
  · exact (right_step_iff board s call right).mpr kept
  · rwa [right_step_iff board s call right]
  · simp [Right, start, sources, lit]

/-- The node still shows a notification that has been cleared. -/
theorem cleared_notification_shown :
    let board : Board := ⟨1, 1, 1, 255, 255, 255⟩
    let notified := setLightState board start (.notifications, ⟨0xff, .none, 0, 0⟩)
    let cleared := setLightState board notified (.notifications, ⟨0, .none, 0, 0⟩)
    cleared.bln = some true ∧ ¬ lit cleared.notification.color := by
  decide +kernel

end NotificationLed
