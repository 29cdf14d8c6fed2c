import SamsungHardware.Library.StepRuns

/- The prepare call of the hardware composer in SecHWC.cpp: which layers of the list get one of the
   two overlay windows and which are left to the framebuffer. -/
namespace LayerWindows

def numOfWin : Nat := 2
def numOfDummyWin : Nat := 4
def thresForSwap : Nat := 3427

inductive PixelFormat where
  | rgba8888 | rgbx8888 | bgra8888 | rgb565
  | yv12 | yCbCr422SP | yCrCb420SP | yCbCr422I | yCbCr422P | yCbCr420P | yCbCr420I | cbYCrY422I
  | cbYCrY420I | yCbCr420SP | yCrCb422SP
  | customYCbCr420SP | customYCrCb420SP | customYCbCr420SPTiled | customYCbCr422SP
  | customYCrCb422SP | customYCbCr422I | customYCrCb422I | customCbYCrY422I | customCrYCbY422I
  | other (code : Nat)
  deriving DecidableEq, Repr

inductive CompositionType where
  | framebuffer
  | overlay
  | background
  deriving DecidableEq, Repr

inductive Transform where
  | rot90
  | rot270
  | other
  deriving DecidableEq, Repr

inductive Blending where
  | none
  | premult
  | coverage
  deriving DecidableEq, Repr

structure PrivateHandle where
  address : UInt32
  format : PixelFormat
  (usageHwOverlay usageExternalDisp : Bool)
  deriving DecidableEq, Repr

structure HwcRect where
  (left top right bottom : Int32)
  deriving DecidableEq

structure Layer where
  compositionType : CompositionType
  hints : Nat
  skipLayer : Bool
  handle : Option PrivateHandle
  transform : Transform
  blending : Blending
  (sourceCrop displayFrame : HwcRect)
  deriving DecidableEq

def hwcHintClearFb : Nat := 2

def checkYuvFormat : PixelFormat → Bool
  | .rgba8888 | .rgbx8888 | .bgra8888 | .rgb565 | .other _ => false
  | _ => true

def overlayFormat (cur : Layer) (handle : PrivateHandle) : CompositionType :=
  match handle.format with
  | .customYCbCr420SP | .customYCrCb420SP | .customYCbCr420SPTiled => .overlay
  | .yv12 | .yCbCr420P | .yCrCb420SP | .yCbCr420SP =>
    if handle.usageHwOverlay && cur.blending = .none then .overlay else .framebuffer
  | _ => .framebuffer

def getHwcComposDecision (cur : Layer) (iter : Nat) : CompositionType :=
  match cur.handle with
  | none => .framebuffer
  | some handle =>
    if cur.skipLayer then .framebuffer
    else if iter = 0 then
      let crop := cur.sourceCrop
      let frame := cur.displayFrame
      if crop.right - crop.left + 1 < 16 || crop.bottom - crop.top + 1 < 8 then .framebuffer
      else if cur.transform = .rot90 || cur.transform = .rot270 then
        if frame.right - frame.left + 1 < 4 || frame.bottom - frame.top + 1 < 8 then .framebuffer
        else overlayFormat cur handle
      else if frame.right - frame.left + 1 < 8 || frame.bottom - frame.top + 1 < 4 then .framebuffer
      else overlayFormat cur handle
    else .framebuffer

inductive WinStatus where
  | free
  | reserved
  deriving DecidableEq, Repr

structure SecRect where
  (x y w h : Int32)
  deriving DecidableEq

/-- `placed` is the rectangle that the last call of window_set_pos has set, none if it failed. -/
structure Window where
  rectInfo : SecRect
  bufIndex : Nat
  layerIndex : Int
  status : WinStatus
  (xres yres : UInt32)
  placed : Option SecRect
  deriving DecidableEq

structure UiLayInfo where
  layerPrevBuf : UInt32
  layerIndex : Int
  status : WinStatus
  deriving DecidableEq

structure Context where
  win : Fin numOfWin → Window
  winVirt : Fin numOfDummyWin → UiLayInfo
  fbLaySkipInitialized : Bool
  (numOfFbLaySkip uiSkipFrameCnt numOfFbLayer numOfHwcLayer numOfFbLayerPrev num2dBlitLayer : Nat)
  layerPrevBuf : Fin numOfWin → UInt32
  (numOfExtDispLayer numOfExtDispVideoLayer : Nat)
  hdmiCableStatus : Bool

/-- One direction of the display frame cut to the screen. The resolution is unsigned, and so are the
    comparison with it and the difference from it. -/
def clip (start length : Int32) (res : UInt32) : Int32 × Int32 :=
  if start < 0 then
    (0, if (length + start).toUInt32 > res then res.toInt32 else length + start)
  else
    (start, if (length + start).toUInt32 > res then (res - start.toUInt32).toInt32 else length)

def calculateRect (win : Window) (cur : Layer) : SecRect :=
  let frame := cur.displayFrame
  let across := clip frame.left (frame.right - frame.left) win.xres
  let down := clip frame.top (frame.bottom - frame.top) win.yres
  ⟨across.1, down.1, across.2, down.2⟩

/-- A new rectangle is stored and set; `positioned` says whether window_set_pos does not fail. -/
def Window.move (win : Window) (rect : SecRect) (positioned : Bool) : Window :=
  if rect = win.rectInfo then win
  else { win with rectInfo := rect, placed := if positioned then some rect else none }

/-- The error of window_set_pos is not returned. -/
def Context.assignOverlayWindow (ctx : Context) (cur : Layer) (winIdx layerIdx : Nat)
    (positioned : Bool) : Context × Int :=
  if known : winIdx < numOfWin then
    let k : Fin numOfWin := ⟨winIdx, known⟩
    let win := ctx.win k
    let rect := calculateRect win cur
    let moved := win.move rect positioned
    ({ ctx with
        win := Function.update ctx.win k
          { moved with layerIndex := layerIdx, status := .reserved }
        layerPrevBuf :=
          if rect = win.rectInfo then ctx.layerPrevBuf
          else Function.update ctx.layerPrevBuf k 0 }, 0)
  else (ctx, -1)

def resetWinRectInfo (win : Window) : Window := { win with rectInfo := ⟨0, 0, 0, 0⟩ }

/-- The loop over the layers: `done` are the layers behind it, with their new types. -/
structure Prepare where
  ctx : Context
  overlayWinCnt : Nat
  compositionType : CompositionType
  done : List Layer

def Prepare.put (p : Prepare) (cur : Layer) : Prepare := { p with done := p.done ++ [cur] }

def Prepare.countFb (p : Prepare) : Prepare :=
  { p with ctx := { p.ctx with numOfFbLayer := p.ctx.numOfFbLayer + 1 } }

/-- The end of an iteration with the cable plugged in and two layers for the external display: an
    overlay of such a layer is taken back. A layer without a buffer has no usage to read. -/
def Prepare.takeBack (p : Prepare) (cur : Layer) : Option Prepare :=
  if p.ctx.numOfExtDispVideoLayer ≥ 2 && p.ctx.hdmiCableStatus &&
      p.compositionType = .overlay then
    match cur.handle with
    | none => none
    | some handle =>
      if handle.usageExternalDisp then
        let ctx := { p.ctx with numOfHwcLayer := p.ctx.numOfHwcLayer - 1 }
        some (({ p with ctx := ctx, overlayWinCnt := p.overlayWinCnt - 1 }).countFb.put
          { cur with compositionType := .framebuffer, hints := 0 })
      else some (p.put cur)
  else some (p.put cur)

def prepareLayer (setPos : Nat → Bool) (p : Prepare) (cur : Layer) : Option Prepare :=
  if p.overlayWinCnt < numOfWin then
    let p := { p with compositionType := getHwcComposDecision cur 0 }
    if p.compositionType = .framebuffer then
      p.countFb.takeBack { cur with compositionType := .framebuffer }
    else
      let i := p.done.length
      let assigned := p.ctx.assignOverlayWindow cur p.overlayWinCnt i (setPos i)
      let p := { p with ctx := assigned.1 }
      if assigned.2 ≠ 0 then some (p.countFb.put { cur with compositionType := .framebuffer })
      else
        let ctx := { p.ctx with numOfHwcLayer := p.ctx.numOfHwcLayer + 1 }
        ({ p with ctx := ctx, overlayWinCnt := p.overlayWinCnt + 1 }).takeBack
          { cur with compositionType := .overlay, hints := hwcHintClearFb }
  else p.countFb.takeBack { cur with compositionType := .framebuffer }

def external (layer : Layer) : Bool :=
  match layer.handle with
  | none => false
  | some handle => handle.usageExternalDisp

/-- The second condition on a layer of the external display is always true. -/
def Context.countExternal (ctx : Context) (layer : Layer) : Context :=
  match layer.handle with
  | none => ctx
  | some handle =>
    if handle.usageExternalDisp then
      { ctx with
        numOfExtDispLayer := ctx.numOfExtDispLayer + 1
        numOfExtDispVideoLayer :=
          if handle.usageExternalDisp || checkYuvFormat handle.format then
            ctx.numOfExtDispVideoLayer + 1
          else ctx.numOfExtDispVideoLayer }
    else ctx

def Context.freeWindows (ctx : Context) : Context :=
  { ctx with
    win := fun k => { ctx.win k with status := .free, bufIndex := 0 }
    numOfHwcLayer := 0
    numOfFbLayer := 0
    num2dBlitLayer := 0
    numOfExtDispVideoLayer := 0 }

def Context.hideWindows (ctx : Context) (overlayWinCnt : Nat) : Context :=
  { ctx with
    win := fun k => if overlayWinCnt ≤ k then resetWinRectInfo (ctx.win k) else ctx.win k }

def assignLayers (setPos : Nat → Bool) (ctx : Context) (layers : List Layer) :
    Option (Context × List Layer) :=
  let ctx := layers.foldl Context.countExternal ctx.freeWindows
  (StepRuns.run (prepareLayer setPos) ⟨ctx, 0, .framebuffer, []⟩ layers).map fun p =>
    (p.ctx.hideWindows p.overlayWinCnt, p.done)

def Layer.address (layer : Layer) : UInt32 :=
  match layer.handle with
  | none => 0
  | some handle => handle.address

def layerAt (layers : List Layer) (index : Int) : Option Layer :=
  if 0 ≤ index then layers[index.toNat]? else none

def Context.markLayers (ctx : Context) (n : Nat) (type : CompositionType) (layers : List Layer) :
    List Layer :=
  ((List.finRange numOfDummyWin).take n).foldl (fun layers k =>
    layers.modify (ctx.winVirt k).layerIndex.toNat fun cur => { cur with compositionType := type })
    layers

/-- One layer of the search for the layers of the user interface, up to the last virtual window. -/
def noteUiLayer (found : (Fin numOfDummyWin → UiLayInfo) × Nat × List Layer) (cur : Layer) :
    (Fin numOfDummyWin → UiLayInfo) × Nat × List Layer :=
  let (winVirt, n, done) := found
  if room : n < numOfDummyWin then
    match cur.handle with
    | none => (winVirt, n, done ++ [{ cur with compositionType := .framebuffer }])
    | some handle =>
      match handle.format with
      | .rgba8888 | .bgra8888 | .rgbx8888 | .rgb565 =>
        (Function.update winVirt ⟨n, room⟩ ⟨handle.address, done.length, .free⟩, n + 1,
          done ++ [{ cur with compositionType := .framebuffer }])
      | _ => (winVirt, n, done ++ [cur])
  else (winVirt, n, done ++ [cur])

/-- None where a virtual window has no layer of the list. -/
def getHwcUiLaySkipdrawDecision (ctx : Context) (layers : List Layer) :
    Option (Context × List Layer) :=
  let fbLayTot := ctx.numOfFbLayer + ctx.numOfFbLaySkip
  let shown := (List.finRange numOfDummyWin).take fbLayTot
  if fbLayTot > numOfDummyWin then some (ctx, layers)
  else if fbLayTot < 1 then
    if ctx.uiSkipFrameCnt + 1 ≥ thresForSwap then
      some ({ ctx with uiSkipFrameCnt := 0, numOfFbLayerPrev := 1 }, layers)
    else some ({ ctx with uiSkipFrameCnt := ctx.uiSkipFrameCnt + 1 }, layers)
  else if ctx.fbLaySkipInitialized then
    (shown.mapM fun k => layerAt layers (ctx.winVirt k).layerIndex).map fun current =>
      let unchanged := (shown.zip current).countP fun (k, cur) =>
        (ctx.winVirt k).layerPrevBuf = cur.address
      let skip := if ctx.uiSkipFrameCnt ≥ thresForSwap then 0 else unchanged
      if skip ≠ fbLayTot then
        ({ ctx with
            numOfFbLayer := fbLayTot
            numOfFbLaySkip := 0
            uiSkipFrameCnt := 0
            winVirt := fun k => match current[k]? with
              | some cur => { ctx.winVirt k with layerPrevBuf := cur.address, status := .free }
              | none => ctx.winVirt k },
          ctx.markLayers fbLayTot .framebuffer layers)
      else
        ({ ctx with
            numOfFbLayer := 0
            numOfFbLaySkip := fbLayTot
            uiSkipFrameCnt := ctx.uiSkipFrameCnt + 1
            winVirt := fun k =>
              if k < fbLayTot then { ctx.winVirt k with status := .reserved } else ctx.winVirt k },
          ctx.markLayers fbLayTot .overlay layers)
  else
    let (winVirt, n, done) := layers.foldl noteUiLayer (ctx.winVirt, 0, [])
    some ({ ctx with
      numOfFbLaySkip := 0
      winVirt := winVirt
      fbLaySkipInitialized := n = fbLayTot }, done)

structure DisplayContents where
  geometryChanged : Bool
  hwLayers : List Layer

def Context.resetSkip (ctx : Context) : Context :=
  { ctx with
    fbLaySkipInitialized := false
    numOfFbLaySkip := 0
    uiSkipFrameCnt := 0
    winVirt := fun _ => ⟨0, -1, .free⟩ }

def hwcPrepare (setPos : Nat → Bool) (hdmiCableStatus : Bool) (list : Option DisplayContents)
    (ctx : Context) : Option (Context × List Layer) :=
  let ctx := { ctx with hdmiCableStatus := hdmiCableStatus }
  match list with
  | none => some (ctx.resetSkip, [])
  | some list =>
    if !list.geometryChanged && ctx.numOfHwcLayer > 0 then
      getHwcUiLaySkipdrawDecision ctx list.hwLayers
    else if !list.geometryChanged then some (ctx.resetSkip, list.hwLayers)
    else assignLayers setPos ctx.resetSkip list.hwLayers

end LayerWindows
