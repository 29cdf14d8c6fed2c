import Mathlib

/- The event loop of ril_event.cpp: the watch table, the timer list and the pending list, the three
   calls that any thread or callback may make, and the rounds of the loop thread. The calls, and
   `processTimeouts` and `processReadReadies`, hold `listMutex` and are one step each; `firePending`
   holds nothing, so its parts are steps of their own. What `select` waits for is left to the round:
   any descriptors may be ready, at any time of the clock. -/
namespace EventLoop
open Function

structure Timeval where
  (sec usec : Int)
  deriving DecidableEq, Repr

/-- `timercmp` with `<`; with `>` the arguments change places. -/
def Timeval.before (a b : Timeval) : Bool :=
  if a.sec = b.sec then a.usec < b.usec else a.sec < b.sec

def timeradd (a b : Timeval) : Timeval :=
  if a.usec + b.usec ≥ 1000000 then ⟨a.sec + b.sec + 1, a.usec + b.usec - 1000000⟩
  else ⟨a.sec + b.sec, a.usec + b.usec⟩

variable {count : Nat}

def maxFdEvents : Nat := 8

def slots : List Int := (List.range maxFdEvents).map Int.ofNat

inductive Node (count : Nat) where
  | timerList
  | pendingList
  | event (ev : Fin count)
  deriving DecidableEq, Repr

inductive Phase (count : Nat) where
  | waiting
  | selected (rfds : Int → Bool) (n : Int)
  | expired (rfds : Int → Bool) (n : Int)
  | gathered
  | firing (ev : Node count)
  | taken (ev next : Node count)
  | running (next : Node count)
  | ended

/-- The fields of the events, `none` for NULL, and the static variables. -/
structure Loop (count : Nat) where
  (next prev : Node count → Option (Node count))
  (fd index : Node count → Int)
  persist : Node count → Bool
  timeout : Node count → Timeval
  watchTable : Int → Option (Node count)
  readFds : Int → Bool
  nfds : Int
  phase : Phase count

def addToList (s : Loop count) (ev list : Node count) : Option (Loop count) := do
  let next := update s.next ev (some list)
  let prev := update s.prev ev (s.prev list)
  let before ← prev ev
  return { s with
    next := update next before (some ev)
    prev := update prev list (some ev) }

def removeFromList (s : Loop count) (ev : Node count) : Option (Loop count) := do
  let after ← s.next ev
  let prev := update s.prev after (s.prev ev)
  let before ← prev ev
  let next := update s.next before (s.next ev)
  return { s with next := update next ev none, prev := update prev ev none }

def highest (s : Loop count) : List Int → Int → Int
  | [], n => n
  | i :: rest, n =>
    match s.watchTable i with
    | none => highest s rest n
    | some rev => highest s rest (if s.fd rev > n then s.fd rev else n)

def removeWatch (s : Loop count) (ev : Node count) (index : Int) : Loop count :=
  let s := { s with
    watchTable := update s.watchTable index none
    index := update s.index ev (-1)
    readFds := update s.readFds (s.fd ev) false }
  if s.fd ev + 1 = s.nfds then { s with nfds := highest s slots 0 + 1 } else s

section

variable (s : Loop count) (ev : Node count)

def rilEventSet (fd : Int) (persist : Bool) : Loop count :=
  { s with
    next := update s.next ev none
    prev := update s.prev ev none
    timeout := update s.timeout ev ⟨0, 0⟩
    fd := update s.fd ev fd
    index := update s.index ev (-1)
    persist := update s.persist ev persist }

def freeSlot : Option Int := slots.find? fun i => (s.watchTable i).isNone

/-- A full table leaves the event out. -/
def rilEventAdd : Loop count :=
  match freeSlot s with
  | none => s
  | some i => { s with
    watchTable := update s.watchTable i (some ev)
    index := update s.index ev i
    readFds := update s.readFds (s.fd ev) true
    nfds := if s.fd ev ≥ s.nfds then s.fd ev + 1 else s.nfds }

/-- The walk of `ril_timer_add` to the first event that is not earlier, for so many events. -/
def place (s : Loop count) (ev : Node count) : Nat → Node count → Option (Node count)
  | 0, _ => none
  | fuel + 1, list =>
    if (s.timeout list).before (s.timeout ev) ∧ list ≠ .timerList then
      (s.next list).bind (place s ev fuel)
    else some list

def rilTimerAdd (now : Timeval) :
    Option Timeval → Option (Loop count)
  | none => some s
  | some tv => do
    let first ← s.next .timerList
    let s := { s with
      fd := update s.fd ev (-1)
      timeout := update s.timeout ev (timeradd now tv) }
    let list ← place s ev (count + 1) first
    addToList s ev list

def rilEventDel : Loop count :=
  if s.index ev < 0 ∨ s.index ev ≥ maxFdEvents then s else removeWatch s ev (s.index ev)

inductive Call (count : Nat) where
  | rilEventSet (ev : Fin count) (fd : Int) (persist : Bool)
  | rilEventAdd (ev : Fin count)
  | rilTimerAdd (ev : Fin count) (now : Timeval) (tv : Option Timeval)
  | rilEventDel (ev : Fin count)

def call : Call count → Option (Loop count)
  | .rilEventSet ev fd persist => some (rilEventSet s (.event ev) fd persist)
  | .rilEventAdd ev => some (rilEventAdd s (.event ev))
  | .rilTimerAdd ev now tv => rilTimerAdd s (.event ev) now tv
  | .rilEventDel ev => some (rilEventDel s (.event ev))

end

def expire (now : Timeval) : Nat → Node count → Loop count → Option (Loop count)
  | 0, _, _ => none
  | fuel + 1, tev, s =>
    if tev ≠ .timerList ∧ (s.timeout tev).before now then do
      let next ← s.next tev
      let s ← removeFromList s tev
      let s ← addToList s tev .pendingList
      expire now fuel next s
    else some s

def processTimeouts (s : Loop count) (now : Timeval) : Option (Loop count) := do
  let tev ← s.next .timerList
  expire now (count + 1) tev s

def readReadies (rfds : Int → Bool) : List Int → Int → Loop count → Option (Loop count)
  | [], _, s => some s
  | i :: rest, n, s =>
    if n > 0 then
      match s.watchTable i with
      | none => readReadies rfds rest n s
      | some rev =>
        if rfds (s.fd rev) then do
          let s ← addToList s rev .pendingList
          readReadies rfds rest (n - 1) (if s.persist rev = false then removeWatch s rev i else s)
        else readReadies rfds rest n s
    else some s

/-- What the loop thread does between two points where other threads come in. `take` is a pass of
    `firePending` up to the call of the callback, `start` the call, `finish` its return. -/
inductive Round where
  | select (rfds : Int → Bool) (n : Int) (interrupted : Bool)
  | processTimeouts (now : Timeval)
  | processReadReadies
  | firePending
  | take
  | start
  | finish

/-- What cannot be done now changes nothing. -/
def loopStep (s : Loop count) : Round → Option (Loop count)
  | .select rfds n interrupted =>
    match s.phase with
    | .waiting =>
      if n < 0 then some (if interrupted then s else { s with phase := .ended })
      else some { s with phase := .selected rfds n }
    | _ => some s
  | .processTimeouts now =>
    match s.phase with
    | .selected rfds n => processTimeouts { s with phase := .expired rfds n } now
    | _ => some s
  | .processReadReadies =>
    match s.phase with
    | .expired rfds n => readReadies rfds slots n { s with phase := .gathered }
    | _ => some s
  | .firePending =>
    match s.phase with
    | .gathered => (s.next .pendingList).map fun ev => { s with phase := .firing ev }
    | _ => some s
  | .take =>
    match s.phase with
    | .firing ev =>
      if ev = .pendingList then some { s with phase := .waiting }
      else do
        let next ← s.next ev
        removeFromList { s with phase := .taken ev next } ev
    | _ => some s
  | .start =>
    match s.phase with
    | .taken _ next => some { s with phase := .running next }
    | _ => some s
  | .finish =>
    match s.phase with
    | .running next => some { s with phase := .firing next }
    | _ => some s

def Loop.start (count : Nat) : Loop count where
  next
    | .event _ => none
    | list => some list
  prev
    | .event _ => none
    | list => some list
  fd := fun _ => -1
  index
    | .event _ => -1
    | _ => 0
  persist := fun _ => false
  timeout := fun _ => ⟨0, 0⟩
  watchTable := fun _ => none
  readFds := fun _ => false
  nfds := 0
  phase := .waiting

end EventLoop
