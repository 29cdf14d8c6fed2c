import SamsungHardware.Library.LinkedLists
import SamsungHardware.Library.StepRuns

/- The pending requests of the RIL daemon in ril.cpp: addRequestToList, RIL_onRequestAck and
   RIL_onRequestComplete run on any threads. What a thread does under the mutex of a list is one
   step, and so is what it does with a request that no other thread can reach. -/
namespace PendingRequests
open LinkedLists Function

/-- Entries without a response function have NULL there. -/
structure CommandInfo where
  requestNumber : Int
  responseFunction : Option Nat
  deriving DecidableEq, Repr

structure RequestInfo where
  token : Int
  pCI : Option CommandInfo
  pNext : Option Nat
  (cancelled isLocal socketId wasAckSent : Int)
  deriving DecidableEq, Repr

inductive Hook where
  | socket1
  | socket2
  | socket3
  | socket4
  deriving DecidableEq, Repr

structure Build where
  simCount : Nat
  sockets : simCount ≤ 4
  (commands commandsV : List CommandInfo)
  version : Int

def rilOemRequestBase : Int := 10000

def Build.commandInfo (build : Build) (request : Int) : Option CommandInfo :=
  if request > rilOemRequestBase then build.commandsV[(request - rilOemRequestBase).toNat]?
  else if 0 ≤ request then build.commands[request.toNat]?
  else none

/-- The list that addRequestToList chooses. -/
def Build.addHook (build : Build) (socketId : Int) : Hook :=
  if 2 ≤ build.simCount ∧ socketId = 1 then .socket2
  else if 3 ≤ build.simCount ∧ socketId = 2 then .socket3
  else if 4 ≤ build.simCount ∧ socketId = 3 then .socket4
  else .socket1

/-- The list that checkAndDequeueRequestInfoIfAck chooses, with one test after the other. -/
def Build.dequeueHook (build : Build) (socketId : Int) : Hook :=
  let hook := Hook.socket1
  let hook := if 2 ≤ build.simCount ∧ socketId = 1 then Hook.socket2 else hook
  let hook := if 3 ≤ build.simCount ∧ socketId = 2 then Hook.socket3 else hook
  if 4 ≤ build.simCount ∧ socketId = 3 then Hook.socket4 else hook

structure Request where
  (serial slotId request : Int)
  deriving DecidableEq, Repr

structure Adding where
  address : Nat
  hook : Hook
  request : Request
  deriving DecidableEq, Repr

structure Completing where
  address : Nat
  hook : Hook
  error : Int
  request : Request
  deriving DecidableEq, Repr

structure Acking where
  address : Nat
  hook : Hook
  marked : Bool
  deriving DecidableEq, Repr

inductive ResponseType where
  | solicited
  | solicitedAckExp
  deriving DecidableEq, Repr

structure Call where
  socketId : Int
  responseType : ResponseType
  (token error : Int)
  command : CommandInfo
  deriving DecidableEq, Repr

/-- The memory and the threads by the point they have reached. `pending` are the requests whose
    insertion has happened and whose removal has not, and `completed` those whose removal has. Where
    NULL is called, `crashed` is set. -/
structure Ril where
  heap : Nat → RequestInfo
  allocated : List Nat
  heads : Hook → Option Nat
  adding : List Adding
  (searching dequeued : List Completing)
  answered : List Nat
  acking : List Acking
  calls : List Call
  acknowledged : List (Int × Int)
  pending : List (Nat × Request)
  completed : List Request
  crashed : Bool

def Ril.start (heap : Nat → RequestInfo) : Ril :=
  ⟨heap, [], fun _ => none, [], [], [], [], [], [], [], [], [], false⟩

def Ril.next (s : Ril) (address : Nat) : Option Nat := (s.heap address).pNext

def Ril.setNext (s : Ril) (address : Nat) (link : Option Nat) : Ril :=
  { s with heap := update s.heap address { s.heap address with pNext := link } }

/-- The loop over a list; a list has no more cells than there are blocks of memory. -/
def Ril.search (s : Ril) (hook : Hook) (address : Nat) : Search Nat :=
  seek s.next address (s.allocated.length + 1) none (s.heads hook)

def Ril.unlink (s : Ril) (hook : Hook) (previous : Option Nat) (address : Nat) : Ril :=
  match previous with
  | none => { s with heads := update s.heads hook (s.next address) }
  | some cell => s.setNext cell (s.next address)

inductive Event where
  | allocate (address : Nat) (request : Request)
  | push (i : Nat)
  | complete (address : Nat) (error : Int)
  | dequeue (i : Nat)
  | respond (i : Nat)
  | free (i : Nat)
  | ack (address : Nat)
  | mark (i : Nat)
  | acknowledge (i : Nat)
  deriving DecidableEq, Repr

variable (build : Build) (s : Ril)

def Ril.allocate (address : Nat) (request : Request) : Ril :=
  if address ∈ s.allocated then s
  else
    { s with
      heap := update s.heap address
        ⟨request.serial, build.commandInfo request.request, none, 0, 0, request.slotId, 0⟩
      allocated := address :: s.allocated
      adding := ⟨address, build.addHook request.slotId, request⟩ :: s.adding }

variable (i : Nat)

def Ril.push : Ril :=
  match s.adding[i]? with
  | none => s
  | some add =>
    { s.setNext add.address (s.heads add.hook) with
      heads := update s.heads add.hook (some add.address)
      adding := s.adding.eraseIdx i
      pending := (add.address, add.request) :: s.pending }

/-- The vendor library completes a token that it has and has not completed yet. -/
def Ril.complete (address : Nat) (error : Int) : Ril :=
  match s.pending.find? fun entry => entry.1 = address with
  | none => s
  | some entry =>
    if s.searching.any fun c => c.address = address then s
    else
      { s with
        searching := ⟨address, build.dequeueHook (s.heap address).socketId, error, entry.2⟩ ::
          s.searching }

def Ril.dequeue : Ril :=
  match s.searching[i]? with
  | none => s
  | some c =>
    let removed := { s with
      searching := s.searching.eraseIdx i
      pending := s.pending.filter fun entry => entry.1 ≠ c.address
      completed := c.request :: s.completed }
    match s.search c.hook c.address with
    | .found previous =>
      { removed.unlink c.hook previous c.address with dequeued := c :: s.dequeued }
    | .absent => removed
    | .running => s

def Ril.responseType (address : Nat) : ResponseType :=
  if build.version ≥ 13 ∧ (s.heap address).wasAckSent = 1 then .solicitedAckExp else .solicited

def Ril.answer (c : Completing) : Ril :=
  { s with dequeued := s.dequeued.eraseIdx i, answered := c.address :: s.answered }

/-- The response function of the command is called without a test. -/
def Ril.respond : Ril :=
  match s.dequeued[i]? with
  | none => s
  | some c =>
    let info := s.heap c.address
    if info.isLocal > 0 then s.answer i c
    else if info.cancelled = 0 then
      match info.pCI with
      | none => s
      | some command =>
        if command.responseFunction.isNone then { s with crashed := true }
        else
          { s.answer i c with
            calls := ⟨info.socketId, s.responseType build c.address, info.token, c.error,
              command⟩ :: s.calls }
    else s.answer i c

def Ril.free : Ril :=
  match s.answered[i]? with
  | none => s
  | some address =>
    { s with
      answered := s.answered.eraseIdx i
      allocated := s.allocated.filter fun block => block ≠ address }

/-- An acknowledgement may come for any token, also while another thread completes it. -/
def Ril.ack (address : Nat) : Ril :=
  { s with acking := ⟨address, build.dequeueHook (s.heap address).socketId, false⟩ :: s.acking }

def Ril.mark : Ril :=
  match s.acking[i]? with
  | none => s
  | some a =>
    if a.marked then s
    else
      match s.search a.hook a.address with
      | .found _ =>
        { s with
          heap := update s.heap a.address { s.heap a.address with wasAckSent := 1 }
          acking := s.acking.set i { a with marked := true } }
      | .absent => { s with acking := s.acking.eraseIdx i }
      | .running => s

def Ril.acknowledge : Ril :=
  match s.acking[i]? with
  | none => s
  | some a =>
    if a.marked then
      let info := s.heap a.address
      { s with
        acking := s.acking.eraseIdx i
        acknowledged :=
          if info.cancelled = 0 then (info.socketId, info.token) :: s.acknowledged
          else s.acknowledged }
    else s

def step : Event → Ril
  | .allocate address request => s.allocate build address request
  | .push i => s.push i
  | .complete address error => s.complete build address error
  | .dequeue i => s.dequeue i
  | .respond i => s.respond build i
  | .free i => s.free i
  | .ack address => s.ack build address
  | .mark i => s.mark i
  | .acknowledge i => s.acknowledge i

end PendingRequests
