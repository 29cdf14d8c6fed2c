import SamsungHardware.Library.SlotTable

/- The RIL client of secril-client.cpp: the token pool, the request history and the table of
   completion handlers, the request functions that any thread may call and the record that
   the reader thread takes from the socket. The reader calls completion handlers and the error
   callback in the middle of `processSolicited`; requests sent meanwhile, by the callback or by
   another thread, find the token of the record still in use. The source takes no lock: a request
   function and the rest of `processSolicited` behind the callback are single steps here, so that
   only interleavings at the callback are covered. -/
namespace ClientState
open SlotTable Option

abbrev Word := BitVec 32

def tokenPoolSize : Nat := 32
def reqPoolSize : Nat := 32

inductive RilClientErr where
  | success | again | init | inval | connect | io | resource | unknown
  deriving DecidableEq, Repr

/- Unread bytes of a parcel, and the calls of Parcel that the client makes. -/
abbrev Parcel := List UInt8

def readInt32 : Parcel → Option (Word × Parcel)
  | b0 :: b1 :: b2 :: b3 :: rest =>
    some (BitVec.ofNat 32 (b0.toNat + 2 ^ 8 * b1.toNat + 2 ^ 16 * b2.toNat + 2 ^ 24 * b3.toNat),
      rest)
  | _ => none

def writeInt32 (word : Word) : Parcel :=
  [UInt8.ofNat word.toNat, UInt8.ofNat (word.toNat / 2 ^ 8), UInt8.ofNat (word.toNat / 2 ^ 16),
    UInt8.ofNat (word.toNat / 2 ^ 24)]

/-- The data must be there up to the padding; a negative length is refused. -/
def readInplace (p : Parcel) (len : Word) : Option Parcel :=
  if len.toNat < 2 ^ 31 ∧ (len.toNat + 3) / 4 * 4 ≤ p.length then some (p.take len.toNat)
  else none

theorem readInt32_writeInt32 (word : Word) (rest : Parcel) :
    readInt32 (writeInt32 word ++ rest) = some (word, rest) := by
  simp only [writeInt32, List.cons_append, List.nil_append, readInt32]
  congr 2
  apply BitVec.eq_of_toNat_eq
  have bound := word.isLt
  simp only [UInt8.toNat_ofNat', BitVec.toNat_ofNat]
  omega

structure ReqHistory where
  (token id : Word)
  deriving DecidableEq, Repr

/- `Fn` are the addresses of callback functions; NULL is `none`. -/
variable {Fn : Type}

structure ReqRespHandler (Fn : Type) where
  id : Word
  handler : Option Fn
  deriving DecidableEq, Repr

structure RilClientPrv (Fn : Type) where
  bConnect : Bool
  sock : Int
  tokenPool : Word
  history : Table ReqHistory tokenPoolSize
  reqHandlers : Table (ReqRespHandler Fn) reqPoolSize
  errCb : Option Fn
  bDelHandler : Bool

def openClientRild : RilClientPrv Fn where
  bConnect := false
  sock := -1
  tokenPool := 0
  history := filled tokenPoolSize ⟨0, 0⟩
  reqHandlers := filled reqPoolSize ⟨0, none⟩
  errCb := none
  bDelHandler := false

/-- The token and the new pool; no token is 0. -/
def allocateToken (tokenPool : Word) : Word × Word :=
  if tokenPool = 0xFFFFFFFF then (0, tokenPool)
  else
    match (List.range 32).find? fun i => tokenPool &&& (1#32 <<< i) = 0 with
    | some i => (1#32 <<< i, tokenPool ||| (1#32 <<< i))
    | none => (0, tokenPool)

def freeToken (tokenPool token : Word) : Word := tokenPool &&& ~~~token

def isValidToken (tokenPool token : Word) : Bool :=
  if token = 0 then false else tokenPool &&& token = token

abbrev History := Table ReqHistory tokenPoolSize

def recordReqHistory (history : History) (token id : Word) : Option History :=
  history.replaceFirst (fun slot => slot.token = 0) ⟨token, id⟩

def clearReqHistory (history : History) (token : Word) : History :=
  (history.replaceFirst (fun slot => slot.token = token) ⟨0, 0⟩).getD history

variable (prv : RilClientPrv Fn)

/-- The handler and the request id of its slot. A history entry whose id has no slot does not
    end the search. -/
def findReqHandler (token : Word) : Option (Option Fn × Word) :=
  prv.history.slots.findSome? fun entry =>
    if entry.token = token then
      (prv.reqHandlers.slots.find? fun slot => slot.id = entry.id).map fun slot =>
        (slot.handler, slot.id)
    else none

def handlerFor (id : Word) : Option Fn :=
  (prv.reqHandlers.slots.find? fun slot => slot.id = id).bind ReqRespHandler.handler

/-- The last slot with the id, and the first empty slot. -/
def findSlots (handlers : List (ReqRespHandler Fn)) (id : Word) : Option Nat × Option Nat :=
  handlers.zipIdx.foldl (fun found slot =>
    (if id = slot.1.id then some slot.2 else found.1,
      if found.2 = none ∧ slot.1.id = 0 then some slot.2 else found.2)) (none, none)

def registerRequestCompleteHandler (id : Word) (handler : Option Fn) :
    RilClientErr × RilClientPrv Fn :=
  let (matchSlot, firstEmptySlot) := findSlots prv.reqHandlers.slots id
  match handler, matchSlot, firstEmptySlot with
  -- unregister
  | none, some i, _ => (.success, { prv with reqHandlers := prv.reqHandlers.set i ⟨0, none⟩ })
  | none, none, _ => (.success, prv)
  -- register; a slot that matches has the id already
  | some _, some i, _ => (.success, { prv with reqHandlers := prv.reqHandlers.set i ⟨id, handler⟩ })
  | some _, none, some i =>
    (.success, { prv with reqHandlers := prv.reqHandlers.set i ⟨id, handler⟩ })
  | some _, none, none => (.resource, prv)

def releaseToken (token : Word) : RilClientPrv Fn :=
  { prv with
    tokenPool := freeToken prv.tokenPool token
    history := clearReqHistory prv.history token }

structure Writes where
  (header parcel : Int)
  deriving DecidableEq, Repr

structure Request where
  (token id : Word)
  deriving DecidableEq, Repr

structure Sent (Fn : Type) where
  ret : RilClientErr
  prv : RilClientPrv Fn
  request : Option Request

/-- The label `error`; the socket is given up for EPIPE and EBADFD. -/
def sendError (token : Word) (ret : Int) : Sent Fn :=
  let prv := releaseToken prv token
  let prv := if ret = -32 ∨ ret = -77 then { prv with sock := -1, bConnect := false } else prv
  ⟨.unknown, prv, none⟩

def sendOemRequestHookRaw (reqId : Word) (writes : Writes) : Sent Fn :=
  let (token, tokenPool) := allocateToken prv.tokenPool
  let prv := { prv with tokenPool := tokenPool }
  if token = 0 then ⟨.again, prv, none⟩
  else
    match recordReqHistory prv.history token reqId with
    | none => sendError prv token 0
    | some history =>
      let prv := { prv with history := history }
      if writes.header < 0 then sendError prv token writes.header
      else if writes.parcel < 0 then sendError prv token writes.parcel
      else
        match findReqHandler prv token with
        | some (some _, _) => ⟨.success, prv, some ⟨token, reqId⟩⟩
        -- no handler: the token is given back at once
        | _ => ⟨.success, releaseToken prv token, some ⟨token, reqId⟩⟩

inductive Callback (Fn : Type) where
  | complete (handler : Fn) (data : Option Parcel) (len : Word)
  | error (errCb : Fn) (err : Word)
  deriving DecidableEq, Repr

/-- What `processSolicited` does behind the callback: `reqId` is the id of the handler it has
    called. -/
structure Rest where
  token : Word
  reqId : Option Word
  ret : RilClientErr
  deriving DecidableEq, Repr

inductive Processed (Fn : Type) where
  | returned (ret : RilClientErr)
  | pending (callback : Option (Callback Fn)) (rest : Rest)
  deriving DecidableEq, Repr

/-- `processSolicited` up to the callback, if there is one. -/
def processSolicited (p : Parcel) : Processed Fn :=
  match readInt32 p with
  | none => .returned .io
  | some (token, p) =>
    if isValidToken prv.tokenPool token = false then .returned .inval
    else
      match readInt32 p with
      | none => .pending none ⟨token, none, .io⟩
      | some (err, p) =>
        if err ≠ 0 then
          .pending (prv.errCb.map fun errCb => .error errCb err) ⟨token, none, .success⟩
        else
          -- no length field
          let (len, p) := (readInt32 p).getD (0, p)
          let data := if len ≠ 0 then readInplace p len else none
          match findReqHandler prv token with
          | some (some handler, reqId) =>
            .pending (some (.complete handler data len)) ⟨token, some reqId, .success⟩
          | _ => .pending none ⟨token, none, .success⟩

def processSolicitedRest (rest : Rest) : RilClientErr × RilClientPrv Fn :=
  let prv :=
    match rest.reqId with
    | some reqId =>
      if prv.bDelHandler then
        (registerRequestCompleteHandler { prv with bDelHandler := false } reqId none).2
      else prv
    | none => prv
  (rest.ret, releaseToken prv rest.token)

/-- The handler that is called for an unsolicited response finds the client as it is. -/
def processUnsolicited (p : Parcel) : RilClientErr :=
  match readInt32 p with
  | none => .io
  | some _ => .success

def responseSolicited : Word := 0
def responseUnsolicited : Word := 1

def processRxBuffer (buffer : Parcel) : Processed Fn :=
  match readInt32 buffer with
  | none => .returned .io
  | some (responseType, p) =>
    if responseType = responseUnsolicited then .returned (processUnsolicited p)
    else if responseType = responseSolicited then processSolicited prv p
    else .returned .inval

/- The client as a machine: one reader thread, and calls from any thread between its steps. -/

inductive Reader where
  | waiting
  | inCallback (rest : Rest)
  deriving DecidableEq, Repr

structure Client (Fn : Type) where
  prv : RilClientPrv Fn
  reader : Reader

inductive Call (Fn : Type) where
  | registerRequestCompleteHandler (id : Word) (handler : Option Fn)
  | registerErrorCallback (cb : Option Fn)
  /-- The flag that `GetMute` sets before it registers its handler and sends. -/
  | setDelHandler
  | sendOemRequestHookRaw (reqId : Word) (writes : Writes)
  deriving DecidableEq, Repr

inductive Event (Fn : Type) where
  | call (call : Call Fn)
  | receive (buffer : Parcel)
  | callbackReturns
  deriving DecidableEq, Repr

def makeCall : Call Fn → RilClientPrv Fn × Option Request
  | .registerRequestCompleteHandler id handler =>
    ((registerRequestCompleteHandler prv id handler).2, none)
  | .registerErrorCallback cb => ({ prv with errCb := cb }, none)
  | .setDelHandler => ({ prv with bDelHandler := true }, none)
  | .sendOemRequestHookRaw reqId writes =>
    let sent := sendOemRequestHookRaw prv reqId writes
    (sent.prv, sent.request)

def clientStep (client : Client Fn) : Event Fn → Option (Client Fn)
  | .call call => some { client with prv := (makeCall client.prv call).1 }
  | .receive buffer =>
    match client.reader with
    | .waiting =>
      match processRxBuffer client.prv buffer with
      | .pending _ rest => some { client with reader := .inCallback rest }
      | .returned _ => some client
    | .inCallback _ => none
  | .callbackReturns =>
    match client.reader with
    | .waiting => none
    | .inCallback rest => some ⟨(processSolicitedRest client.prv rest).2, .waiting⟩

theorem findReqHandler_some {prv : RilClientPrv Fn} {token id : Word} {handler : Fn}
    (found : findReqHandler prv token = some (some handler, id)) :
    ∃ entry ∈ prv.history.slots, entry.token = token ∧
      handlerFor prv entry.id = some handler := by
  obtain ⟨entry, member, slot⟩ := List.exists_of_findSome?_eq_some found
  by_cases same : entry.token = token
  · rw [if_pos same, map_eq_some_iff] at slot
    obtain ⟨slot, search, pair⟩ := slot
    refine ⟨entry, member, same, ?_⟩
    rw [handlerFor, search]
    exact (Prod.mk.inj pair).1
  · rw [if_neg same] at slot
    cases slot

theorem receive_cases {client client' : Client Fn} {buffer : Parcel}
    (taken : clientStep client (.receive buffer) = some client') :
    client.reader = .waiting ∧
      ((∃ ret, processRxBuffer client.prv buffer = .returned ret ∧ client' = client) ∨
        ∃ callback rest, processRxBuffer client.prv buffer = .pending callback rest ∧
          client' = { client with reader := .inCallback rest }) := by
  unfold clientStep at taken
  cases reader : client.reader with
  | inCallback rest => rw [reader] at taken; cases taken
  | waiting =>
    rw [reader] at taken
    dsimp only at taken
    cases result : processRxBuffer client.prv buffer with
    | returned ret =>
      rw [result] at taken
      exact ⟨rfl, Or.inl ⟨ret, rfl, (some_inj.mp taken).symm⟩⟩
    | pending callback rest =>
      rw [result] at taken
      exact ⟨rfl, Or.inr ⟨callback, rest, rfl, (some_inj.mp taken).symm⟩⟩

theorem return_cases {client client' : Client Fn}
    (taken : clientStep client .callbackReturns = some client') :
    ∃ rest, client.reader = .inCallback rest ∧
      client' = ⟨(processSolicitedRest client.prv rest).2, .waiting⟩ := by
  unfold clientStep at taken
  cases reader : client.reader with
  | waiting => rw [reader] at taken; cases taken
  | inCallback rest =>
    rw [reader] at taken
    exact ⟨rest, rfl, (some_inj.mp taken).symm⟩

end ClientState
