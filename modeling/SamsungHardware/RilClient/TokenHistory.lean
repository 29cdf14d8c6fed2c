import SamsungHardware.Library.BitPool
import SamsungHardware.Library.StepRuns
import SamsungHardware.RilClient.ClientState

/- The token pool and the request history. The pool is the union of the tokens in the history
   as long as no record names several tokens at once: such a record passes the mask test of
   `IsValidToken`, frees all of its tokens and clears no history entry. -/
namespace TokenHistory
open ClientState SlotTable BitPool StepRuns List Option

variable {Fn : Type} {prv : RilClientPrv Fn} {token id pool : Word}

def entries (history : History) : List ReqHistory := history.slots.filter fun slot => slot.token ≠ 0

def tokens (history : History) : List Word := (entries history).map ReqHistory.token

def Consistent (prv : RilClientPrv Fn) : Prop := Ledger (tokens prv.history) prv.tokenPool

theorem allocateToken_cases (pool : Word) :
    allocateToken pool = (0, pool) ∨
      ∃ token, IsBit token ∧ pool &&& token = 0 ∧ allocateToken pool = (token, pool ||| token) := by
  unfold allocateToken
  by_cases full : pool = 0xFFFFFFFF
  · rw [if_pos full]
    exact Or.inl rfl
  · rw [if_neg full]
    cases found : (List.range 32).find? fun i => pool &&& (1#32 <<< i) = 0 with
    | none => exact Or.inl rfl
    | some i =>
      have less := mem_range.mp (mem_of_find?_eq_some found)
      have free := find?_some found
      refine Or.inr ⟨1#32 <<< i, ⟨i, less, ?_⟩, of_decide_eq_true free, rfl⟩
      rw [BitVec.twoPow_eq]

variable {history : History} {front back : List ReqHistory} {callback : Option (Callback Fn)}
  {rest : Rest}

theorem entries_split {slot : ReqHistory} (split : history.slots = front ++ slot :: back) :
    entries history = front.filter (fun slot => slot.token ≠ 0) ++
      (if slot.token = 0 then [] else [slot]) ++ back.filter (fun slot => slot.token ≠ 0) := by
  rw [entries, split, filter_append, filter_cons, append_assoc]
  by_cases empty : slot.token = 0
  · rw [if_neg (by simp [empty]), if_pos empty, nil_append]
  · rw [if_pos (decide_eq_true empty), if_neg empty, singleton_append]

theorem recordReqHistory_entries {history history' : History} (nonzero : token ≠ 0)
    (recorded : recordReqHistory history token id = some history') :
    ∃ front back, entries history = front ++ back ∧
      entries history' = front ++ ⟨token, id⟩ :: back := by
  obtain ⟨front, old, back, split, _, empty, result⟩ := replaceFirst_some (Table.replaceFirst_slots recorded)
  have free : old.token = 0 := of_decide_eq_true empty
  rw [entries_split split, entries_split result, if_pos free, if_neg nonzero]
  exact ⟨_, _, append_nil _ ▸ rfl, append_assoc _ _ _⟩

theorem clearReqHistory_entries (nonzero : token ≠ 0) (used : token ∈ tokens history) :
    ∃ front slot back, entries history = front ++ slot :: back ∧ slot.token = token ∧
      entries (clearReqHistory history token) = front ++ back := by
  unfold clearReqHistory
  cases found : history.replaceFirst (fun slot => slot.token = token) ⟨0, 0⟩ with
  | none =>
    obtain ⟨slot, member, same⟩ := mem_map.mp used
    have absent := Table.replaceFirst_none.mp found slot (mem_filter.mp member).1
    exact absurd same (of_decide_eq_false absent)
  | some history' =>
    obtain ⟨front, old, back, split, _, here, result⟩ := replaceFirst_some (Table.replaceFirst_slots found)
    have same : old.token = token := of_decide_eq_true here
    rw [getD_some, entries_split split, entries_split result, if_pos rfl, if_neg (same ▸ nonzero)]
    exact ⟨_, old, _, append_assoc _ _ _, same, append_nil _ ▸ rfl⟩

theorem releaseToken_consistent (consistent : Consistent prv)
    (used : token ∈ tokens prv.history) : Consistent (releaseToken prv token) := by
  have nonzero := (consistent.bits token used).ne_zero
  obtain ⟨front, slot, back, before, same, after⟩ := clearReqHistory_entries nonzero used
  rw [Consistent, tokens, before, map_append, map_cons, same] at consistent
  change Ledger ((entries (clearReqHistory prv.history token)).map _) _
  rw [after, map_append]
  exact consistent.remove

theorem clear_recorded {history history' : History} (nonzero : token ≠ 0)
    (new : token ∉ tokens history) (recorded : recordReqHistory history token id = some history') :
    entries (clearReqHistory history' token) = entries history := by
  obtain ⟨front, old, back, split, _, empty, result⟩ :=
    replaceFirst_some (Table.replaceFirst_slots recorded)
  have free : old.token = 0 := of_decide_eq_true empty
  have before : ∀ slot ∈ front, decide (slot.token = token) = false := by
    intro slot member
    refine decide_eq_false fun same => new (mem_map.mpr ⟨slot, ?_, same⟩)
    refine mem_filter.mpr ⟨split ▸ mem_append_left _ member, ?_⟩
    exact decide_eq_true (same ▸ nonzero)
  have cleared : replaceFirst (fun slot => decide (slot.token = token)) ⟨0, 0⟩ history'.slots =
      some (front ++ ⟨0, 0⟩ :: back) := by
    rw [result]
    exact replaceFirst_at _ before (decide_eq_true rfl)
  unfold clearReqHistory
  cases found : history'.replaceFirst (fun slot => slot.token = token) ⟨0, 0⟩ with
  | none =>
    have absent := Table.replaceFirst_none.mp found ⟨token, id⟩ (by simp [result])
    exact absurd rfl (of_decide_eq_false absent)
  | some history'' =>
    have slots := Table.replaceFirst_slots found
    rw [cleared, some_inj] at slots
    rw [getD_some, entries_split slots.symm, entries_split split, if_pos rfl, if_pos free]

theorem recordReqHistory_succeeds (consistent : Consistent prv) (single : IsBit token)
    (free : prv.tokenPool &&& token = 0) (id : Word) :
    ∃ history, recordReqHistory prv.history token id = some history := by
  cases recorded : recordReqHistory prv.history token id with
  | some history => exact ⟨history, rfl⟩
  | none =>
    have full := Table.replaceFirst_none.mp recorded
    have all : entries prv.history = prv.history.slots := by
      refine filter_eq_self.mpr fun slot member => ?_
      exact decide_eq_true (of_decide_eq_false (full slot member))
    have less := consistent.length_lt single free
    rw [tokens, length_map, all, prv.history.size] at less
    exact absurd less (Nat.lt_irrefl _)

theorem only_recorded {history history' : History} (new : token ∉ tokens history)
    (before : entries history = front ++ back)
    (after : entries history' = front ++ ⟨token, id⟩ :: back) {entry : ReqHistory}
    (member : entry ∈ entries history') (same : entry.token = token) : entry.id = id := by
  have old : entry ∉ entries history := fun used => new (mem_map.mpr ⟨entry, used, same⟩)
  rw [before, mem_append] at old
  rw [after, mem_append, mem_cons] at member
  rcases member with front | here | back
  · exact absurd (Or.inl front) old
  · rw [here]
  · exact absurd (Or.inr back) old

/-- What sending a request does to the tokens: nothing remains of it, or its token is recorded
    because a handler waits for the response. -/
inductive SendEffect (prv : RilClientPrv Fn) (reqId : Word) (sent : Sent Fn) : Prop where
  | silent (same : entries sent.prv.history = entries prv.history)
      (pool : sent.prv.tokenPool = prv.tokenPool) (quiet : sent.request = none)
  | untracked (token : Word) (single : IsBit token) (free : prv.tokenPool &&& token = 0)
      (same : entries sent.prv.history = entries prv.history)
      (pool : sent.prv.tokenPool = prv.tokenPool) (request : sent.request = some ⟨token, reqId⟩)
  | tracked (token : Word) (front back : List ReqHistory) (single : IsBit token)
      (free : prv.tokenPool &&& token = 0) (before : entries prv.history = front ++ back)
      (after : entries sent.prv.history = front ++ ⟨token, reqId⟩ :: back)
      (pool : sent.prv.tokenPool = prv.tokenPool ||| token)
      (request : sent.request = some ⟨token, reqId⟩)
      (allocated : (allocateToken prv.tokenPool).1 = token)
      (waits : (handlerFor prv reqId).isSome)

theorem sendError_fields (prv : RilClientPrv Fn) (token : Word) (ret : Int) :
    (sendError prv token ret).prv.history = clearReqHistory prv.history token ∧
      (sendError prv token ret).prv.tokenPool = freeToken prv.tokenPool token ∧
      (sendError prv token ret).request = none := by
  unfold sendError
  by_cases closed : ret = -32 ∨ ret = -77
  · simp [closed, releaseToken]
  · simp [closed, releaseToken]

theorem send_effect (consistent : Consistent prv) (reqId : Word) (writes : Writes) :
    SendEffect prv reqId (sendOemRequestHookRaw prv reqId writes) := by
  unfold sendOemRequestHookRaw
  rcases allocateToken_cases prv.tokenPool with none | ⟨token, single, free, allocated⟩
  · rw [none]
    exact .silent rfl rfl rfl
  · rw [allocated]
    have nonzero := single.ne_zero
    obtain ⟨history, recorded⟩ := recordReqHistory_succeeds consistent single free reqId
    obtain ⟨front, back, before, after⟩ := recordReqHistory_entries nonzero recorded
    have new := consistent.fresh single free
    have clear := clear_recorded nonzero new recorded
    have pool : freeToken (prv.tokenPool ||| token) token = prv.tokenPool := take_give free
    have failed (ret : Int) : SendEffect prv reqId
        (sendError { prv with tokenPool := prv.tokenPool ||| token, history := history } token
          ret) := by
      obtain ⟨cleared, freed, quiet⟩ := sendError_fields
        { prv with tokenPool := prv.tokenPool ||| token, history := history } token ret
      exact .silent (by rw [cleared]; exact clear) (freed.trans pool) quiet
    simp only [if_neg nonzero, recorded]
    by_cases header : writes.header < 0
    · rw [if_pos header]
      exact failed writes.header
    rw [if_neg header]
    by_cases parcel : writes.parcel < 0
    · rw [if_pos parcel]
      exact failed writes.parcel
    rw [if_neg parcel]
    split
    case h_1 handler id found =>
      have waits : (handlerFor prv reqId).isSome := by
        obtain ⟨entry, member, same, registered⟩ := findReqHandler_some found
        have recent := only_recorded new before after
          (mem_filter.mpr ⟨member, decide_eq_true (same ▸ nonzero)⟩) same
        rw [recent] at registered
        exact isSome_of_eq_some registered
      exact .tracked token front back single free before after rfl rfl (by rw [allocated]) waits
    case h_2 => exact .untracked token single free clear pool rfl

theorem register_fields (prv : RilClientPrv Fn) (id : Word) (handler : Option Fn) :
    (registerRequestCompleteHandler prv id handler).2.history = prv.history ∧
      (registerRequestCompleteHandler prv id handler).2.tokenPool = prv.tokenPool := by
  unfold registerRequestCompleteHandler
  dsimp only
  split <;> exact ⟨rfl, rfl⟩

theorem SendEffect.consistent {reqId : Word} {sent : Sent Fn} (before : Consistent prv)
    (effect : SendEffect prv reqId sent) :
    Consistent sent.prv ∧ tokens prv.history ⊆ tokens sent.prv.history := by
  unfold Consistent tokens at before ⊢
  cases effect with
  | silent same pool => rw [same, pool]; exact ⟨before, fun _ member => member⟩
  | untracked _ _ _ same pool => rw [same, pool]; exact ⟨before, fun _ member => member⟩
  | tracked token front back single free split after pool =>
    rw [split, map_append] at before
    rw [after, pool, split, map_append, map_append, map_cons]
    refine ⟨before.insert single free, fun t member => ?_⟩
    rcases mem_append.mp member with old | old
    · exact mem_append_left _ old
    · exact mem_append_right _ (mem_cons_of_mem _ old)

theorem call_consistent (before : Consistent prv) (call : Call Fn) :
    Consistent (makeCall prv call).1 ∧ tokens prv.history ⊆ tokens (makeCall prv call).1.history := by
  cases call with
  | registerRequestCompleteHandler id handler =>
    obtain ⟨history, pool⟩ := register_fields prv id handler
    unfold Consistent
    dsimp only [makeCall]
    rw [history, pool]
    exact ⟨before, fun _ member => member⟩
  | registerErrorCallback cb => exact ⟨before, fun _ member => member⟩
  | setDelHandler => exact ⟨before, fun _ member => member⟩
  | sendOemRequestHookRaw reqId writes => exact (send_effect before reqId writes).consistent before

def recordToken (buffer : Parcel) : Option Word :=
  match readInt32 buffer with
  | none => none
  | some (responseType, p) =>
    if responseType = responseSolicited then (readInt32 p).map Prod.fst else none

/-- The handler that is called is one that `findReqHandler` finds for the token. -/
def Calls (prv : RilClientPrv Fn) (token : Word) (callback : Option (Callback Fn)) : Prop :=
  ∀ handler data len, callback = some (.complete handler data len) →
    ∃ id, findReqHandler prv token = some (some handler, id)

theorem solicited_pending {p : Parcel} (pending : processSolicited prv p = .pending callback rest) :
    (∃ p', readInt32 p = some (rest.token, p')) ∧
      isValidToken prv.tokenPool rest.token = true ∧ Calls prv rest.token callback := by
  unfold processSolicited at pending
  cases first : readInt32 p with
  | none => rw [first] at pending; cases pending
  | some read =>
    obtain ⟨token, p'⟩ := read
    rw [first] at pending
    dsimp only at pending
    by_cases invalid : isValidToken prv.tokenPool token = false
    · rw [if_pos invalid] at pending
      cases pending
    rw [if_neg invalid] at pending
    have valid := eq_true_of_ne_false invalid
    -- every other exit releases the token of the record
    split at pending
    · cases pending
      exact ⟨⟨p', rfl⟩, valid, fun _ _ _ called => by cases called⟩
    · split at pending
      · cases pending
        refine ⟨⟨p', rfl⟩, valid, fun handler data len called => ?_⟩
        obtain ⟨_, _, other⟩ := map_eq_some_iff.mp called
        cases other
      · split at pending
        case h_1 handler id found =>
          cases pending
          refine ⟨⟨p', rfl⟩, valid, fun handler' data len called => ?_⟩
          cases called
          exact ⟨id, found⟩
        case h_2 =>
          cases pending
          exact ⟨⟨p', rfl⟩, valid, fun _ _ _ called => by cases called⟩

theorem pending_token {buffer : Parcel}
    (pending : processRxBuffer prv buffer = .pending callback rest) :
    recordToken buffer = some rest.token ∧ isValidToken prv.tokenPool rest.token = true ∧
      Calls prv rest.token callback := by
  unfold processRxBuffer at pending
  unfold recordToken
  cases first : readInt32 buffer with
  | none => rw [first] at pending; cases pending
  | some read =>
    obtain ⟨responseType, p⟩ := read
    rw [first] at pending
    dsimp only at pending ⊢
    by_cases unsolicited : responseType = responseUnsolicited
    · rw [if_pos unsolicited] at pending
      cases pending
    rw [if_neg unsolicited] at pending
    by_cases solicited : responseType = responseSolicited
    · rw [if_pos solicited] at pending
      obtain ⟨⟨p', second⟩, outcome⟩ := solicited_pending pending
      rw [if_pos solicited, second]
      exact ⟨rfl, outcome⟩
    · rw [if_neg solicited] at pending
      cases pending

structure Sound (client : Client Fn) : Prop where
  consistent : Consistent client.prv
  held : ∀ rest, client.reader = .inCallback rest → rest.token ∈ tokens client.prv.history

/-- No received record names several tokens of the pool. -/
def OneToken (client : Client Fn) : Event Fn → Prop
  | .receive buffer => ∀ token, recordToken buffer = some token →
      isValidToken client.prv.tokenPool token = true → IsBit token
  | _ => True

theorem isValidToken_used (consistent : Consistent prv) (single : IsBit token)
    (valid : isValidToken prv.tokenPool token = true) : token ∈ tokens prv.history := by
  rw [isValidToken, if_neg single.ne_zero] at valid
  exact (consistent.mem_iff single).mpr (of_decide_eq_true valid)

theorem rest_fields (prv : RilClientPrv Fn) (rest : Rest) :
    (processSolicitedRest prv rest).2.history = clearReqHistory prv.history rest.token ∧
      (processSolicitedRest prv rest).2.tokenPool = freeToken prv.tokenPool rest.token := by
  unfold processSolicitedRest releaseToken
  cases rest.reqId with
  | none => exact ⟨rfl, rfl⟩
  | some reqId =>
    obtain ⟨history, pool⟩ := register_fields { prv with bDelHandler := false } reqId none
    by_cases delete : prv.bDelHandler = true
    · simp only [if_pos delete, history, pool, and_self]
    · simp only [if_neg delete, and_self]

theorem rest_consistent (consistent : Consistent prv) (held : rest.token ∈ tokens prv.history) :
    Consistent (processSolicitedRest prv rest).2 := by
  obtain ⟨history, pool⟩ := rest_fields prv rest
  rw [Consistent, history, pool]
  exact releaseToken_consistent consistent held

theorem step_sound {client client' : Client Fn} {event : Event Fn} (one : OneToken client event)
    (sound : Sound client) (taken : clientStep client event = some client') : Sound client' := by
  obtain ⟨consistent, held⟩ := sound
  cases event with
  | call call =>
    obtain ⟨after, kept⟩ := call_consistent consistent call
    cases taken
    exact ⟨after, fun rest inside => kept (held rest inside)⟩
  | receive buffer =>
    obtain ⟨_, ⟨ret, _, rfl⟩ | ⟨callback, rest, pending, rfl⟩⟩ := receive_cases taken
    · exact ⟨consistent, held⟩
    · obtain ⟨record, valid, _⟩ := pending_token pending
      have used := isValidToken_used consistent (one rest.token record valid) valid
      refine ⟨consistent, fun rest' inside => ?_⟩
      cases inside
      exact used
  | callbackReturns =>
    obtain ⟨rest, inside, rfl⟩ := return_cases taken
    exact ⟨rest_consistent consistent (held rest inside), fun rest' waiting => by cases waiting⟩

/-- The invariant of the pool and the history, and what it gives to the next request. -/
structure TokenInvariant (prv : RilClientPrv Fn) : Prop where
  single : ∀ token ∈ tokens prv.history, IsBit token
  distinct : (tokens prv.history).Nodup
  union : prv.tokenPool = union (tokens prv.history)
  fresh : ∀ token pool, allocateToken prv.tokenPool = (token, pool) → token ≠ 0 →
    token ∉ tokens prv.history
  recorded : ∀ token pool id, allocateToken prv.tokenPool = (token, pool) → token ≠ 0 →
    recordReqHistory prv.history token id ≠ none

theorem Consistent.tokenInvariant (consistent : Consistent prv) : TokenInvariant prv := by
  have allocated {token pool : Word} (taken : allocateToken prv.tokenPool = (token, pool))
      (nonzero : token ≠ 0) : IsBit token ∧ prv.tokenPool &&& token = 0 := by
    rcases allocateToken_cases prv.tokenPool with none | ⟨token', single, free, some⟩
    · rw [none] at taken
      cases taken
      exact absurd rfl nonzero
    · rw [some] at taken
      cases taken
      exact ⟨single, free⟩
  refine ⟨consistent.bits, consistent.distinct, consistent.sum, ?_, ?_⟩
  · intro token pool taken nonzero
    obtain ⟨single, free⟩ := allocated taken nonzero
    exact consistent.fresh single free
  · intro token pool id taken nonzero full
    obtain ⟨single, free⟩ := allocated taken nonzero
    obtain ⟨history, recorded⟩ := recordReqHistory_succeeds consistent single free id
    rw [full] at recorded
    cases recorded

theorem openClient_sound : Sound (⟨openClientRild, .waiting⟩ : Client Fn) := by
  refine ⟨?_, fun rest inside => by cases inside⟩
  exact Ledger.empty

theorem clearReqHistory_absent (nonzero : token ≠ 0) (absent : token ∉ tokens history) :
    clearReqHistory history token = history := by
  unfold clearReqHistory
  rw [Table.replaceFirst_none.mpr]
  · rfl
  · intro slot member
    refine decide_eq_false fun same => absent (mem_map.mpr ⟨slot, ?_, same⟩)
    exact mem_filter.mpr ⟨member, decide_eq_true (same ▸ nonzero)⟩

/-- A record with several tokens of the pool takes them from the pool and leaves them in the
    history. -/
theorem several_tokens_break (consistent : Consistent prv)
    (valid : isValidToken prv.tokenPool rest.token = true) (several : ¬ IsBit rest.token) :
    ¬ TokenInvariant (processSolicitedRest prv rest).2 := by
  intro invariant
  obtain ⟨history, pool⟩ := rest_fields prv rest
  by_cases zero : rest.token = 0
  · rw [isValidToken, if_pos zero] at valid
    cases valid
  · rw [isValidToken, if_neg zero] at valid
    have absent : rest.token ∉ tokens prv.history := fun used =>
      several (consistent.bits _ used)
    have sum := invariant.union
    rw [history, pool, clearReqHistory_absent zero absent, ← consistent.sum] at sum
    exact give_ne (of_decide_eq_true valid) zero sum

/-- In a run in which no received record names several tokens of the pool, the pool and the
    history agree in every state; a record that does is all it takes to break them. -/
theorem token_history_invariant (events : List (Event Fn)) (client : Client Fn)
    (runs : RunsTo clientStep OneToken ⟨openClientRild, .waiting⟩ events client) :
    TokenInvariant client.prv ∧
      ∀ buffer client', run clientStep client [.receive buffer, .callbackReturns] = some client' →
        (TokenInvariant client'.prv ↔ OneToken client (.receive buffer)) := by
  have sound : Sound client :=
    runs.preserves openClient_sound fun _ _ _ one before taken => step_sound one before taken
  refine ⟨sound.consistent.tokenInvariant, fun buffer client' taken => ?_⟩
  simp only [run, bind_eq_some_iff, some_inj] at taken
  obtain ⟨middle, received, after, finished, rfl⟩ := taken
  constructor
  · intro invariant token record valid
    by_contra several
    obtain ⟨rest, inside, rfl⟩ := return_cases finished
    obtain ⟨waiting, ⟨ret, _, rfl⟩ | ⟨callback, rest', pending, rfl⟩⟩ := receive_cases received
    · rw [waiting] at inside
      cases inside
    · cases inside
      obtain ⟨same, _⟩ := pending_token pending
      rw [record, some_inj] at same
      subst same
      exact several_tokens_break sound.consistent valid several invariant
  · intro one
    have next : Sound middle := step_sound one sound received
    have always : OneToken middle .callbackReturns := trivial
    have last : Sound after := step_sound always next finished
    exact last.consistent.tokenInvariant

/-- A request with a handler is sent and answered: its token is free again. -/
theorem token_history_answered : ∃ client : Client Nat,
    RunsTo clientStep OneToken ⟨openClientRild, .waiting⟩
      [.call (.registerRequestCompleteHandler 1 (some 100)),
        .call (.sendOemRequestHookRaw 1 ⟨0, 0⟩),
        .receive [0, 0, 0, 0, 1, 0, 0, 0, 0, 0, 0, 0], .callbackReturns] client ∧
      TokenInvariant client.prv ∧ client.prv.tokenPool = 0 := by
  have one (client : Client Nat) :
      OneToken client (.receive [0, 0, 0, 0, 1, 0, 0, 0, 0, 0, 0, 0]) := by
    intro token record _
    exact ⟨0, by decide, (some_inj.mp record).symm⟩
  exact RunsTo.exists_and (fun client runs => (token_history_invariant _ client runs).1)
    ⟨_, .next trivial rfl (.next trivial rfl (.next (one _) rfl (.next trivial rfl (.done _)))),
      rfl⟩

/-- Two requests are out with tokens 1 and 2; a record with token 3 empties the pool. -/
theorem both_tokens_freed_at_once : ∃ client : Client Nat,
    run clientStep ⟨openClientRild, .waiting⟩
      [.call (.registerRequestCompleteHandler 1 (some 100)),
        .call (.sendOemRequestHookRaw 1 ⟨0, 0⟩), .call (.sendOemRequestHookRaw 1 ⟨0, 0⟩),
        .receive [0, 0, 0, 0, 3, 0, 0, 0, 0, 0, 0, 0], .callbackReturns] = some client ∧
      tokens client.prv.history = [1, 2] ∧ allocateToken client.prv.tokenPool = (1, 1) ∧
      ¬ TokenInvariant client.prv := by
  refine ⟨_, rfl, rfl, rfl, fun invariant => ?_⟩
  exact invariant.fresh 1 1 rfl (by decide) (by decide)

end TokenHistory
