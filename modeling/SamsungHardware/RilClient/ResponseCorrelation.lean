import SamsungHardware.RilClient.TokenHistory

/- The client and its server. The server answers each request at most once, with the token of
   the request. A request without a handler gives its token back when it is sent, and the
   token may be taken again before the response arrives. -/
namespace ResponseCorrelation
open ClientState BitPool StepRuns TokenHistory List Option

variable {Fn : Type}

structure Delivery (Fn : Type) where
  request : Request
  handler : Fn
  registered : Option Fn
  deriving DecidableEq, Repr

structure Link (Fn : Type) where
  client : Client Fn
  unanswered : List Request
  delivered : List (Delivery Fn)

inductive Move (Fn : Type) where
  | call (call : Call Fn)
  | answer (request : Request) (body : Parcel)
  | unsolicited (body : Parcel)
  | callbackReturns
  deriving DecidableEq, Repr

def answerRecord (request : Request) (body : Parcel) : Parcel :=
  writeInt32 responseSolicited ++ (writeInt32 request.token ++ body)

def completed : Processed Fn → Option Fn
  | .pending (some (.complete handler _ _)) _ => some handler
  | _ => none

def deliver (link : Link Fn) (request : Request) (body : Parcel) : List (Delivery Fn) :=
  match completed (processRxBuffer link.client.prv (answerRecord request body)) with
  | some handler =>
    ⟨request, handler, handlerFor link.client.prv request.id⟩ :: link.delivered
  | none => link.delivered

def linkStep (link : Link Fn) : Move Fn → Option (Link Fn)
  | .call call =>
    let (prv, request) := makeCall link.client.prv call
    some { link with
      client := { link.client with prv := prv }
      unanswered := request.toList ++ link.unanswered }
  | .answer request body =>
    if request ∈ link.unanswered then
      (clientStep link.client (.receive (answerRecord request body))).map fun client =>
        ⟨client, link.unanswered.erase request, deliver link request body⟩
    else none
  | .unsolicited body =>
    (clientStep link.client (.receive (writeInt32 responseUnsolicited ++ body))).map fun client =>
      { link with client := client }
  | .callbackReturns =>
    (clientStep link.client .callbackReturns).map fun client => { link with client := client }

def openLink : Link Fn := ⟨⟨openClientRild, .waiting⟩, [], []⟩

/-- A request whose handler is registered does not get the token of an unanswered request with
    another id. -/
def Careful (link : Link Fn) : Move Fn → Prop
  | .call (.sendOemRequestHookRaw reqId _) =>
    (handlerFor link.client.prv reqId).isSome → ∀ request ∈ link.unanswered,
      request.token = (allocateToken link.client.prv.tokenPool).1 → request.id = reqId
  | _ => True

structure Correlated (link : Link Fn) : Prop where
  sound : Sound link.client
  single : ∀ request ∈ link.unanswered, IsBit request.token
  ids : ∀ entry ∈ entries link.client.prv.history, ∀ request ∈ link.unanswered,
    request.token = entry.token → request.id = entry.id
  delivered : ∀ delivery ∈ link.delivered, delivery.registered = some delivery.handler

theorem recordToken_answer (request : Request) (body : Parcel) :
    recordToken (answerRecord request body) = some request.token := by
  rw [recordToken, answerRecord, readInt32_writeInt32]
  dsimp only
  rw [if_pos rfl, readInt32_writeInt32]
  rfl

theorem recordToken_unsolicited (body : Parcel) :
    recordToken (writeInt32 responseUnsolicited ++ body) = none := by
  rw [recordToken, readInt32_writeInt32]
  exact if_neg (by decide)

theorem deliver_registered {link : Link Fn} {request : Request} (body : Parcel)
    (correlated : Correlated link) (waiting : request ∈ link.unanswered) :
    ∀ delivery ∈ deliver link request body, delivery.registered = some delivery.handler := by
  unfold deliver
  cases result : processRxBuffer link.client.prv (answerRecord request body) with
  | returned ret => exact correlated.delivered
  | pending callback rest =>
    obtain ⟨record, valid, calls⟩ := pending_token result
    rw [recordToken_answer, some_inj] at record
    cases callback with
    | none => exact correlated.delivered
    | some callback =>
      cases callback with
      | error errCb err => exact correlated.delivered
      | complete handler data len =>
        obtain ⟨id, found⟩ := calls handler data len rfl
        obtain ⟨entry, member, same, registered⟩ := findReqHandler_some found
        have nonzero := (correlated.single request waiting).ne_zero
        have used : entry ∈ entries link.client.prv.history := by
          refine mem_filter.mpr ⟨member, decide_eq_true ?_⟩
          rw [same, ← record]
          exact nonzero
        have ids := correlated.ids entry used request waiting (record.trans same.symm)
        intro delivery delivered
        rcases mem_cons.mp delivered with rfl | old
        · rw [← ids] at registered
          exact registered
        · exact correlated.delivered delivery old

theorem receive_prv {client client' : Client Fn} {buffer : Parcel}
    (received : clientStep client (.receive buffer) = some client') : client'.prv = client.prv := by
  obtain ⟨_, ⟨_, _, rfl⟩ | ⟨_, _, _, rfl⟩⟩ := receive_cases received <;> rfl

theorem rest_subset {prv : RilClientPrv Fn} {rest : Rest} (consistent : Consistent prv)
    (held : rest.token ∈ tokens prv.history) :
    entries (processSolicitedRest prv rest).2.history ⊆ entries prv.history := by
  have nonzero := (consistent.bits rest.token held).ne_zero
  obtain ⟨front, slot, back, before, _, after⟩ := clearReqHistory_entries nonzero held
  rw [(rest_fields prv rest).1, before, after]
  intro entry member
  rcases mem_append.mp member with front | back
  · exact mem_append_left _ front
  · exact mem_append_right _ (mem_cons_of_mem _ back)

theorem sent_correlated {link : Link Fn} {reqId : Word} {sent : Sent Fn}
    (correlated : Correlated link) (effect : SendEffect link.client.prv reqId sent)
    (careful : (handlerFor link.client.prv reqId).isSome → ∀ request ∈ link.unanswered,
      request.token = (allocateToken link.client.prv.tokenPool).1 → request.id = reqId) :
    Correlated { link with
      client := { link.client with prv := sent.prv }
      unanswered := sent.request.toList ++ link.unanswered } := by
  obtain ⟨sound, single, ids, delivered⟩ := correlated
  obtain ⟨consistent, kept⟩ := effect.consistent sound.consistent
  have sound' : Sound { link.client with prv := sent.prv } :=
    ⟨consistent, fun rest inside => kept (sound.held rest inside)⟩
  cases effect with
  | silent same _ quiet =>
    rw [quiet]
    exact ⟨sound', single, fun entry used => ids entry (same ▸ used), delivered⟩
  | untracked token bit free same _ request =>
    have new := sound.consistent.fresh bit free
    rw [request]
    refine ⟨sound', forall_mem_cons.mpr ⟨bit, single⟩, ?_, delivered⟩
    intro entry used
    replace used : entry ∈ entries link.client.prv.history := same ▸ used
    refine forall_mem_cons.mpr ⟨fun shared => ?_, ids entry used⟩
    exact absurd (mem_map.mpr ⟨entry, used, shared.symm⟩) new
  | tracked token front back bit free before after _ request allocated waits =>
    have new := sound.consistent.fresh bit free
    rw [request]
    refine ⟨sound', forall_mem_cons.mpr ⟨bit, single⟩, ?_, delivered⟩
    intro entry used
    by_cases recent : entry.token = token
    · have id := only_recorded new before after used recent
      refine forall_mem_cons.mpr ⟨fun _ => id.symm, fun old waiting shared => ?_⟩
      rw [id]
      exact careful waits old waiting (by rw [allocated, shared, recent])
    · have older : entry ∈ entries link.client.prv.history := by
        rw [before, mem_append]
        rw [after, mem_append, mem_cons] at used
        rcases used with front | here | back
        · exact Or.inl front
        · exact absurd (congrArg ReqHistory.token here) recent
        · exact Or.inr back
      exact forall_mem_cons.mpr ⟨fun shared => absurd shared.symm recent, ids entry older⟩

theorem move_correlated {link link' : Link Fn} {move : Move Fn} (careful : Careful link move)
    (correlated : Correlated link) (taken : linkStep link move = some link') :
    Correlated link' := by
  obtain ⟨sound, single, ids, delivered⟩ := correlated
  cases move with
  | call call =>
    cases taken
    cases call with
    | registerRequestCompleteHandler id handler =>
      obtain ⟨consistent, kept⟩ :=
        call_consistent sound.consistent (.registerRequestCompleteHandler id handler)
      have history := (register_fields link.client.prv id handler).1
      exact ⟨⟨consistent, fun rest inside => kept (sound.held rest inside)⟩, single,
        fun entry used => ids entry (history ▸ used), delivered⟩
    | registerErrorCallback cb => exact ⟨⟨sound.consistent, sound.held⟩, single, ids, delivered⟩
    | setDelHandler => exact ⟨⟨sound.consistent, sound.held⟩, single, ids, delivered⟩
    | sendOemRequestHookRaw reqId writes =>
      exact sent_correlated ⟨sound, single, ids, delivered⟩
        (send_effect sound.consistent reqId writes) careful
  | answer request body =>
    rw [linkStep] at taken
    by_cases waiting : request ∈ link.unanswered
    · rw [if_pos waiting, map_eq_some_iff] at taken
      obtain ⟨client, received, rfl⟩ := taken
      have one : OneToken link.client (.receive (answerRecord request body)) := by
        intro token record _
        rw [recordToken_answer, some_inj] at record
        exact record ▸ single request waiting
      have after := deliver_registered body ⟨sound, single, ids, delivered⟩ waiting
      have sound' := step_sound one sound received
      refine ⟨sound', fun other member => single other (mem_of_mem_erase member), ?_, after⟩
      intro entry used other member
      have prv := receive_prv received
      exact ids entry (prv ▸ used) other (mem_of_mem_erase member)
    · rw [if_neg waiting] at taken
      cases taken
  | unsolicited body =>
    obtain ⟨client, received, rfl⟩ := map_eq_some_iff.mp taken
    have one : OneToken link.client (.receive (writeInt32 responseUnsolicited ++ body)) := by
      intro token record
      rw [recordToken_unsolicited] at record
      cases record
    have prv := receive_prv received
    exact ⟨step_sound one sound received, single, fun entry used => ids entry (prv ▸ used),
      delivered⟩
  | callbackReturns =>
    obtain ⟨client, returned, rfl⟩ := map_eq_some_iff.mp taken
    have always : OneToken link.client .callbackReturns := trivial
    refine ⟨step_sound always sound returned, single, fun entry used => ids entry ?_, delivered⟩
    obtain ⟨rest, inside, rfl⟩ := return_cases returned
    exact rest_subset sound.consistent (sound.held rest inside) used

/-- In a run in which no request with a registered handler gets the token of an unanswered
    request with another id, every response is delivered to the handler that is registered for
    the id of the request it answers. -/
theorem response_correlation (moves : List (Move Fn)) (link : Link Fn)
    (runs : RunsTo linkStep Careful openLink moves link) :
    ∀ delivery ∈ link.delivered, delivery.registered = some delivery.handler := by
  have start : Correlated (openLink : Link Fn) :=
    ⟨openClient_sound, by simp [openLink], by simp [openLink], by simp [openLink]⟩
  have correlated : Correlated link :=
    runs.preserves start fun _ _ _ careful before taken => move_correlated careful before taken
  exact correlated.delivered

/-- Two requests with handlers, answered in the other order. -/
theorem response_correlation_swapped : ∃ link : Link Nat,
    RunsTo linkStep Careful openLink
      [.call (.registerRequestCompleteHandler 1 (some 100)),
        .call (.registerRequestCompleteHandler 2 (some 200)),
        .call (.sendOemRequestHookRaw 1 ⟨0, 0⟩), .call (.sendOemRequestHookRaw 2 ⟨0, 0⟩),
        .answer ⟨2, 2⟩ [0, 0, 0, 0], .callbackReturns, .answer ⟨1, 1⟩ [0, 0, 0, 0]] link ∧
      (∀ delivery ∈ link.delivered, delivery.registered = some delivery.handler) ∧
      link.delivered = [⟨⟨1, 1⟩, 100, some 100⟩, ⟨⟨2, 2⟩, 200, some 200⟩] := by
  refine RunsTo.exists_and (response_correlation _) ⟨_, .next trivial rfl (.next trivial rfl
    (.next ?_ rfl (.next ?_ rfl (.next trivial rfl (.next trivial rfl (.next trivial rfl
    (.done _))))))), rfl⟩
  · intro _
    decide
  · intro _
    decide

/-- A request with id 2 has no handler and gives its token back; a request with id 1 takes the
    token, and its handler gets the response to the first request. -/
theorem late_response_to_other_handler : ∃ link : Link Nat,
    run linkStep openLink
      [.call (.registerRequestCompleteHandler 1 (some 100)),
        .call (.sendOemRequestHookRaw 2 ⟨0, 0⟩), .call (.sendOemRequestHookRaw 1 ⟨0, 0⟩),
        .answer ⟨1, 2⟩ [0, 0, 0, 0]] = some link ∧
      link.delivered = [⟨⟨1, 2⟩, 100, none⟩] ∧
      ¬ ∀ delivery ∈ link.delivered, delivery.registered = some delivery.handler := by
  refine ⟨_, rfl, rfl, fun registered => ?_⟩
  have lost := registered ⟨⟨1, 2⟩, 100, none⟩ (by decide)
  cases lost

end ResponseCorrelation
