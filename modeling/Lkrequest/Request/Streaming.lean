import Lkrequest.Request.Forwarders
import Lkrequest.Request.Multipart

namespace Lkrequest
namespace Request

open Foundations
open Session (EventHooks Response Seconds StrPairs UploadSource headersVal supportedMethods)

/-!
# Streaming requests beside buffered ones

`request` and `send_streaming` share `apply_request_options` and the checks
before it.  Around it they are written separately: `request` puts the method in
upper case and fires the hooks of the session.  A call is compared by what it
does that others can see, from its first hook to its last.
-/

/-! ## The effects of a call -/

/-- What a call does. -/
inductive Effect
  | requestHook (hook : PyObject) (method url : String) (headers : StrPairs)
  | call (call : BuilderCall)
  | send
  | responseHook (hook : PyObject) (statusCode : Nat) (url : String) (elapsed : Seconds)
deriving DecidableEq

namespace Effect

def requestHook? : Effect -> Option PyObject
  | .requestHook hook _ _ _ => some hook
  | _ => none

def responseHook? : Effect -> Option PyObject
  | .responseHook hook _ _ _ => some hook
  | _ => none

def call? : Effect -> Option BuilderCall
  | .call asked => some asked
  | _ => none

end Effect

/-- What a `send` brings: an exception, or a response with the seconds it took. -/
abbrev Sent := Except PyErr (Response × Seconds)

def fireRequest (hooks : EventHooks) (req : PreparedRequest) : List Effect :=
  hooks.requestHooks.map (fun hook => .requestHook hook req.method req.url (headersVal req.headers))

def fireResponse (hooks : EventHooks) (resp : Response) (elapsed : Seconds) : List Effect :=
  hooks.responseHooks.map (fun hook => .responseHook hook resp.statusCode resp.url elapsed)

/-- `apply_request_options`, and if it returns a builder the send and what is done after it. -/
def applyAndSend (library : Library) (req : PreparedRequest) (afterwards : List Effect) : List Effect :=
  match applyRequestOptions library req with
  | (calls, .error _) => calls.map .call
  | (calls, .ok ()) => calls.map .call ++ .send :: afterwards

/-- What `execute_request` does after the send: an exception is raised, a response reported. -/
def reported (hooks : EventHooks) : Sent -> List Effect
  | .ok (resp, elapsed) => fireResponse hooks resp elapsed
  | .error _ => []

/-- `execute_request`, left to itself. -/
def executeRequest (library : Library) (hooks : EventHooks) (sent : Sent) (req : PreparedRequest) :
    List Effect :=
  fireRequest hooks req ++ applyAndSend library req (reported hooks sent)

/-- The future of `send_streaming`. -/
def executeStreaming (library : Library) (req : PreparedRequest) : List Effect :=
  applyAndSend library req []

/-- A method that raises does nothing more. -/
def performed (method : Op PreparedRequest) (execute : PreparedRequest -> List Effect) (store : Store) :
    List Effect :=
  match method.run store with
  | .ok prepared _ => execute prepared
  | .error _ _ => []

section Calls

variable (library : Library) (session : Handle) (running : Bool) (flavour : Flavour)

/-- `session.request(method, url, **args)`. -/
def requestEffects (sent : Sent) (method url : String) (args : RequestArgs) (store : Store) :
    List Effect :=
  performed (request (flavour.make library session running) running library method url args)
    (executeRequest library session.state.hooks sent) store

/-- `session.send_streaming(method, url, **args)`. -/
def streamingEffects (method url : String) (args : StreamingArgs) (store : Store) : List Effect :=
  performed (sendStreaming library session running (flavour.submit running) method url args)
    (executeStreaming library) store

end Calls

/-- The hooks are called as documented: those for requests once each before the
request is sent, those for responses once each after a response has arrived. -/
structure Observed (hooks : EventHooks) (sent : Sent) (effects : List Effect) : Prop where
  requests : (effects.takeWhile (· ≠ .send)).filterMap Effect.requestHook? = hooks.requestHooks
  requestsDone : (effects.dropWhile (· ≠ .send)).filterMap Effect.requestHook? = []
  responsesLater : (effects.takeWhile (· ≠ .send)).filterMap Effect.responseHook? = []
  responses : (effects.dropWhile (· ≠ .send)).filterMap Effect.responseHook? =
    if sent.isOk then hooks.responseHooks else []

/-- Both calls are sent or both are rejected, and when they are sent the builder
is asked the same and the hooks are called. -/
structure TreatedAlike (hooks : EventHooks) (sent : Sent) (buffered streaming : List Effect) :
    Prop where
  rejected : Effect.send ∉ buffered <-> Effect.send ∉ streaming
  calls : Effect.send ∈ buffered -> Effect.send ∈ streaming ->
    buffered.filterMap Effect.call? = streaming.filterMap Effect.call?
  bufferedHooks : Effect.send ∈ buffered -> Observed hooks sent buffered
  streamingHooks : Effect.send ∈ streaming -> Observed hooks sent streaming

/-! ## The hooks around a send -/

section Hooks

variable {hooks : EventHooks} {sent : Sent} {before afterwards : List Effect}

theorem observed_iff (first : Effect.send ∉ before) :
    Observed hooks sent (before ++ .send :: afterwards) <->
      before.filterMap Effect.requestHook? = hooks.requestHooks ∧
      afterwards.filterMap Effect.requestHook? = [] ∧
      before.filterMap Effect.responseHook? = [] ∧
      afterwards.filterMap Effect.responseHook? = if sent.isOk then hooks.responseHooks else [] := by
  have earlier : ∀ effect ∈ before, decide (effect ≠ Effect.send) = true := by
    intro effect among
    apply decide_eq_true
    intro isSend
    exact first (isSend ▸ among)
  have taken : (before ++ .send :: afterwards).takeWhile (· ≠ Effect.send) = before := by
    rw [List.takeWhile_append_of_pos earlier, List.takeWhile_cons_of_neg (by decide), List.append_nil]
  have dropped : (before ++ .send :: afterwards).dropWhile (· ≠ Effect.send) =
      .send :: afterwards := by
    rw [List.dropWhile_append_of_pos earlier, List.dropWhile_cons_of_neg (by decide)]
  constructor
  · rintro ⟨requests, requestsDone, responsesLater, responses⟩
    rw [taken] at requests responsesLater
    rw [dropped] at requestsDone responses
    exact ⟨requests, requestsDone, responsesLater, responses⟩
  · rintro ⟨requests, requestsDone, responsesLater, responses⟩
    refine ⟨?_, ?_, ?_, ?_⟩
    · rw [taken]
      exact requests
    · rw [dropped]
      exact requestsDone
    · rw [taken]
      exact responsesLater
    · rw [dropped]
      exact responses

variable (hooks) (req : PreparedRequest) (calls : List BuilderCall)

theorem send_not_mem_calls : Effect.send ∉ calls.map Effect.call := by
  simp

theorem send_not_mem_fireRequest : Effect.send ∉ fireRequest hooks req := by
  simp [fireRequest]

theorem requestHook_calls : (calls.map Effect.call).filterMap Effect.requestHook? = [] := by
  simp [Effect.requestHook?]

theorem responseHook_calls : (calls.map Effect.call).filterMap Effect.responseHook? = [] := by
  simp [Effect.responseHook?]

theorem call_calls : (calls.map Effect.call).filterMap Effect.call? = calls := by
  induction calls with
  | nil => rfl
  | cons call rest asked => exact congrArg (call :: ·) asked

theorem requestHook_fireRequest :
    (fireRequest hooks req).filterMap Effect.requestHook? = hooks.requestHooks := by
  unfold fireRequest
  induction hooks.requestHooks with
  | nil => rfl
  | cons hook rest called => exact congrArg (hook :: ·) called

theorem responseHook_fireRequest : (fireRequest hooks req).filterMap Effect.responseHook? = [] := by
  simp [fireRequest, Effect.responseHook?]

theorem call_fireRequest : (fireRequest hooks req).filterMap Effect.call? = [] := by
  simp [fireRequest, Effect.call?]

theorem responseHook_fireResponse (resp : Response) (elapsed : Seconds) :
    (fireResponse hooks resp elapsed).filterMap Effect.responseHook? = hooks.responseHooks := by
  unfold fireResponse
  induction hooks.responseHooks with
  | nil => rfl
  | cons hook rest called => exact congrArg (hook :: ·) called

theorem requestHook_fireResponse (resp : Response) (elapsed : Seconds) :
    (fireResponse hooks resp elapsed).filterMap Effect.requestHook? = [] := by
  simp [fireResponse, Effect.requestHook?]

theorem call_fireResponse (resp : Response) (elapsed : Seconds) :
    (fireResponse hooks resp elapsed).filterMap Effect.call? = [] := by
  simp [fireResponse, Effect.call?]

theorem requestHook_reported : (reported hooks sent).filterMap Effect.requestHook? = [] := by
  cases sent with
  | ok answer => exact requestHook_fireResponse hooks answer.1 answer.2
  | error error => rfl

theorem responseHook_reported :
    (reported hooks sent).filterMap Effect.responseHook? = if sent.isOk then hooks.responseHooks else [] := by
  cases sent with
  | ok answer => exact responseHook_fireResponse hooks answer.1 answer.2
  | error error => rfl

theorem call_reported : (reported hooks sent).filterMap Effect.call? = [] := by
  cases sent with
  | ok answer => exact call_fireResponse hooks answer.1 answer.2
  | error error => rfl

/-- The buffered call always fires its hooks. -/
theorem observed_buffered :
    Observed hooks sent
      ((fireRequest hooks req ++ calls.map .call) ++ .send :: reported hooks sent) := by
  rw [observed_iff]
  · refine ⟨?_, requestHook_reported hooks, ?_, responseHook_reported hooks⟩
    · rw [List.filterMap_append, requestHook_fireRequest, requestHook_calls, List.append_nil]
    · rw [List.filterMap_append, responseHook_fireRequest, responseHook_calls, List.append_nil]
  · intro among
    rcases List.mem_append.mp among with inFire | inCalls
    · exact send_not_mem_fireRequest hooks req inFire
    · exact send_not_mem_calls calls inCalls

/-- The streaming call fires none, which is as documented if there are none to fire. -/
theorem observed_streaming_iff :
    Observed hooks sent (calls.map .call ++ [.send]) <->
      hooks.requestHooks = [] ∧ (sent.isOk = true -> hooks.responseHooks = []) := by
  rw [observed_iff (send_not_mem_calls calls), requestHook_calls, responseHook_calls]
  constructor
  · rintro ⟨requests, -, -, responses⟩
    refine ⟨requests.symm, ?_⟩
    intro arrived
    rw [if_pos arrived] at responses
    exact responses.symm
  · rintro ⟨noRequests, noResponses⟩
    refine ⟨noRequests.symm, rfl, rfl, ?_⟩
    by_cases arrived : sent.isOk = true
    · rw [if_pos arrived, noResponses arrived]
      rfl
    · rw [if_neg arrived]
      rfl

/-- Two calls that make the same calls on their builders are alike up to the hooks. -/
theorem alike_iff :
    TreatedAlike hooks sent
        ((fireRequest hooks req ++ calls.map .call) ++ .send :: reported hooks sent)
        (calls.map .call ++ [.send]) <->
      hooks.requestHooks = [] ∧ (sent.isOk = true -> hooks.responseHooks = []) := by
  have bufferedSends : Effect.send ∈
      (fireRequest hooks req ++ calls.map .call) ++ .send :: reported hooks sent :=
    List.mem_append_right _ List.mem_cons_self
  have streamingSends : Effect.send ∈ calls.map Effect.call ++ [.send] :=
    List.mem_append_right _ List.mem_cons_self
  rw [← observed_streaming_iff hooks calls]
  constructor
  · intro alike
    exact alike.streamingHooks streamingSends
  · intro observed
    refine ⟨iff_of_false (not_not.mpr bufferedSends) (not_not.mpr streamingSends), ?_,
      fun _ => observed_buffered hooks req calls, fun _ => observed⟩
    intro _ _
    rw [List.filterMap_append, List.filterMap_append, List.filterMap_append, call_fireRequest,
      call_calls, List.filterMap_cons_none rfl, call_reported, List.filterMap_cons_none rfl]
    rfl

end Hooks

/-! ## When a call is sent -/

/-- The arguments are such that a request with this method is sent: the
conversions succeed, there is at most one body, the session is open, a future
can be submitted, the method is one of the seven and the timeout a duration. -/
def RequestArgs.Sendable (args : RequestArgs) (library : Library) (session : Handle)
    (running : Bool) (flavour : Flavour) (method : String) (store : Store) : Prop :=
  (∃ json upload, args.Accepted session running store json upload) ∧
    (flavour = .session -> running = true) ∧ method ∈ supportedMethods ∧
    ∃ duration, args.timeout.mapM (validatedDuration library) = Except.ok duration

section Preparing

variable {library : Library} {session : Handle} {running : Bool} {flavour : Flavour}
  {method url : String} {store : Store} {prepared : PreparedRequest}

theorem sendBody_prepares {args : RequestArgs} :
    (∃ left, (sendBody (flavour.make library session running) running method url args).run store =
      .ok prepared left) <->
      args.PreparesTo library session running flavour method url store prepared := by
  constructor
  · rintro ⟨left, ran⟩
    exact sendBody_ok ran
  · rintro ⟨json, upload, accepted, submitted, rfl⟩
    refine ⟨moved args.multipart store, ?_⟩
    unfold sendBody
    rw [accepted.dumped, accepted.classified, run_bind (run_orRaise_ok json store),
      run_bind (run_orRaise_ok upload store), run_bind (run_extractMultipart args.multipart store),
      make_eq_prepare]
    refine (run_bind ?_).trans (run_submit submitted _ _)
    unfold prepare
    have validated : validateBodyParams json args.data args.body (args.multipart.map store)
        (args.opts upload args.contentLength).bodyStream
        (args.opts upload args.contentLength).contentLength = .ok () := accepted.validated
    rw [validated, run_bind (run_orRaise_ok () _), run_bind (run_ensureOpen accepted.isOpen _)]
    rfl

theorem sendStreaming_prepares {args : StreamingArgs} :
    (∃ left, (sendStreaming library session running (flavour.submit running) method url args).run store =
      .ok prepared left) <->
      args.toRequestArgs.PreparesTo library session running flavour method url store prepared := by
  constructor
  · rintro ⟨left, ran⟩
    rcases run_bind_ok ran with ⟨_, afterOpen, opening, ranJson⟩
    rcases ensureOpen_ok opening with ⟨isOpen, rfl⟩
    rcases run_bind_ok ranJson with ⟨json, afterJson, dumping, ranUpload⟩
    rcases orRaise_ok dumping with ⟨dumped, rfl⟩
    rcases run_bind_ok ranUpload with ⟨upload, afterUpload, classifying, ranExtract⟩
    rcases orRaise_ok classifying with ⟨classified, rfl⟩
    rw [run_bind (run_extractMultipart args.multipart _)] at ranExtract
    rcases run_bind_ok ranExtract with ⟨_, afterCheck, checking, submitting⟩
    rcases orRaise_ok checking with ⟨validated, -⟩
    rcases submit_ok submitting with ⟨submitted, same, -⟩
    exact ⟨json, upload, ⟨dumped, classified, validated, isOpen⟩, submitted, same⟩
  · rintro ⟨json, upload, accepted, submitted, rfl⟩
    have dumped : args.json.mapM id = Except.ok json := accepted.dumped
    have classified : args.bodyStream.mapM (StreamObject.extract running) = Except.ok upload :=
      accepted.classified
    have validated : validateBodyParams json args.data args.body (args.multipart.map store) upload
        args.contentLength = .ok () := accepted.validated
    refine ⟨moved args.multipart store, ?_⟩
    unfold sendStreaming
    rw [run_bind (run_ensureOpen accepted.isOpen store), dumped, classified,
      run_bind (run_orRaise_ok json store), run_bind (run_orRaise_ok upload store),
      run_bind (run_extractMultipart args.multipart store)]
    simp only [validated]
    rw [run_bind (run_orRaise_ok () _)]
    exact run_submit submitted _ _

theorem applied_ok_iff {req : PreparedRequest} :
    (applyRequestOptions library req).2 = .ok () <->
      req.method ∈ supportedMethods ∧
        ∃ duration, req.timeout.mapM (validatedDuration library) = Except.ok duration := by
  constructor
  · intro applied
    rcases applied_ok (Prod.ext rfl applied) with ⟨supported, duration, valid, -⟩
    exact ⟨supported, duration, valid⟩
  · rintro ⟨supported, duration, valid⟩
    unfold applyRequestOptions
    rw [if_pos supported, valid]

theorem send_mem_applyAndSend {req : PreparedRequest} {afterwards : List Effect} :
    Effect.send ∈ applyAndSend library req afterwards <-> (applyRequestOptions library req).2 = .ok () := by
  unfold applyAndSend
  rcases applyRequestOptions library req with ⟨calls, failure | ⟨⟩⟩
  · apply iff_of_false (send_not_mem_calls calls)
    exact fun succeeded => (nomatch succeeded)
  · apply iff_of_true _ rfl
    exact List.mem_append_right _ List.mem_cons_self

theorem applyAndSend_ok {req : PreparedRequest} (succeeded : (applyRequestOptions library req).2 = .ok ())
    (afterwards : List Effect) :
    applyAndSend library req afterwards =
      (applyRequestOptions library req).1.map .call ++ .send :: afterwards := by
  have applied : applyRequestOptions library req = ((applyRequestOptions library req).1, .ok ()) :=
    Prod.ext rfl succeeded
  unfold applyAndSend
  rw [applied]

theorem send_mem_executeRequest {hooks : EventHooks} {sent : Sent} {req : PreparedRequest} :
    Effect.send ∈ executeRequest library hooks sent req <->
      (applyRequestOptions library req).2 = .ok () := by
  unfold executeRequest
  rw [List.mem_append, send_mem_applyAndSend]
  exact or_iff_right (send_not_mem_fireRequest hooks req)

theorem performed_ok {op : Op PreparedRequest} {execute : PreparedRequest -> List Effect}
    (ran : ∃ left, op.run store = .ok prepared left) : performed op execute store = execute prepared := by
  rcases ran with ⟨left, ran⟩
  unfold performed
  rw [ran]

/-- A call is sent exactly if its arguments are such. -/
theorem send_mem_performed {op : Op PreparedRequest} {execute : PreparedRequest -> List Effect}
    {args : RequestArgs}
    (prepares : forall prepared, (∃ left, op.run store = .ok prepared left) <->
      args.PreparesTo library session running flavour method url store prepared)
    (sends : forall prepared, Effect.send ∈ execute prepared <->
      (applyRequestOptions library prepared).2 = .ok ()) :
    Effect.send ∈ performed op execute store <->
      args.Sendable library session running flavour method store := by
  constructor
  · intro among
    unfold performed at among
    cases ran : op.run store with
    | error error left =>
        rw [ran] at among
        exact absurd among List.not_mem_nil
    | ok prepared left =>
        rw [ran] at among
        rcases (prepares prepared).mp ⟨left, ran⟩ with ⟨json, upload, accepted, submitted, rfl⟩
        rcases applied_ok_iff.mp ((sends _).mp among) with ⟨supported, timed⟩
        exact ⟨⟨json, upload, accepted⟩, submitted, supported, timed⟩
  · rintro ⟨⟨json, upload, accepted⟩, submitted, supported, timed⟩
    rw [performed_ok ((prepares _).mpr ⟨json, upload, accepted, submitted, rfl⟩)]
    exact (sends _).mpr (applied_ok_iff.mpr ⟨supported, timed⟩)

end Preparing

/-! ## Comparing the calls -/

section Comparing

variable (library : Library) (session : Handle) (running : Bool) (flavour : Flavour)
  (sent : Sent) (method url : String) (args : StreamingArgs) (store : Store)

theorem request_sends_iff (args : RequestArgs) :
    Effect.send ∈ requestEffects library session running flavour sent method url args store <->
      args.Sendable library session running flavour (library.toUppercase method) store :=
  send_mem_performed (fun _ => sendBody_prepares) (fun _ => send_mem_executeRequest)

theorem streaming_sends_iff :
    Effect.send ∈ streamingEffects library session running flavour method url args store <->
      args.toRequestArgs.Sendable library session running flavour method store :=
  send_mem_performed (fun _ => sendStreaming_prepares) (fun _ => send_mem_applyAndSend)

/-- With an upper-case method the same calls are made on both builders, and
the hooks are the difference. -/
theorem effects_of_prepared {prepared : PreparedRequest} (supported : method ∈ supportedMethods)
    (prepares : args.toRequestArgs.PreparesTo library session running flavour method url store prepared)
    (succeeded : (applyRequestOptions library prepared).2 = .ok ()) :
    let calls := (applyRequestOptions library prepared).1
    requestEffects library session running flavour sent method url args.toRequestArgs store =
        (fireRequest session.state.hooks prepared ++ calls.map .call) ++
          .send :: reported session.state.hooks sent ∧
      streamingEffects library session running flavour method url args store =
        calls.map .call ++ [.send] := by
  constructor
  · unfold requestEffects request
    rw [toUppercase_verb library supported, performed_ok (sendBody_prepares.mpr prepares)]
    unfold executeRequest
    rw [applyAndSend_ok succeeded, List.append_assoc]
  · unfold streamingEffects
    rw [performed_ok (sendStreaming_prepares.mpr prepares)]
    exact applyAndSend_ok succeeded []

/-- `send_streaming` treats a call as `request` does exactly if the call is
rejected by both, or its method is in upper case, no request hook is registered
and no response hook is registered when a response arrives. -/
theorem streaming_alike_iff :
    TreatedAlike session.state.hooks sent
        (requestEffects library session running flavour sent method url args.toRequestArgs store)
        (streamingEffects library session running flavour method url args store) <->
      (args.toRequestArgs.Sendable library session running flavour (library.toUppercase method) store ->
        method ∈ supportedMethods ∧ session.state.hooks.requestHooks = [] ∧
          (sent.isOk = true -> session.state.hooks.responseHooks = [])) := by
  have bufferedSends := request_sends_iff library session running flavour sent method url store
    args.toRequestArgs
  have streamingSends := streaming_sends_iff library session running flavour method url args store
  by_cases sendable :
      args.toRequestArgs.Sendable library session running flavour (library.toUppercase method) store
  · by_cases supported : method ∈ supportedMethods
    · have same := toUppercase_verb library supported
      rw [same] at sendable
      rcases sendable with ⟨⟨json, upload, accepted⟩, submitted, timedMethod⟩
      rcases effects_of_prepared library session running flavour sent method url args store supported
        ⟨json, upload, accepted, submitted, rfl⟩ (applied_ok_iff.mpr timedMethod)
        with ⟨buffered, streaming⟩
      rw [same, buffered, streaming, alike_iff]
      constructor
      · rintro ⟨noRequests, noResponses⟩ -
        exact ⟨supported, noRequests, noResponses⟩
      · intro condition
        exact (condition ⟨⟨json, upload, accepted⟩, submitted, timedMethod⟩).2
    · constructor
      · intro alike
        have streams : Effect.send ∈ streamingEffects library session running flavour method url args store :=
          Decidable.not_not.mp (mt alike.rejected.mpr (not_not.mpr (bufferedSends.mpr sendable)))
        exact absurd (streamingSends.mp streams).2.2.1 supported
      · intro condition
        exact absurd (condition sendable).1 supported
  · have bufferedRejected := mt bufferedSends.mp sendable
    have streamingRejected : Effect.send ∉
        streamingEffects library session running flavour method url args store := by
      intro streams
      have direct := streamingSends.mp streams
      rw [toUppercase_verb library direct.2.2.1] at sendable
      exact sendable direct
    apply iff_of_true
    · exact ⟨iff_of_true bufferedRejected streamingRejected,
        fun sends => absurd sends bufferedRejected, fun sends => absurd sends bufferedRejected,
        fun sends => absurd sends streamingRejected⟩
    · exact fun sends => absurd sends sendable

end Comparing

/-- No argument but the method and the URL. -/
def StreamingArgs.empty : StreamingArgs :=
  { HeadArgs.empty, PlainBody.empty with acceptEncoding := none, multipart := none }

/-- An empty response with status 200. -/
def answered : Sent := .ok (⟨200, "u", []⟩, 1)

/-- What `request(method, "u")` does on a session with these request hooks that
gets a response, and what `send_streaming(method, "u")` does. -/
def bothEffects (requestHooks : List PyObject) (method : String) : List Effect × List Effect :=
  let session : Handle := ⟨⟨⟨requestHooks, []⟩, false, []⟩, none⟩
  (requestEffects .ascii session true .session answered method "u" StreamingArgs.empty.toRequestArgs
      (fun _ => []),
    streamingEffects .ascii session true .session method "u" .empty (fun _ => []))

/-- `send_streaming` refuses "get", which `request` sends, and calls no hook. -/
theorem streaming_refuses_lower_case_and_fires_no_hook :
    ¬ TreatedAlike ⟨[], []⟩ answered (bothEffects [] "get").1 (bothEffects [] "get").2 ∧
      ¬ TreatedAlike ⟨[0], []⟩ answered (bothEffects [0] "GET").1 (bothEffects [0] "GET").2 := by
  constructor
  · intro alike
    have refused : (bothEffects [] "get").2 = [] := by decide
    have sends : Effect.send ∈ (bothEffects [] "get").1 := by decide
    apply alike.rejected.mpr _ sends
    rw [refused]
    exact List.not_mem_nil
  · intro alike
    have sends : Effect.send ∈ (bothEffects [0] "GET").2 := by decide
    have observed := (alike.streamingHooks sends).requests
    exact absurd observed (by decide)

end Request
end Lkrequest
