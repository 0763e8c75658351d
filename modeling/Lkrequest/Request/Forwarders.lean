import Lkrequest.Request.Methods

namespace Lkrequest
namespace Request

open Foundations
open Session (UploadSource supportedMethods)

/-!
# Every verb is `request`, and blocking is async

The methods of both classes are compared as programs: equal programs raise the
same exceptions and prepare the same request, so they make the same calls on
the builder.  What these calls are is then said once, for `request`.
-/

/-! ## Verbs -/

theorem toUppercase_verb (library : Library) {verb : String} (supported : verb ∈ supportedMethods) :
    library.toUppercase verb = verb := by
  have ascii : ∀ verb ∈ supportedMethods, (∀ char ∈ verb.toList, char.val < 128) ∧
      String.ofList (verb.toList.map Char.toUpper) = verb := by simp [supportedMethods]
  rw [library.toUppercase_ascii verb (ascii verb supported).1]
  exact (ascii verb supported).2

section Verbs

variable (library : Library) (make : Make) (running : Bool) (url : String)

theorem request_verb {verb : String} (supported : verb ∈ supportedMethods) :
    request make running library verb = sendBody make running verb := by
  unfold request
  rw [toUppercase_verb library supported]

theorem get_eq_request (args : GetArgs) :
    get make url args =
      request make running library "GET" url args.toDeleteArgs.toRequestArgs := by
  rw [request_verb library make running (by decide)]
  rfl

theorem post_eq_request (args : RequestArgs) :
    post make running url args = request make running library "POST" url args := by
  rw [request_verb library make running (by decide)]
  rfl

theorem put_eq_request (args : RequestArgs) :
    put make running url args = request make running library "PUT" url args := by
  rw [request_verb library make running (by decide)]
  rfl

theorem patch_eq_request (args : RequestArgs) :
    patch make running url args = request make running library "PATCH" url args := by
  rw [request_verb library make running (by decide)]
  rfl

theorem delete_eq_request (args : DeleteArgs) :
    delete make running url args =
      request make running library "DELETE" url args.toRequestArgs := by
  rw [request_verb library make running (by decide)]
  rfl

theorem head_eq_request (args : HeadArgs) :
    head make url args =
      request make running library "HEAD" url args.toGetArgs.toDeleteArgs.toRequestArgs := by
  rw [request_verb library make running (by decide)]
  rfl

theorem options_eq_request (args : HeadArgs) :
    options make url args =
      request make running library "OPTIONS" url args.toGetArgs.toDeleteArgs.toRequestArgs := by
  rw [request_verb library make running (by decide)]
  rfl

end Verbs

/-! ## The two classes -/

/-- `body_stream=` is not given, or not an asynchronous iterable. -/
def PlainBody.Sync (body : PlainBody) : Prop :=
  ∀ source ∈ body.bodyStream, ¬ source.IsAsync

section Classes

variable (library : Library) (session : Handle)

/-- Submitting a future takes nothing but a running loop. -/
theorem make_session (running : Bool) :
    Flavour.session.make library session true = Flavour.blockingSession.make library session running := by
  funext method url headers params jsonBody formData rawBody cookies cookieOverrides timeout bearerAuth
    basicAuth multipart proxy noAutoDecompress acceptEncoding opts
  exact bind_pure _

theorem classify_eq {body : PlainBody} (sync : body.Sync) (first second : Bool) :
    body.bodyStream.mapM (StreamObject.extract first) =
      body.bodyStream.mapM (StreamObject.extract second) := by
  cases given : body.bodyStream with
  | none => rfl
  | some source =>
      change some <$> source.extract first = some <$> source.extract second
      rw [StreamObject.extract_of_not_async (sync source given) first second]

/-- `request` of a `Session` with a running loop is `request` of a `BlockingSession`. -/
theorem request_session (running : Bool) (method url : String) {args : RequestArgs}
    (sync : args.toPlainBody.Sync) :
    request (Flavour.session.make library session true) true library method url args =
      request (Flavour.blockingSession.make library session running) running library method url args := by
  unfold request sendBody
  rw [make_session library session running, classify_eq sync true running]

end Classes

/-! ## What is asked of the builder -/

/-- The methods of the builder. -/
inductive Setter
  | method
  | header
  | query
  | cookie
  | cookieOverride
  | bearerAuth
  | basicAuth
  | timeout
  | proxy
  | noAutoDecompress
  | acceptEncoding
  | priority
  | h2PriorityWeight
  | preferredHttpVersion
  | idempotency
  | headerOrder
  | cookieOrder
  | h3HeaderOrder
  | protocolPolicy
  | httpIntent
  | body
  | form
  | multipart
  | bodyStream
deriving DecidableEq

def BuilderCall.setter : BuilderCall -> Setter
  | .method _ _ => .method
  | .header _ _ => .header
  | .query _ => .query
  | .cookie _ _ => .cookie
  | .cookieOverride _ _ => .cookieOverride
  | .bearerAuth _ => .bearerAuth
  | .basicAuth _ _ => .basicAuth
  | .timeout _ => .timeout
  | .proxy _ => .proxy
  | .noAutoDecompress => .noAutoDecompress
  | .acceptEncoding _ => .acceptEncoding
  | .priority _ => .priority
  | .h2PriorityWeight _ => .h2PriorityWeight
  | .preferredHttpVersion _ => .preferredHttpVersion
  | .idempotency _ => .idempotency
  | .headerOrder _ => .headerOrder
  | .cookieOrder _ => .cookieOrder
  | .h3HeaderOrder _ => .h3HeaderOrder
  | .protocolPolicy _ => .protocolPolicy
  | .httpIntent _ => .httpIntent
  | .body _ => .body
  | .form _ => .form
  | .multipart _ => .multipart
  | .bodyStream _ _ => .bodyStream

/-- The calls of one setter. -/
def callsOf (setter : Setter) (calls : List BuilderCall) : List BuilderCall :=
  calls.filter (fun call => call.setter = setter)

/-- What the arguments of `request` ask of each setter.  `json`, `upload` and
`parts` are what the body arguments were converted to, `duration` the timeout. -/
def RequestArgs.asks (args : RequestArgs) (method url : String) (json : Option String)
    (upload : Option UploadSource) (parts : Option (List Part)) (duration : Option Duration) :
    Setter -> List BuilderCall
  | .method => [.method method url]
  | .header => PreparedRequest.eachPair args.headers .header ++
      PreparedRequest.ifSome json (fun _ => .header "content-type" "application/json")
  | .query => PreparedRequest.ifSome args.params .query
  | .cookie => PreparedRequest.eachPair args.cookies .cookie
  | .cookieOverride => PreparedRequest.eachPair args.cookieOverride .cookieOverride
  | .bearerAuth => PreparedRequest.ifSome args.bearerAuth .bearerAuth
  | .basicAuth => PreparedRequest.ifSome args.basicAuth (fun auth => .basicAuth auth.1 auth.2)
  | .timeout => PreparedRequest.ifSome duration .timeout
  | .proxy => PreparedRequest.ifSome args.proxy .proxy
  | .noAutoDecompress => if args.noDecompress then [.noAutoDecompress] else []
  | .acceptEncoding => PreparedRequest.ifSome args.acceptEncoding .acceptEncoding
  | .priority => PreparedRequest.ifSome args.priority .priority
  | .h2PriorityWeight => PreparedRequest.ifSome args.h2PriorityWeight .h2PriorityWeight
  | .preferredHttpVersion => PreparedRequest.ifSome args.preferredHttpVersion .preferredHttpVersion
  | .idempotency => PreparedRequest.ifSome args.idempotency .idempotency
  | .headerOrder => PreparedRequest.ifSome args.headerOrder .headerOrder
  | .cookieOrder => PreparedRequest.ifSome args.cookieOrder .cookieOrder
  | .h3HeaderOrder => PreparedRequest.ifSome args.h3HeaderOrder .h3HeaderOrder
  | .protocolPolicy => PreparedRequest.ifSome args.protocolPolicy .protocolPolicy
  | .httpIntent => PreparedRequest.ifSome (args.httpIntent.map PyHttpIntent.into) .httpIntent
  | .body => PreparedRequest.ifSome json (fun json => .body json.toUTF8.data.toList) ++
      PreparedRequest.ifSome args.body .body
  | .form => PreparedRequest.ifSome args.data .form
  | .multipart => PreparedRequest.ifSome parts .multipart
  | .bodyStream => PreparedRequest.ifSome upload (fun source => .bodyStream source args.contentLength)

section Setters

theorem callsOf_own {own : Setter} {calls : List BuilderCall}
    (belongs : ∀ call ∈ calls, call.setter = own) (setter : Setter) :
    callsOf setter calls = if own = setter then calls else [] := by
  unfold callsOf
  by_cases same : own = setter
  · rw [if_pos same, List.filter_eq_self]
    intro call among
    exact decide_eq_true ((belongs call among).trans same)
  · rw [if_neg same, List.filter_eq_nil_iff]
    intro call among
    rw [belongs call among, decide_eq_true_eq]
    exact same

/-- A setter is called by the argument it belongs to, if that is supplied. -/
theorem callsOf_ifSome {Value : Type} (call : Value -> BuilderCall) (own : Setter)
    (belongs : forall value, (call value).setter = own) (value : Option Value) (setter : Setter) :
    callsOf setter (PreparedRequest.ifSome value call) =
      if own = setter then PreparedRequest.ifSome value call else [] := by
  apply callsOf_own
  intro made among
  rcases Option.map_eq_some_iff.mp (Option.mem_toList.mp among) with ⟨given, -, rfl⟩
  exact belongs given

theorem length_ifSome {Value : Type} (call : Value -> BuilderCall) (value : Option Value) :
    (PreparedRequest.ifSome value call).length = value.isSome.toNat := by
  cases value <;> rfl

theorem callsOf_eachPair (call : String -> String -> BuilderCall) (own : Setter)
    (belongs : forall name value, (call name value).setter = own)
    (pairs : Option (List (String × String))) (setter : Setter) :
    callsOf setter (PreparedRequest.eachPair pairs call) =
      if own = setter then PreparedRequest.eachPair pairs call else [] := by
  apply callsOf_own
  intro made among
  rcases List.mem_map.mp among with ⟨pair, -, rfl⟩
  exact belongs pair.1 pair.2

theorem callsOf_append (setter : Setter) (first second : List BuilderCall) :
    callsOf setter (first ++ second) = callsOf setter first ++ callsOf setter second :=
  List.filter_append ..

/-- What the body asks, when it is one: the bodies in the order they are looked at. -/
theorem bodyCalls_of_validated {req : PreparedRequest}
    (validated : validateBodyParams req.jsonBody req.formData req.rawBody req.multipart
      req.opts.bodyStream req.opts.contentLength = .ok ()) :
    req.bodyCalls =
      PreparedRequest.ifSome req.jsonBody (fun _ => .header "content-type" "application/json") ++
        PreparedRequest.ifSome req.jsonBody (fun json => .body json.toUTF8.data.toList) ++
        PreparedRequest.ifSome req.formData .form ++ PreparedRequest.ifSome req.multipart .multipart ++
        PreparedRequest.ifSome req.rawBody .body ++
        PreparedRequest.ifSome req.opts.bodyStream
          (fun source => .bodyStream source req.opts.contentLength) := by
  have atMostOne := validated_count validated
  revert atMostOne
  unfold PreparedRequest.bodyCalls
  cases req.jsonBody <;> cases req.formData <;> cases req.multipart <;> cases req.rawBody <;>
    cases req.opts.bodyStream <;>
    first
      | exact fun _ => rfl
      | exact fun one => absurd one (by simp)

/-- The setters of `identityCalls`. -/
def PreparedRequest.identityAsks (req : PreparedRequest) : Setter -> List BuilderCall
  | .header => eachPair req.headers .header
  | .query => ifSome req.params .query
  | .cookie => eachPair req.cookies .cookie
  | .cookieOverride => eachPair req.cookieOverrides .cookieOverride
  | .bearerAuth => ifSome req.bearerAuth .bearerAuth
  | .basicAuth => ifSome req.basicAuth (fun auth => .basicAuth auth.1 auth.2)
  | _ => []

theorem callsOf_identityCalls (req : PreparedRequest) (setter : Setter) :
    callsOf setter req.identityCalls = req.identityAsks setter := by
  unfold PreparedRequest.identityCalls
  simp only [callsOf_append, callsOf_eachPair .header .header (fun _ _ => rfl),
    callsOf_ifSome .query .query (fun _ => rfl), callsOf_eachPair .cookie .cookie (fun _ _ => rfl),
    callsOf_eachPair .cookieOverride .cookieOverride (fun _ _ => rfl),
    callsOf_ifSome .bearerAuth .bearerAuth (fun _ => rfl),
    callsOf_ifSome (fun auth : String × Option String => .basicAuth auth.1 auth.2) .basicAuth
      (fun _ => rfl)]
  cases setter <;> simp [PreparedRequest.identityAsks]

/-- The setters of `transportCalls`. -/
def PreparedRequest.transportAsks (req : PreparedRequest) : Setter -> List BuilderCall
  | .proxy => ifSome req.proxy .proxy
  | .noAutoDecompress => if req.noAutoDecompress then [.noAutoDecompress] else []
  | .acceptEncoding => ifSome req.acceptEncoding .acceptEncoding
  | .priority => ifSome req.opts.priority .priority
  | .h2PriorityWeight => ifSome req.opts.h2PriorityWeight .h2PriorityWeight
  | .preferredHttpVersion => ifSome req.opts.preferredHttpVersion .preferredHttpVersion
  | .idempotency => ifSome req.opts.idempotency .idempotency
  | .headerOrder => ifSome req.opts.headerOrder .headerOrder
  | .cookieOrder => ifSome req.opts.cookieOrder .cookieOrder
  | .h3HeaderOrder => ifSome req.opts.h3HeaderOrder .h3HeaderOrder
  | .protocolPolicy => ifSome req.opts.protocolPolicy .protocolPolicy
  | .httpIntent => ifSome req.opts.httpIntent .httpIntent
  | _ => []

theorem callsOf_transportCalls (req : PreparedRequest) (setter : Setter) :
    callsOf setter req.transportCalls = req.transportAsks setter := by
  have flag : callsOf setter (if req.noAutoDecompress then [BuilderCall.noAutoDecompress] else []) =
      if Setter.noAutoDecompress = setter then
        (if req.noAutoDecompress then [BuilderCall.noAutoDecompress] else []) else [] := by
    apply callsOf_own
    intro call among
    split at among
    · rw [List.mem_singleton.mp among]
      rfl
    · exact absurd among List.not_mem_nil
  unfold PreparedRequest.transportCalls
  simp only [callsOf_append, flag, callsOf_ifSome .proxy .proxy (fun _ => rfl),
    callsOf_ifSome .acceptEncoding .acceptEncoding (fun _ => rfl),
    callsOf_ifSome .priority .priority (fun _ => rfl),
    callsOf_ifSome .h2PriorityWeight .h2PriorityWeight (fun _ => rfl),
    callsOf_ifSome .preferredHttpVersion .preferredHttpVersion (fun _ => rfl),
    callsOf_ifSome .idempotency .idempotency (fun _ => rfl),
    callsOf_ifSome .headerOrder .headerOrder (fun _ => rfl),
    callsOf_ifSome .cookieOrder .cookieOrder (fun _ => rfl),
    callsOf_ifSome .h3HeaderOrder .h3HeaderOrder (fun _ => rfl),
    callsOf_ifSome .protocolPolicy .protocolPolicy (fun _ => rfl),
    callsOf_ifSome .httpIntent .httpIntent (fun _ => rfl)]
  cases setter <;> simp [PreparedRequest.transportAsks]

/-- The setters of `bodyCalls`, of at most one body. -/
def PreparedRequest.bodyAsks (req : PreparedRequest) : Setter -> List BuilderCall
  | .header => ifSome req.jsonBody (fun _ => .header "content-type" "application/json")
  | .body => ifSome req.jsonBody (fun json => .body json.toUTF8.data.toList) ++ ifSome req.rawBody .body
  | .form => ifSome req.formData .form
  | .multipart => ifSome req.multipart .multipart
  | .bodyStream => ifSome req.opts.bodyStream (fun source => .bodyStream source req.opts.contentLength)
  | _ => []

theorem callsOf_bodyCalls {req : PreparedRequest}
    (validated : validateBodyParams req.jsonBody req.formData req.rawBody req.multipart
      req.opts.bodyStream req.opts.contentLength = .ok ()) (setter : Setter) :
    callsOf setter req.bodyCalls = req.bodyAsks setter := by
  rw [bodyCalls_of_validated validated]
  simp only [callsOf_append,
    callsOf_ifSome (fun _ => .header "content-type" "application/json") .header (fun _ => rfl),
    callsOf_ifSome (fun json : String => .body json.toUTF8.data.toList) .body (fun _ => rfl),
    callsOf_ifSome .form .form (fun _ => rfl), callsOf_ifSome .multipart .multipart (fun _ => rfl),
    callsOf_ifSome .body .body (fun _ => rfl),
    callsOf_ifSome (fun source => .bodyStream source req.opts.contentLength) .bodyStream (fun _ => rfl)]
  cases setter <;> simp [PreparedRequest.bodyAsks]

/-- What was called on the builder of a request that is ready to be sent. -/
theorem applied_ok {library : Library} {req : PreparedRequest} {calls : List BuilderCall}
    (applied : applyRequestOptions library req = (calls, .ok ())) :
    req.method ∈ supportedMethods ∧ ∃ duration,
      req.timeout.mapM (validatedDuration library) = Except.ok duration ∧
      calls = [.method req.method req.url] ++ req.identityCalls ++
        PreparedRequest.ifSome duration .timeout ++ req.transportCalls ++ req.bodyCalls := by
  unfold applyRequestOptions at applied
  by_cases supported : req.method ∈ supportedMethods
  · refine ⟨supported, ?_⟩
    rw [if_pos supported] at applied
    cases valid : req.timeout.mapM (validatedDuration library) with
    | error failure =>
        rw [valid] at applied
        exact (nomatch (congrArg Prod.snd applied))
    | ok duration =>
        rw [valid] at applied
        exact ⟨duration, rfl, (congrArg Prod.fst applied).symm⟩
  · rw [if_neg supported] at applied
    exact (nomatch (congrArg Prod.snd applied))

/-- The asks of the parts of `apply_request_options` together. -/
theorem asks_prepared (args : RequestArgs) (library : Library) (session : Handle) (method url : String)
    (json : Option String) (upload : Option UploadSource) (parts : Option (List Part))
    (duration : Option Duration) (setter : Setter) :
    let prepared := args.prepared library session method url json upload parts
    (if Setter.method = setter then [BuilderCall.method prepared.method prepared.url] else []) ++
        prepared.identityAsks setter ++
        (if Setter.timeout = setter then PreparedRequest.ifSome duration .timeout else []) ++
        prepared.transportAsks setter ++ prepared.bodyAsks setter =
      args.asks method prepared.url json upload parts duration setter := by
  cases setter <;>
    simp only [PreparedRequest.identityAsks, PreparedRequest.transportAsks, PreparedRequest.bodyAsks,
      reduceCtorEq, if_false, if_true, List.append_nil, List.nil_append] <;> rfl

/-- The setters of the body. -/
def bodySetters : List Setter := [.body, .form, .multipart, .bodyStream]

/-- What was asked of the builder of a request made of these arguments. -/
theorem asked_of_prepared {library : Library} {session : Handle} {running : Bool} {method url : String}
    {args : RequestArgs} {store : Store} {json : Option String} {upload : Option UploadSource}
    {calls : List BuilderCall} (accepted : args.Accepted session running store json upload)
    (applied : applyRequestOptions library
      (args.prepared library session method url json upload (args.multipart.map store)) = (calls, .ok ())) :
    ∃ duration, args.timeout.mapM (validatedDuration library) = Except.ok duration ∧
      forall setter, callsOf setter calls =
        args.asks method (resolveBaseUrl library session.baseUrl url) json upload
          (args.multipart.map store) duration setter := by
  rcases applied_ok applied with ⟨-, duration, valid, made⟩
  refine ⟨duration, valid, ?_⟩
  intro setter
  have constructed : callsOf setter [BuilderCall.method method (resolveBaseUrl library session.baseUrl url)] =
      if Setter.method = setter then
        [BuilderCall.method method (resolveBaseUrl library session.baseUrl url)] else [] := by
    apply callsOf_own
    intro call among
    rw [List.mem_singleton.mp among]
    rfl
  have bodies := @callsOf_bodyCalls (args.prepared library session method url json upload
    (args.multipart.map store)) accepted.validated setter
  rw [made]
  simp only [callsOf_append, callsOf_identityCalls, callsOf_transportCalls, bodies,
    callsOf_ifSome .timeout .timeout (fun _ => rfl)]
  refine (congrArg (· ++ _ ++ _ ++ _ ++ _) constructed).trans ?_
  exact asks_prepared args library session _ url json upload _ duration setter

/-- Every argument of an accepted `request` reaches its own setter, nothing else
does, and there is at most one body. -/
theorem request_asks {library : Library} {session : Handle} {running : Bool} {flavour : Flavour}
    {method url : String} {args : RequestArgs} {store left : Store} {prepared : PreparedRequest}
    {calls : List BuilderCall}
    (ran : (request (flavour.make library session running) running library method url args).run store =
      .ok prepared left)
    (applied : applyRequestOptions library prepared = (calls, .ok ())) :
    ∃ json upload duration, args.Accepted session running store json upload ∧
      args.timeout.mapM (validatedDuration library) = Except.ok duration ∧
      (forall setter, callsOf setter calls =
        args.asks (library.toUppercase method) (resolveBaseUrl library session.baseUrl url) json
          upload (args.multipart.map store) duration setter) ∧
      (bodySetters.flatMap (callsOf · calls)).length ≤ 1 := by
  rcases sendBody_ok ran with ⟨json, upload, accepted, -, rfl⟩
  rcases asked_of_prepared accepted applied with ⟨duration, valid, asked⟩
  refine ⟨json, upload, duration, accepted, valid, asked, ?_⟩
  have one := validated_count accepted.validated
  have counted : (bodySetters.flatMap (callsOf · calls)).length =
      json.isSome.toNat + args.data.isSome.toNat + args.body.isSome.toNat +
        (args.multipart.map store).isSome.toNat + upload.isSome.toNat := by
    simp only [bodySetters, List.flatMap_cons, List.flatMap_nil, asked, RequestArgs.asks,
      List.length_append, length_ifSome, List.length_nil]
    omega
  omega

end Setters

/-! ## The methods together -/

/-- Each method of a class is its `request` with the verb, the arguments it does
not take not supplied. -/
structure Verbs (library : Library) (make : Make) (running : Bool) : Prop where
  get : forall url (args : GetArgs), Request.get make url args =
    request make running library "GET" url args.toDeleteArgs.toRequestArgs
  post : forall url args, Request.post make running url args =
    request make running library "POST" url args
  put : forall url args, Request.put make running url args =
    request make running library "PUT" url args
  patch : forall url args, Request.patch make running url args =
    request make running library "PATCH" url args
  delete : forall url (args : DeleteArgs), Request.delete make running url args =
    request make running library "DELETE" url args.toRequestArgs
  head : forall url (args : HeadArgs), Request.head make url args =
    request make running library "HEAD" url args.toGetArgs.toDeleteArgs.toRequestArgs
  options : forall url (args : HeadArgs), Request.options make url args =
    request make running library "OPTIONS" url args.toGetArgs.toDeleteArgs.toRequestArgs

theorem verbs (library : Library) (make : Make) (running : Bool) : Verbs library make running where
  get := get_eq_request library make running
  post := post_eq_request library make running
  put := put_eq_request library make running
  patch := patch_eq_request library make running
  delete := delete_eq_request library make running
  head := head_eq_request library make running
  options := options_eq_request library make running

/-- The methods of two classes are the same for the bodies that both take alike. -/
structure SameMethods (library : Library) (first : Make) (firstRunning : Bool) (second : Make)
    (secondRunning : Bool) : Prop where
  get : Request.get first = Request.get second
  head : Request.head first = Request.head second
  options : Request.options first = Request.options second
  post : forall url (args : RequestArgs), args.toPlainBody.Sync ->
    Request.post first firstRunning url args = Request.post second secondRunning url args
  put : forall url (args : RequestArgs), args.toPlainBody.Sync ->
    Request.put first firstRunning url args = Request.put second secondRunning url args
  patch : forall url (args : RequestArgs), args.toPlainBody.Sync ->
    Request.patch first firstRunning url args = Request.patch second secondRunning url args
  delete : forall url (args : DeleteArgs), args.toPlainBody.Sync ->
    Request.delete first firstRunning url args = Request.delete second secondRunning url args
  request : forall method url (args : RequestArgs), args.toPlainBody.Sync ->
    Request.request first firstRunning library method url args =
      Request.request second secondRunning library method url args

theorem session_same_blockingSession (library : Library) (session : Handle) (running : Bool) :
    SameMethods library (Flavour.session.make library session true) true
      (Flavour.blockingSession.make library session running) running := by
  have made := make_session library session running
  have requested := fun method url (args : RequestArgs) (sync : args.toPlainBody.Sync) =>
    request_session library session running method url sync
  refine ⟨by rw [made], by rw [made], by rw [made], ?_, ?_, ?_, ?_, requested⟩
  · intro url args sync
    rw [post_eq_request library, post_eq_request library]
    exact requested "POST" url args sync
  · intro url args sync
    rw [put_eq_request library, put_eq_request library]
    exact requested "PUT" url args sync
  · intro url args sync
    rw [patch_eq_request library, patch_eq_request library]
    exact requested "PATCH" url args sync
  · intro url args sync
    rw [delete_eq_request library, delete_eq_request library]
    exact requested "DELETE" url args.toRequestArgs sync

end Request
end Lkrequest
