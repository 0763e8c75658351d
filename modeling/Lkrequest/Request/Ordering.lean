import Lkrequest.Client.Ordering
import Lkrequest.Request.Streaming

namespace Lkrequest
namespace Request

open Foundations
open Client (ClientArgs Environment PairsArg Short mapM_error mapM_ok shuffled shuffled_perm
  shuffled_same_iff shuffled_short shuffled_eq_of_getD toMap_error toMap_ok toPairs_error toPairs_ok written)
open Session (StrPairs UploadSource supportedMethods)

/-!
# The order in which a request is built

The headers, the query and the form are taken as pairs; the cookies and their
overrides go through a hash map, and the builder is called in its order.
-/

/-! ## The arguments of a call -/

/-- The arguments of a request.  The five of `others` that are pairs are not
used: they are extracted from the arguments here. -/
structure CallArgs where
  headers : Option PairsArg
  params : Option PairsArg
  data : Option PairsArg
  cookies : Option PairsArg
  cookieOverride : Option PairsArg
  others : RequestArgs

namespace CallArgs

variable (order : HashOrder String String) (made : Nat) (args : CallArgs)

/-- The extraction of the arguments, in a process that has made some maps before. -/
def extract (seed : order.Seed) : Except PyErr RequestArgs := do
  let headers <- args.headers.mapM PairsArg.toPairs
  let params <- args.params.mapM PairsArg.toPairs
  let data <- args.data.mapM PairsArg.toPairs
  let cookies <- args.cookies.mapM (PairsArg.toMap order seed made)
  let cookieOverride <- args.cookieOverride.mapM (PairsArg.toMap order seed (made + 1))
  return { args.others with headers, params, data, cookies, cookieOverride }

/-- The arguments with these cookies and overrides, the other pairs as the caller wrote them. -/
def withCookies (cookies cookieOverride : Option StrMap) : RequestArgs :=
  { args.others with
    headers := written args.headers
    params := written args.params
    data := written args.data
    cookies := cookies
    cookieOverride := cookieOverride }

/-- The arguments in the order the caller wrote them in. -/
def asWritten : RequestArgs := args.withCookies (written args.cookies) (written args.cookieOverride)

/-- The arguments in the order of the hash maps. -/
def asHashed (seed : order.Seed) : RequestArgs :=
  args.withCookies (shuffled order seed made args.cookies)
    (shuffled order seed (made + 1) args.cookieOverride)

/-- Every argument that should be pairs is, and the cookies are dicts. -/
structure Extractable : Prop where
  headers : ∀ given ∈ args.headers, given.IsPairs
  params : ∀ given ∈ args.params, given.IsPairs
  data : ∀ given ∈ args.data, given.IsPairs
  cookies : ∀ given ∈ args.cookies, given.IsDict
  cookieOverride : ∀ given ∈ args.cookieOverride, given.IsDict

variable {args}

theorem extract_ok (usable : args.Extractable) (seed : order.Seed) :
    args.extract order made seed = .ok (args.asHashed order made seed) := by
  unfold extract
  rw [mapM_ok (fun given among => toPairs_ok (usable.headers given among)),
    mapM_ok (fun given among => toPairs_ok (usable.params given among)),
    mapM_ok (fun given among => toPairs_ok (usable.data given among)),
    mapM_ok (fun given among => toMap_ok order seed made (usable.cookies given among)),
    mapM_ok (fun given among => toMap_ok order seed (made + 1) (usable.cookieOverride given among))]
  rfl

theorem extract_error (unusable : ¬ args.Extractable) (seed : order.Seed) :
    ∃ error, args.extract order made seed = .error error := by
  unfold extract
  by_cases headers : ∀ given ∈ args.headers, given.IsPairs
  · rw [mapM_ok (fun given among => toPairs_ok (headers given among))]
    by_cases params : ∀ given ∈ args.params, given.IsPairs
    · rw [mapM_ok (fun given among => toPairs_ok (params given among))]
      by_cases data : ∀ given ∈ args.data, given.IsPairs
      · rw [mapM_ok (fun given among => toPairs_ok (data given among))]
        by_cases cookies : ∀ given ∈ args.cookies, given.IsDict
        · have override : ¬ ∀ given ∈ args.cookieOverride, given.IsDict :=
            fun fine => unusable ⟨headers, params, data, cookies, fine⟩
          rcases mapM_error (fun given => toMap_error order seed (made + 1)) override with ⟨error, raised⟩
          rw [mapM_ok (fun given among => toMap_ok order seed made (cookies given among)), raised]
          exact ⟨error, rfl⟩
        · rcases mapM_error (fun given => toMap_error order seed made) cookies with ⟨error, raised⟩
          rw [raised]
          exact ⟨error, rfl⟩
      · rcases mapM_error (fun given => toPairs_error) data with ⟨error, raised⟩
        rw [raised]
        exact ⟨error, rfl⟩
    · rcases mapM_error (fun given => toPairs_error) params with ⟨error, raised⟩
      rw [raised]
      exact ⟨error, rfl⟩
  · rcases mapM_error (fun given => toPairs_error) headers with ⟨error, raised⟩
    rw [raised]
    exact ⟨error, rfl⟩

end CallArgs

/-! ## Sending -/

/-- What `send_streaming` takes of the arguments of `request`. -/
def RequestArgs.toStreamingArgs (args : RequestArgs) : StreamingArgs where
  toHeadArgs := args.toHeadArgs
  toPlainBody := args.toPlainBody
  acceptEncoding := args.acceptEncoding
  multipart := args.multipart

/-- How a request is made: by `request`, as each verb is, or by `send_streaming`. -/
inductive Sending
  | request (method : String)
  | sendStreaming (method : String)

namespace Sending

/-- The arguments it takes, those it does not take not supplied. -/
def taken (args : RequestArgs) : Sending -> RequestArgs
  | .request _ => args
  | .sendStreaming _ => args.toStreamingArgs.toRequestArgs

/-- The method of the request. -/
def verb (library : Library) : Sending -> String
  | .request method => library.toUppercase method
  | .sendStreaming method => method

variable (library : Library) (session : Handle) (running : Bool) (flavour : Flavour) (url : String)

def prepare (args : RequestArgs) : Sending -> Op PreparedRequest
  | .request method => Request.request (flavour.make library session running) running library method url args
  | .sendStreaming method =>
      Request.sendStreaming library session running (flavour.submit running) method url args.toStreamingArgs

theorem prepares {sending : Sending} {args : RequestArgs} {store : Store} {prepared : PreparedRequest} :
    (∃ left, (sending.prepare library session running flavour url args).run store = .ok prepared left) <->
      (sending.taken args).PreparesTo library session running flavour (sending.verb library) url store
        prepared := by
  cases sending with
  | request method => exact sendBody_prepares
  | sendStreaming method => exact sendStreaming_prepares

end Sending

/-- The calls on the builder of a method's request, and how they end. -/
def onBuilder (library : Library) (method : Op PreparedRequest) (store : Store) :
    List BuilderCall × Except Failure Unit :=
  match method.run store with
  | .ok prepared _ => applyRequestOptions library prepared
  | .error error _ => ([], .error (.raised error))

/-- The calls after the cookies. -/
def afterCookies (library : Library) (req : PreparedRequest) : List BuilderCall :=
  PreparedRequest.ifSome req.bearerAuth .bearerAuth ++
    PreparedRequest.ifSome req.basicAuth (fun auth => .basicAuth auth.1 auth.2) ++
    match req.timeout.mapM (validatedDuration library) with
    | .ok duration => PreparedRequest.ifSome duration .timeout ++ req.transportCalls ++ req.bodyCalls
    | .error _ => []

/-- The calls with the two loops over hash maps set apart. -/
theorem applied_calls (library : Library) {req : PreparedRequest} (supported : req.method ∈ supportedMethods) :
    (applyRequestOptions library req).1 =
      ([.method req.method req.url] ++ PreparedRequest.eachPair req.headers .header ++
        PreparedRequest.ifSome req.params .query) ++
      (PreparedRequest.eachPair req.cookies .cookie ++
        (PreparedRequest.eachPair req.cookieOverrides .cookieOverride ++ afterCookies library req)) := by
  unfold applyRequestOptions afterCookies
  rw [if_pos supported]
  cases req.timeout.mapM (validatedDuration library) with
  | error failure => simp [PreparedRequest.identityCalls]
  | ok duration => simp [PreparedRequest.identityCalls]

namespace CallArgs

variable (order : HashOrder String String) (library : Library) (session : Handle) (running : Bool)
  (flavour : Flavour) (sending : Sending) (url : String) (store : Store) (made : Nat) (args : CallArgs)

/-- The request is made with these arguments: the calls on its builder, and how they end. -/
def send (seed : order.Seed) : List BuilderCall × Except Failure Unit :=
  match args.extract order made seed with
  | .ok extracted => onBuilder library (sending.prepare library session running flavour url extracted) store
  | .error error => ([], .error (.raised error))

/-- The arguments are such that the cookies are gone through: they are
extracted, the request is prepared and submitted, and its method is supported. -/
structure ReachesCookies : Prop where
  extractable : args.Extractable
  accepted : ∃ json upload, (sending.taken args.asWritten).Accepted session running store json upload
  submitted : flavour = .session -> running = true
  supported : sending.verb library ∈ supportedMethods

/-- What is prepared with these cookies and overrides. -/
def preparedWith (json : Option String) (upload : Option UploadSource)
    (cookies cookieOverride : Option StrMap) : PreparedRequest :=
  (sending.taken (args.withCookies cookies cookieOverride)).prepared library session
    (sending.verb library) url json upload
    ((sending.taken (args.withCookies cookies cookieOverride)).multipart.map store)

variable {session running sending store args}

/-- No check before the builder looks at the cookies. -/
theorem accepted_withCookies {json : Option String} {upload : Option UploadSource}
    {cookies cookieOverride otherCookies otherOverride : Option StrMap}
    (accepted : (sending.taken (args.withCookies cookies cookieOverride)).Accepted session running store
      json upload) :
    (sending.taken (args.withCookies otherCookies otherOverride)).Accepted session running store
      json upload := by
  cases sending with
  | request method =>
      exact ⟨accepted.dumped, accepted.classified, accepted.validated, accepted.isOpen⟩
  | sendStreaming method =>
      exact ⟨accepted.dumped, accepted.classified, accepted.validated, accepted.isOpen⟩

theorem send_reached {json : Option String} {upload : Option UploadSource} (usable : args.Extractable)
    (accepted : (sending.taken args.asWritten).Accepted session running store json upload)
    (submitted : flavour = .session -> running = true) (seed : order.Seed) :
    args.send order library session running flavour sending url store made seed =
      applyRequestOptions library (args.preparedWith library session sending url store json upload
        (shuffled order seed made args.cookies) (shuffled order seed (made + 1) args.cookieOverride)) := by
  have hashed : (sending.taken (args.asHashed order made seed)).Accepted session running store json upload :=
    accepted_withCookies accepted
  rcases (Sending.prepares library session running flavour url).mpr
    ⟨json, upload, hashed, submitted, rfl⟩ with ⟨left, ran⟩
  unfold send
  rw [extract_ok order made usable seed]
  change onBuilder library _ store = _
  unfold onBuilder
  rw [ran]
  rfl

/-- A call that does not get to the cookies makes no call on a builder. -/
theorem send_unreached
    (unreached : ¬ args.ReachesCookies library session running flavour sending store) (seed : order.Seed) :
    (args.send order library session running flavour sending url store made seed).1 = [] ∧
      (args.send order library session running flavour sending url store made seed).2 ≠ .ok () := by
  by_cases usable : args.Extractable
  · unfold send
    rw [extract_ok order made usable seed]
    change (onBuilder library _ store).1 = [] ∧ (onBuilder library _ store).2 ≠ .ok ()
    unfold onBuilder
    cases ran : (sending.prepare library session running flavour url (args.asHashed order made seed)).run
      store with
    | error error left => exact ⟨rfl, fun succeeded => nomatch succeeded⟩
    | ok prepared left =>
        rcases (Sending.prepares library session running flavour url).mp ⟨left, ran⟩
          with ⟨json, upload, accepted, submitted, same⟩
        have unsupported : prepared.method ∉ supportedMethods := by
          rw [same]
          intro supported
          exact unreached ⟨usable, ⟨json, upload, accepted_withCookies accepted⟩, submitted, supported⟩
        change (applyRequestOptions library prepared).1 = [] ∧ (applyRequestOptions library prepared).2 ≠ .ok ()
        unfold applyRequestOptions
        rw [if_neg unsupported]
        exact ⟨rfl, fun succeeded => nomatch succeeded⟩
  · rcases extract_error order made usable seed with ⟨error, raised⟩
    unfold send
    rw [raised]
    exact ⟨rfl, fun succeeded => nomatch succeeded⟩

variable (session sending store args) in
/-- What is prepared apart from the cookies. -/
def bare (json : Option String) (upload : Option UploadSource) : PreparedRequest :=
  args.preparedWith library session sending url store json upload none none

theorem preparedWith_eq (json : Option String) (upload : Option UploadSource)
    (cookies cookieOverride : Option StrMap) :
    args.preparedWith library session sending url store json upload cookies cookieOverride =
      { args.bare library session sending url store json upload with
        cookies := cookies, cookieOverrides := cookieOverride } := by
  cases sending <;> rfl

/-- The calls of a request, with the two loops in the order of their maps. -/
theorem send_calls {json : Option String} {upload : Option UploadSource} (usable : args.Extractable)
    (accepted : (sending.taken args.asWritten).Accepted session running store json upload)
    (submitted : flavour = .session -> running = true)
    (supported : sending.verb library ∈ supportedMethods) (seed : order.Seed) :
    let base := args.bare library session sending url store json upload
    (args.send order library session running flavour sending url store made seed).1 =
      ([.method base.method base.url] ++ PreparedRequest.eachPair base.headers .header ++
        PreparedRequest.ifSome base.params .query) ++
      (PreparedRequest.eachPair (shuffled order seed made args.cookies) .cookie ++
        (PreparedRequest.eachPair (shuffled order seed (made + 1) args.cookieOverride) .cookieOverride ++
          afterCookies library base)) := by
  intro base
  rw [send_reached order library flavour url made usable accepted submitted, preparedWith_eq]
  exact applied_calls library supported

theorem length_eachPair {arg : Option PairsArg} (call : String -> String -> BuilderCall)
    (map : Nat) (first second : order.Seed) :
    (PreparedRequest.eachPair (shuffled order first map arg) call).length =
      (PreparedRequest.eachPair (shuffled order second map arg) call).length := by
  unfold PreparedRequest.eachPair
  rw [List.length_map, List.length_map]
  exact (shuffled_perm order first map arg).length_eq.trans
    (shuffled_perm order second map arg).length_eq.symm

theorem eachPair_inj {call : String -> String -> BuilderCall}
    (injective : forall {name value name' value'}, call name value = call name' value' ->
      name = name' ∧ value = value')
    {first second : Option StrMap}
    (same : PreparedRequest.eachPair first call = PreparedRequest.eachPair second call) :
    first.getD [] = second.getD [] := by
  apply List.map_injective_iff.mpr _ same
  intro pair other sameCall
  exact Prod.ext (injective sameCall).1 (injective sameCall).2

/-- The calls are the same for all seeds exactly if neither the cookies nor the
overrides are two or more. -/
theorem send_same_iff
    (reached : args.ReachesCookies library session running flavour sending store) :
    (forall first second,
        (args.send order library session running flavour sending url store made first).1 =
          (args.send order library session running flavour sending url store made second).1) <->
      Short args.cookies ∧ Short args.cookieOverride := by
  rcases reached with ⟨usable, ⟨json, upload, accepted⟩, submitted, supported⟩
  constructor
  · intro same
    have parts : forall first second,
        shuffled order first made args.cookies = shuffled order second made args.cookies ∧
          shuffled order first (made + 1) args.cookieOverride =
            shuffled order second (made + 1) args.cookieOverride := by
      intro first second
      have alike := same first second
      rw [send_calls order library flavour url made usable accepted submitted supported,
        send_calls order library flavour url made usable accepted submitted supported] at alike
      rcases List.append_inj (List.append_cancel_left alike) (length_eachPair order _ made first second)
        with ⟨sameCookies, rest⟩
      have sameOverride := List.append_cancel_right rest
      constructor
      · apply shuffled_eq_of_getD order made
        exact eachPair_inj BuilderCall.cookie.inj sameCookies
      · apply shuffled_eq_of_getD order (made + 1)
        exact eachPair_inj BuilderCall.cookieOverride.inj sameOverride
    exact ⟨(shuffled_same_iff order made usable.cookies).mp (fun first second => (parts first second).1),
      (shuffled_same_iff order (made + 1) usable.cookieOverride).mp
        (fun first second => (parts first second).2)⟩
  · rintro ⟨shortCookies, shortOverride⟩ first second
    rw [send_reached order library flavour url made usable accepted submitted,
      send_reached order library flavour url made usable accepted submitted,
      shuffled_short order first made shortCookies, shuffled_short order second made shortCookies,
      shuffled_short order first (made + 1) shortOverride,
      shuffled_short order second (made + 1) shortOverride]

/-- The calls on the request builder are a function of the arguments, and every
argument reaches its own setter as the caller wrote it. -/
structure InOrder (order : HashOrder String String) (library : Library) (session : Handle)
    (running : Bool) (flavour : Flavour) (sending : Sending) (url : String) (store : Store)
    (made : Nat) (args : CallArgs) : Prop where
  same : forall first second,
    (args.send order library session running flavour sending url store made first).1 =
      (args.send order library session running flavour sending url store made second).1
  asWritten : forall seed calls,
    args.send order library session running flavour sending url store made seed = (calls, .ok ()) ->
      ∃ json upload duration,
        (sending.taken args.asWritten).Accepted session running store json upload ∧
        forall setter, callsOf setter calls =
          (sending.taken args.asWritten).asks (sending.verb library)
            (resolveBaseUrl library session.baseUrl url) json upload
            ((sending.taken args.asWritten).multipart.map store) duration setter

variable (session running sending store args) in
/-- That is so exactly if no hash map with two entries is gone through. -/
theorem inOrder_iff :
    args.InOrder order library session running flavour sending url store made <->
      (args.ReachesCookies library session running flavour sending store ->
        Short args.cookies ∧ Short args.cookieOverride) := by
  by_cases reached : args.ReachesCookies library session running flavour sending store
  · constructor
    · intro inOrder _
      exact (send_same_iff order library flavour url made reached).mp inOrder.same
    · intro condition
      refine ⟨(send_same_iff order library flavour url made reached).mpr (condition reached), ?_⟩
      intro seed calls sent
      rcases condition reached with ⟨shortCookies, shortOverride⟩
      rcases reached with ⟨usable, ⟨json, upload, accepted⟩, submitted, supported⟩
      rw [send_reached order library flavour url made usable accepted submitted,
        shuffled_short order seed made shortCookies,
        shuffled_short order seed (made + 1) shortOverride] at sent
      rcases asked_of_prepared accepted sent with ⟨duration, -, asked⟩
      exact ⟨json, upload, duration, accepted, asked⟩
  · have unreached := send_unreached order library flavour url made reached
    apply iff_of_true _ (fun reaches => absurd reaches reached)
    constructor
    · intro first second
      rw [(unreached first).1, (unreached second).1]
    · intro seed calls sent
      exact absurd (congrArg Prod.snd sent) (unreached seed).2

end CallArgs

/-- The calls on the builders of a client and of a request are a function of the
caller's arguments, in the caller's order, exactly if no hash map with two
entries is gone through: the default headers and the cookies have at most one,
and so has `connect_to` when the arguments before it and its entries are usable. -/
theorem calls_in_order_iff (order : HashOrder String String) (env : Environment) (clientMaps : Nat)
    (client : ClientArgs) (session : Handle) (running : Bool) (flavour : Flavour) (sending : Sending)
    (url : String) (store : Store) (requestMaps : Nat) (args : CallArgs) :
    (client.InOrder order env clientMaps ∧
        args.InOrder order env.library session running flavour sending url store requestMaps) <->
      (client.Extractable -> Short client.defaultHeaders ∧
        (client.ReachesConnectTo env -> Short client.connectTo)) ∧
      (args.ReachesCookies env.library session running flavour sending store ->
        Short args.cookies ∧ Short args.cookieOverride) := by
  rw [ClientArgs.inOrder_iff order env clientMaps client,
    CallArgs.inOrder_iff order env.library session running flavour sending url store requestMaps args]

/-- `get(url, cookies={"a": "1", "b": "2"})`. -/
def twoCookies : CallArgs where
  headers := none
  params := none
  data := none
  cookies := some (.dict ⟨[("a", "1"), ("b", "2")], by decide⟩)
  cookieOverride := none
  others := HeadArgs.empty.toGetArgs.toDeleteArgs.toRequestArgs

/-- The two cookies are set in one order or the other. -/
theorem two_cookies_out_of_order :
    ¬ twoCookies.InOrder (HashOrder.eitherWay String String) .ascii openHandle true .session
      (.request "GET") "u" (fun _ => []) 0 := by
  intro inOrder
  exact absurd (inOrder.same true false) (by decide)

end Request
end Lkrequest
