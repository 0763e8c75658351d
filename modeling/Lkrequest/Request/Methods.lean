import Mathlib.Logic.Function.Basic
import Lkrequest.Foundations.Stateful
import Lkrequest.Request.Builder

namespace Lkrequest
namespace Request

open Session (StrPairs UploadSource SessionState sessionClosed)

/-!
# The request methods

A method turns its arguments into a `PreparedRequest` or raises.  On the way it
may move the parts out of the `Multipart` it was given, which is the one thing
it changes: a program here keeps a store of the `Multipart` objects.

`Session` and `BlockingSession` have the same methods, written twice; they
differ in the function that takes the arguments on.
-/

/-- The parts held by each `Multipart`. -/
abbrev Store := PyObject -> List Part

/-- A method raises or goes on, and may have changed the store. -/
abbrev Op := EStateM PyErr Store

/-- `?`. -/
def orRaise {Value : Type} : Except PyErr Value -> Op Value
  | .ok value => pure value
  | .error error => throw error

/-! ## Parts of the pipeline -/

/-- `extract_multipart`: the parts are moved out of the Python object. -/
def extractMultipart : Option PyObject -> Op (Option (List Part))
  | some object => do
      let store <- get
      set (Function.update store object [])
      return some (store object)
  | none => return none

def validateBodyParams (json : Option String) (data : Option StrPairs) (body : Option (List UInt8))
    (multipart : Option (List Part)) (bodyStream : Option UploadSource) (contentLength : Option Nat) :
    Except PyErr Unit :=
  let count := json.isSome.toNat + data.isSome.toNat + body.isSome.toNat +
    multipart.isSome.toNat + bodyStream.isSome.toNat
  if 1 < count then
    .error (.valueError
      "Cannot specify more than one of: json, data, body, multipart, body_stream")
  else if contentLength.isSome ∧ bodyStream.isNone then
    .error (.valueError "content_length requires body_stream")
  else .ok ()

theorem validated_count {json : Option String} {data : Option StrPairs} {body : Option (List UInt8)}
    {multipart : Option (List Part)} {bodyStream : Option UploadSource} {contentLength : Option Nat}
    (validated : validateBodyParams json data body multipart bodyStream contentLength = .ok ()) :
    json.isSome.toNat + data.isSome.toNat + body.isSome.toNat + multipart.isSome.toNat +
      bodyStream.isSome.toNat ≤ 1 := by
  unfold validateBodyParams at validated
  apply Nat.le_of_not_lt
  intro several
  rw [if_pos several] at validated
  exact (nomatch validated)

/-- It says what the check of the session model says. -/
theorem validateBodyParams_eq (body : Session.Body) (parts : PyObject -> List Part) :
    validateBodyParams body.json body.data body.body (body.multipart.map parts) body.bodyStream
      body.contentLength = Session.validateBodyParams body := by
  unfold validateBodyParams Session.validateBodyParams
  rw [Option.isSome_map]

/-- A handle: the state it shares and its base URL. -/
structure Handle where
  state : SessionState
  baseUrl : Option String

/-- `SessionState::ensure_open`. -/
def ensureOpen (session : Handle) : Op Unit :=
  if session.state.closed then throw sessionClosed else pure ()

def noRunningLoop : PyErr := .runtimeError "no running event loop"

/-- The functions `make_request` and `make_blocking_request`, by their arguments. -/
abbrev Make :=
  String -> String -> Option StrPairs -> Option StrPairs -> Option String -> Option StrPairs ->
    Option (List UInt8) -> Option StrMap -> Option StrMap -> Option PyFloat -> Option String ->
    Option (String × Option String) -> Option (List Part) -> Option String -> Bool ->
    Option AcceptEncoding -> RequestOpts -> Op PreparedRequest

section Sessions

variable (library : Library) (session : Handle)

/-- What `make_request` and `make_blocking_request` have in common. -/
def prepare : Make :=
  fun method url headers params jsonBody formData rawBody cookies cookieOverrides timeout bearerAuth
    basicAuth multipart proxy noAutoDecompress acceptEncoding opts => do
  let url := resolveBaseUrl library session.baseUrl url
  orRaise (validateBodyParams jsonBody formData rawBody multipart opts.bodyStream opts.contentLength)
  ensureOpen session
  return { method, url, headers, params, jsonBody, formData, rawBody, cookies, cookieOverrides,
           timeout, bearerAuth, basicAuth, multipart, proxy, noAutoDecompress, acceptEncoding, opts }

/-- `future_into_py`, up to the submission. -/
def futureIntoPy (running : Bool) (prepared : PreparedRequest) : Op PreparedRequest :=
  if running then return prepared else throw noRunningLoop

/-- `PySession::make_request`. -/
def makeRequest (running : Bool) : Make :=
  fun method url headers params jsonBody formData rawBody cookies cookieOverrides timeout bearerAuth
    basicAuth multipart proxy noAutoDecompress acceptEncoding opts => do
  let prepared <- prepare library session method url headers params jsonBody formData rawBody cookies
    cookieOverrides timeout bearerAuth basicAuth multipart proxy noAutoDecompress acceptEncoding opts
  futureIntoPy running prepared

/-- `PyBlockingSession::make_blocking_request`. -/
def makeBlockingRequest : Make := prepare library session

end Sessions

/-- The two classes of session. -/
inductive Flavour
  | session
  | blockingSession
deriving DecidableEq

namespace Flavour

def make (library : Library) (session : Handle) (running : Bool) : Flavour -> Make
  | .session => makeRequest library session running
  | .blockingSession => makeBlockingRequest library session

/-- How `send_streaming` submits: `future_into_py`, or at once on the blocking runtime. -/
def submit (running : Bool) : Flavour -> PreparedRequest -> Op PreparedRequest
  | .session => futureIntoPy running
  | .blockingSession => pure

end Flavour

/-! ## The methods -/

/-- The options bundle of a method that takes all of them. -/
def GetArgs.opts (args : GetArgs) (bodyStream : Option UploadSource) (contentLength : Option Nat) :
    RequestOpts where
  priority := args.priority
  h2PriorityWeight := args.h2PriorityWeight
  preferredHttpVersion := args.preferredHttpVersion
  idempotency := args.idempotency
  headerOrder := args.headerOrder
  cookieOrder := args.cookieOrder
  h3HeaderOrder := args.h3HeaderOrder
  protocolPolicy := args.protocolPolicy
  httpIntent := args.httpIntent.map PyHttpIntent.into
  bodyStream := bodyStream
  contentLength := contentLength

/-- The options bundle of a method without a priority, a version and a replay declaration. -/
def HeadArgs.opts (args : HeadArgs) (bodyStream : Option UploadSource) (contentLength : Option Nat) :
    RequestOpts :=
  { RequestOpts.default with
    headerOrder := args.headerOrder
    cookieOrder := args.cookieOrder
    h3HeaderOrder := args.h3HeaderOrder
    protocolPolicy := args.protocolPolicy
    httpIntent := args.httpIntent.map PyHttpIntent.into
    bodyStream := bodyStream
    contentLength := contentLength }

section Methods

variable (make : Make) (running : Bool)

def get (url : String) (args : GetArgs) : Op PreparedRequest :=
  make "GET" url args.headers args.params none none none args.cookies args.cookieOverride
    args.timeout args.bearerAuth args.basicAuth none args.proxy args.noDecompress
    args.acceptEncoding (args.opts none none)

/-- The body of `post`, `put`, `patch` and `request`. -/
def sendBody (method : String) (url : String) (args : RequestArgs) : Op PreparedRequest := do
  let json <- orRaise (args.json.mapM id)
  let upload <- orRaise (args.bodyStream.mapM (StreamObject.extract running))
  let multipart <- extractMultipart args.multipart
  make method url args.headers args.params json args.data args.body args.cookies
    args.cookieOverride args.timeout args.bearerAuth args.basicAuth multipart args.proxy
    args.noDecompress args.acceptEncoding (args.opts upload args.contentLength)

def post : String -> RequestArgs -> Op PreparedRequest := sendBody make running "POST"

def request (library : Library) (method : String) : String -> RequestArgs -> Op PreparedRequest :=
  sendBody make running (library.toUppercase method)

def put : String -> RequestArgs -> Op PreparedRequest := sendBody make running "PUT"

/-- `delete` takes no multipart body. -/
def delete (url : String) (args : DeleteArgs) : Op PreparedRequest := do
  let json <- orRaise (args.json.mapM id)
  let upload <- orRaise (args.bodyStream.mapM (StreamObject.extract running))
  make "DELETE" url args.headers args.params json args.data args.body args.cookies
    args.cookieOverride args.timeout args.bearerAuth args.basicAuth none args.proxy
    args.noDecompress args.acceptEncoding (args.opts upload args.contentLength)

/-- The body of `head` and `options`. -/
def sendPlain (method : String) (url : String) (args : HeadArgs) : Op PreparedRequest :=
  make method url args.headers args.params none none none args.cookies args.cookieOverride
    args.timeout args.bearerAuth args.basicAuth none args.proxy false none (args.opts none none)

def head : String -> HeadArgs -> Op PreparedRequest := sendPlain make "HEAD"

def patch : String -> RequestArgs -> Op PreparedRequest := sendBody make running "PATCH"

def options : String -> HeadArgs -> Op PreparedRequest := sendPlain make "OPTIONS"

end Methods

/-- `send_streaming` of either class, up to the submission. -/
def sendStreaming (library : Library) (session : Handle) (running : Bool)
    (submit : PreparedRequest -> Op PreparedRequest) (method : String) (url : String)
    (args : StreamingArgs) : Op PreparedRequest := do
  ensureOpen session
  let jsonBody <- orRaise (args.json.mapM id)
  let upload <- orRaise (args.bodyStream.mapM (StreamObject.extract running))
  let multipart <- extractMultipart args.multipart
  let url := resolveBaseUrl library session.baseUrl url
  orRaise (validateBodyParams jsonBody args.data args.body multipart upload args.contentLength)
  submit {
    method, url, jsonBody, multipart
    headers := args.headers
    params := args.params
    formData := args.data
    rawBody := args.body
    cookies := args.cookies
    cookieOverrides := args.cookieOverride
    timeout := args.timeout
    bearerAuth := args.bearerAuth
    basicAuth := args.basicAuth
    proxy := args.proxy
    noAutoDecompress := false
    acceptEncoding := args.acceptEncoding
    opts := args.toHeadArgs.opts upload args.contentLength }

/-! ## What an accepted call prepares -/

section Accepted

open Foundations

theorem orRaise_ok {Value : Type} {result : Except PyErr Value} {value : Value} {store left : Store}
    (ran : (orRaise result).run store = .ok value left) : result = .ok value ∧ left = store := by
  cases result with
  | ok given =>
      cases ran
      exact ⟨rfl, rfl⟩
  | error error => exact (nomatch ran)

theorem ensureOpen_ok {session : Handle} {store left : Store}
    (ran : (ensureOpen session).run store = .ok () left) :
    session.state.closed = false ∧ left = store := by
  cases closed : session.state.closed with
  | true =>
      rw [ensureOpen, closed, if_pos rfl] at ran
      exact (nomatch ran)
  | false =>
      rw [ensureOpen, closed, if_neg Bool.false_ne_true] at ran
      cases ran
      exact ⟨rfl, rfl⟩

theorem submit_ok {flavour : Flavour} {running : Bool} {prepared submitted : PreparedRequest}
    {store left : Store} (ran : (flavour.submit running prepared).run store = .ok submitted left) :
    (flavour = .session -> running = true) ∧ submitted = prepared ∧ left = store := by
  cases flavour with
  | session =>
      cases running with
      | true =>
          cases ran
          exact ⟨fun _ => rfl, rfl, rfl⟩
      | false => exact (nomatch ran)
  | blockingSession =>
      cases ran
      exact ⟨fun impossible => (nomatch impossible), rfl, rfl⟩

theorem run_ensureOpen {session : Handle} (isOpen : session.state.closed = false) (store : Store) :
    (ensureOpen session).run store = .ok () store := by
  unfold ensureOpen
  rw [isOpen, if_neg Bool.false_ne_true]
  rfl

theorem run_submit {flavour : Flavour} {running : Bool} (submitted : flavour = .session -> running = true)
    (prepared : PreparedRequest) (store : Store) :
    (flavour.submit running prepared).run store = .ok prepared store := by
  cases flavour with
  | session =>
      rw [submitted rfl]
      rfl
  | blockingSession => rfl

/-- Both classes take the arguments on in the same way, and then submit. -/
theorem make_eq_prepare (library : Library) (session : Handle) (running : Bool) (flavour : Flavour)
    (method url headers params jsonBody formData rawBody cookies cookieOverrides timeout bearerAuth
      basicAuth multipart proxy noAutoDecompress acceptEncoding opts) :
    flavour.make library session running method url headers params jsonBody formData rawBody cookies
        cookieOverrides timeout bearerAuth basicAuth multipart proxy noAutoDecompress acceptEncoding opts =
      prepare library session method url headers params jsonBody formData rawBody cookies
        cookieOverrides timeout bearerAuth basicAuth multipart proxy noAutoDecompress acceptEncoding
        opts >>= flavour.submit running := by
  cases flavour with
  | session => rfl
  | blockingSession => exact (bind_pure _).symm

/-- The request made of the arguments of `request`, of what the body arguments
were converted to and of the parts of the form. -/
def RequestArgs.prepared (args : RequestArgs) (library : Library) (session : Handle)
    (method url : String) (json : Option String) (upload : Option UploadSource)
    (parts : Option (List Part)) : PreparedRequest where
  method := method
  url := resolveBaseUrl library session.baseUrl url
  headers := args.headers
  params := args.params
  jsonBody := json
  formData := args.data
  rawBody := args.body
  cookies := args.cookies
  cookieOverrides := args.cookieOverride
  timeout := args.timeout
  bearerAuth := args.bearerAuth
  basicAuth := args.basicAuth
  multipart := parts
  proxy := args.proxy
  noAutoDecompress := args.noDecompress
  acceptEncoding := args.acceptEncoding
  opts := args.opts upload args.contentLength

/-- What holds of an accepted call: the conversions succeeded, there is at most
one body, and the session was open. -/
structure RequestArgs.Accepted (args : RequestArgs) (session : Handle) (running : Bool)
    (store : Store) (json : Option String) (upload : Option UploadSource) : Prop where
  dumped : args.json.mapM id = Except.ok json
  classified : args.bodyStream.mapM (StreamObject.extract running) = Except.ok upload
  validated : validateBodyParams json args.data args.body (args.multipart.map store) upload
    args.contentLength = .ok ()
  isOpen : session.state.closed = false

/-- The arguments are such that `prepared` is submitted. -/
def RequestArgs.PreparesTo (args : RequestArgs) (library : Library) (session : Handle)
    (running : Bool) (flavour : Flavour) (method url : String) (store : Store)
    (prepared : PreparedRequest) : Prop :=
  ∃ json upload, args.Accepted session running store json upload ∧
    (flavour = .session -> running = true) ∧
    prepared = args.prepared library session method url json upload (args.multipart.map store)

theorem sendBody_ok {library : Library} {session : Handle} {running : Bool} {flavour : Flavour}
    {method url : String} {args : RequestArgs} {store left : Store} {prepared : PreparedRequest}
    (ran : (sendBody (flavour.make library session running) running method url args).run store =
      .ok prepared left) :
    args.PreparesTo library session running flavour method url store prepared := by
  rcases run_bind_ok ran with ⟨json, afterJson, dumping, ranUpload⟩
  rcases orRaise_ok dumping with ⟨dumped, sameJson⟩
  rcases run_bind_ok ranUpload with ⟨upload, afterUpload, classifying, ranExtract⟩
  rcases orRaise_ok classifying with ⟨classified, sameUpload⟩
  rw [sameUpload, sameJson] at ranExtract
  rcases run_bind_ok ranExtract with ⟨parts, afterExtract, extracted, ranMake⟩
  have taken : parts = args.multipart.map store := by
    cases given : args.multipart with
    | none =>
        rw [given] at extracted
        cases extracted
        rfl
    | some object =>
        rw [given] at extracted
        cases extracted
        rfl
  rw [make_eq_prepare] at ranMake
  rcases run_bind_ok ranMake with ⟨request, afterPrepare, ranPrepare, submitted⟩
  rcases run_bind_ok ranPrepare with ⟨checked, afterCheck, checking, ranOpen⟩
  rcases orRaise_ok checking with ⟨validated, -⟩
  rcases run_bind_ok ranOpen with ⟨_, afterOpen, opening, finished⟩
  rcases ensureOpen_ok opening with ⟨isOpen, -⟩
  rcases submit_ok submitted with ⟨loops, same, -⟩
  rw [taken] at validated finished
  cases finished
  exact ⟨json, upload, ⟨dumped, classified, validated, isOpen⟩, loops, same⟩

end Accepted

end Request
end Lkrequest
