import Lkrequest.Request.Arguments
import Lkrequest.Session.Traffic

namespace Lkrequest
namespace Request

open Session (StrPairs UploadSource supportedMethods)

/-!
# What is asked of the request builder

`apply_request_options` makes one call after the other on upstream's builder.
Here it is the list of these calls with how it ended: it stops with an error at
an unsupported method or at a timeout that is not a duration, and the calls
made before that are on a builder that is dropped.
-/

/-- A Python exception, or a panic. -/
inductive Failure
  | raised (error : PyErr)
  | panicked
deriving DecidableEq

/-- `validated_duration`. -/
def validatedDuration (library : Library) (secs : PyFloat) : Except Failure Duration :=
  let refused := Failure.raised (.valueError
    ("Duration must be a finite non-negative number, got " ++ library.showFloat secs))
  match secs with
  | .finite value =>
      if value < 0 then .error refused
      else
        match library.fromSecs value with
        | some duration => .ok duration
        | none => .error .panicked
  | .infinite _ => .error refused
  | .nan => .error refused

structure RequestOpts where
  priority : Option RequestPriority
  h2PriorityWeight : Option Nat
  preferredHttpVersion : Option PreferredHttpVersion
  idempotency : Option Idempotency
  headerOrder : Option (List String)
  cookieOrder : Option (List String)
  h3HeaderOrder : Option (List String)
  protocolPolicy : Option ProtocolPolicy
  httpIntent : Option HttpIntent
  bodyStream : Option UploadSource
  contentLength : Option Nat

/-- `RequestOpts::default()`. -/
def RequestOpts.default : RequestOpts :=
  ⟨none, none, none, none, none, none, none, none, none, none, none⟩

structure PreparedRequest where
  method : String
  url : String
  headers : Option StrPairs
  params : Option StrPairs
  jsonBody : Option String
  formData : Option StrPairs
  rawBody : Option (List UInt8)
  cookies : Option StrMap
  cookieOverrides : Option StrMap
  timeout : Option PyFloat
  bearerAuth : Option String
  basicAuth : Option (String × Option String)
  multipart : Option (List Part)
  proxy : Option String
  noAutoDecompress : Bool
  acceptEncoding : Option AcceptEncoding
  opts : RequestOpts

/-- A call on `lkrequest::Session` or on its `RequestBuilder`. -/
inductive BuilderCall
  | method (verb : String) (url : String)
  | header (name value : String)
  | query (pairs : StrPairs)
  | cookie (name value : String)
  | cookieOverride (name value : String)
  | bearerAuth (token : String)
  | basicAuth (user : String) (pass : Option String)
  | timeout (duration : Duration)
  | proxy (url : String)
  | noAutoDecompress
  | acceptEncoding (encoding : AcceptEncoding)
  | priority (priority : RequestPriority)
  | h2PriorityWeight (weight : Nat)
  | preferredHttpVersion (version : PreferredHttpVersion)
  | idempotency (idempotency : Idempotency)
  | headerOrder (order : List String)
  | cookieOrder (order : List String)
  | h3HeaderOrder (order : List String)
  | protocolPolicy (policy : ProtocolPolicy)
  | httpIntent (intent : HttpIntent)
  | body (bytes : List UInt8)
  | form (pairs : StrPairs)
  | multipart (parts : List Part)
  | bodyStream (source : UploadSource) (contentLength : Option Nat)
deriving DecidableEq

namespace PreparedRequest

variable (req : PreparedRequest)

/-- A loop over the pairs of an argument. -/
def eachPair (pairs : Option (List (String × String))) (call : String -> String -> BuilderCall) :
    List BuilderCall :=
  (pairs.getD []).map (fun pair => call pair.1 pair.2)

/-- `if let Some(value) = ... { rb = rb.setter(value) }`. -/
def ifSome {Value : Type} (value : Option Value) (call : Value -> BuilderCall) : List BuilderCall :=
  (value.map call).toList

/-- The calls from the headers to the credentials. -/
def identityCalls : List BuilderCall :=
  eachPair req.headers .header ++ ifSome req.params .query ++ eachPair req.cookies .cookie ++
    eachPair req.cookieOverrides .cookieOverride ++ ifSome req.bearerAuth .bearerAuth ++
    ifSome req.basicAuth (fun auth => .basicAuth auth.1 auth.2)

/-- The calls from the proxy to the intent. -/
def transportCalls : List BuilderCall :=
  ifSome req.proxy .proxy ++ (if req.noAutoDecompress then [.noAutoDecompress] else []) ++
    ifSome req.acceptEncoding .acceptEncoding ++ ifSome req.opts.priority .priority ++
    ifSome req.opts.h2PriorityWeight .h2PriorityWeight ++
    ifSome req.opts.preferredHttpVersion .preferredHttpVersion ++
    ifSome req.opts.idempotency .idempotency ++ ifSome req.opts.headerOrder .headerOrder ++
    ifSome req.opts.cookieOrder .cookieOrder ++ ifSome req.opts.h3HeaderOrder .h3HeaderOrder ++
    ifSome req.opts.protocolPolicy .protocolPolicy ++ ifSome req.opts.httpIntent .httpIntent

/-- The body, the first that is there. -/
def bodyCalls : List BuilderCall :=
  match req.jsonBody, req.formData, req.multipart, req.rawBody, req.opts.bodyStream with
  | some json, _, _, _, _ =>
      [.header "content-type" "application/json", .body json.toUTF8.data.toList]
  | none, some form, _, _, _ => [.form form]
  | none, none, some parts, _, _ => [.multipart parts]
  | none, none, none, some body, _ => [.body body]
  | none, none, none, none, some source => [.bodyStream source req.opts.contentLength]
  | none, none, none, none, none => []

end PreparedRequest

/-- `apply_request_options`: the calls it makes, and how it ends. -/
def applyRequestOptions (library : Library) (req : PreparedRequest) :
    List BuilderCall × Except Failure Unit :=
  if req.method ∈ supportedMethods then
    let started := BuilderCall.method req.method req.url :: req.identityCalls
    match req.timeout.mapM (validatedDuration library) with
    | .error failure => (started, .error failure)
    | .ok duration =>
        (started ++ PreparedRequest.ifSome duration .timeout ++ req.transportCalls ++ req.bodyCalls,
          .ok ())
  else
    ([], .error (.raised (.valueError ("Unsupported HTTP method: " ++ req.method))))

end Request
end Lkrequest
