import Lkrequest.Session.State

namespace Lkrequest
namespace Request

open Session (StrPairs UploadSource)

/-!
# The arguments of a request

A method takes some of the keyword arguments; each kind of method has its
record, and a record with fewer arguments is one with more in which the others
are not supplied.

A `HashMap` is the list of its entries in the order it iterates in.  What other
crates and the standard library decide, such as how a URL is joined, is a
parameter.
-/

/-! ## Values -/

/-- `HashMap<String, String>`, in its iteration order. -/
abbrev StrMap := List (String × String)

/-- A Python float. -/
inductive PyFloat
  | finite (value : Rat)
  | infinite (negative : Bool)
  | nan
deriving DecidableEq

/-- `std::time::Duration`. -/
structure Duration where
  nanos : Nat
deriving DecidableEq

/-- A part of a `Multipart`, by the call that added it. -/
inductive Part
  | text (name value : String)
  | file (name filename contentType : String) (data : List UInt8)
deriving DecidableEq

/-- `lkrequest::AcceptEncoding`, a set of bits. -/
structure AcceptEncoding where
  bits : Nat
deriving DecidableEq

/-- `lkh2::RequestPriority`. -/
structure RequestPriority where
  urgency : Nat
  incremental : Bool
deriving DecidableEq

/-- `lkrequest::ProtocolPolicy`, by identity. -/
structure ProtocolPolicy where
  id : Nat
deriving DecidableEq

inductive PyHttpIntent
  | h2Only
  | h3Only
  | acquireH3WhenViable
  | reuseExistingProtocol
deriving DecidableEq

/-- `lkrequest::HttpIntent`. -/
inductive HttpIntent
  | h2Only
  | h3Only
  | acquireH3WhenViable
  | preferH3
  | reuseExistingProtocol
  | auto
deriving DecidableEq

/-- `From<PyHttpIntent> for lkrequest::HttpIntent`. -/
def PyHttpIntent.into : PyHttpIntent -> HttpIntent
  | .h2Only => .h2Only
  | .h3Only => .h3Only
  | .acquireH3WhenViable => .acquireH3WhenViable
  | .reuseExistingProtocol => .reuseExistingProtocol

/-- `PyPreferredHttpVersion`, and upstream's enumeration of the same names. -/
inductive PreferredHttpVersion
  | auto
  | http1Only
  | http2Only
  | http3Only
  | http3WithFallback
deriving DecidableEq

/-- `PyIdempotency`, and upstream's enumeration of the same names. -/
inductive Idempotency
  | default
  | idempotent
  | notIdempotent
deriving DecidableEq

/-! ## Upload sources -/

/-- A `body_stream=` argument, by what the probes of `UploadSource::extract`
find: `hasattr`, the call of `__aiter__`, and `iter()`. -/
structure StreamObject where
  object : PyObject
  typeName : String
  hasRead : Except PyErr Bool
  hasAiter : Except PyErr Bool
  aiter : Except PyErr PyObject
  iter : Option PyObject

namespace StreamObject

def asyncWithoutLoop : PyErr := .typeError
  ("body_stream got an async iterable, which needs a running event loop; " ++
    "pass a file-like object or a synchronous iterable instead")

def notASource (typeName : String) : PyErr := .typeError
  ("body_stream must be a file-like object with read(), an iterable of bytes, " ++
    "or an async iterable of bytes; got " ++ typeName)

/-- `UploadSource::extract`; `running` says whether there is a running event loop. -/
def extract (running : Bool) (source : StreamObject) : Except PyErr UploadSource := do
  if <- source.hasRead then
    return .reader source.object
  if <- source.hasAiter then
    let iterator <- source.aiter
    if running then return .asyncIter iterator
    else throw asyncWithoutLoop
  match source.iter with
  | some iterator => return .syncIter iterator
  | none => throw (notASource source.typeName)

/-- The probes get as far as `__aiter__`. -/
def IsAsync (source : StreamObject) : Prop :=
  source.hasRead = .ok false ∧ source.hasAiter = .ok true

theorem extract_of_not_async {source : StreamObject} (sync : ¬ source.IsAsync)
    (first second : Bool) : source.extract first = source.extract second := by
  unfold extract
  cases read : source.hasRead with
  | error error => rfl
  | ok isReader =>
      cases isReader with
      | true => rfl
      | false =>
          cases async : source.hasAiter with
          | error error => rfl
          | ok isAsync =>
              cases isAsync with
              | true => exact absurd ⟨read, async⟩ sync
              | false => rfl

end StreamObject

/-! ## Keyword arguments -/

/-- The arguments every method takes, as `head` and `options` do. -/
structure HeadArgs where
  headers : Option StrPairs
  params : Option StrPairs
  cookies : Option StrMap
  cookieOverride : Option StrMap
  timeout : Option PyFloat
  bearerAuth : Option String
  basicAuth : Option (String × Option String)
  proxy : Option String
  headerOrder : Option (List String)
  cookieOrder : Option (List String)
  h3HeaderOrder : Option (List String)
  protocolPolicy : Option ProtocolPolicy
  httpIntent : Option PyHttpIntent

/-- The arguments of `get`. -/
structure GetArgs extends HeadArgs where
  noDecompress : Bool
  acceptEncoding : Option AcceptEncoding
  priority : Option RequestPriority
  h2PriorityWeight : Option Nat
  preferredHttpVersion : Option PreferredHttpVersion
  idempotency : Option Idempotency

/-- The body arguments but for `multipart`; `json` is what `json.dumps` makes of it. -/
structure PlainBody where
  json : Option (Except PyErr String)
  data : Option StrPairs
  body : Option (List UInt8)
  bodyStream : Option StreamObject
  contentLength : Option Nat

/-- The arguments of `delete`. -/
structure DeleteArgs extends GetArgs, PlainBody

/-- The arguments of `post`, `put`, `patch` and `request`. -/
structure RequestArgs extends DeleteArgs where
  multipart : Option PyObject

/-- The arguments of `send_streaming`. -/
structure StreamingArgs extends HeadArgs, PlainBody where
  acceptEncoding : Option AcceptEncoding
  multipart : Option PyObject

/-- No argument but the URL. -/
def HeadArgs.empty : HeadArgs :=
  ⟨none, none, none, none, none, none, none, none, none, none, none, none, none⟩

/-- No body argument. -/
def PlainBody.empty : PlainBody := ⟨none, none, none, none, none⟩

/-- Nothing but `head`'s arguments supplied. -/
def HeadArgs.toGetArgs (args : HeadArgs) : GetArgs where
  toHeadArgs := args
  noDecompress := false
  acceptEncoding := none
  priority := none
  h2PriorityWeight := none
  preferredHttpVersion := none
  idempotency := none

/-- No body supplied. -/
def GetArgs.toDeleteArgs (args : GetArgs) : DeleteArgs where
  toGetArgs := args
  toPlainBody := .empty

/-- No multipart supplied. -/
def DeleteArgs.toRequestArgs (args : DeleteArgs) : RequestArgs where
  toDeleteArgs := args
  multipart := none

/-- Nothing supplied that `send_streaming` does not take. -/
def StreamingArgs.toRequestArgs (args : StreamingArgs) : RequestArgs where
  toHeadArgs := args.toHeadArgs
  toPlainBody := args.toPlainBody
  noDecompress := false
  acceptEncoding := args.acceptEncoding
  priority := none
  h2PriorityWeight := none
  preferredHttpVersion := none
  idempotency := none
  multipart := args.multipart

/-! ## Other code -/

/-- What the `url` crate and the standard library decide. -/
structure Library where
  Url : Type
  /-- `url::Url::parse`. -/
  parse : String -> Option Url
  join : Url -> String -> Option Url
  toString : Url -> String
  /-- `str::to_uppercase`, which on ASCII text is the upper case of each letter. -/
  toUppercase : String -> String
  toUppercase_ascii : forall text : String, (∀ char ∈ text.toList, char.val < 128) ->
    toUppercase text = String.ofList (text.toList.map Char.toUpper)
  /-- `Display for f64`. -/
  showFloat : PyFloat -> String
  /-- `Duration::from_secs_f64` of a number that is not negative; it panics on one that is too big. -/
  fromSecs : Rat -> Option Duration

/-- Letters are ASCII, no URL is absolute or joined, and no number is a duration. -/
def Library.ascii : Library where
  Url := Empty
  parse := fun _ => none
  join := fun url => nomatch url
  toString := fun url => nomatch url
  toUppercase := fun text => String.ofList (text.toList.map Char.toUpper)
  toUppercase_ascii := fun _ _ => rfl
  showFloat := fun _ => ""
  fromSecs := fun _ => none

/-- `resolve_base_url`. -/
def resolveBaseUrl (library : Library) (base : Option String) (url : String) : String :=
  match base with
  | some base =>
      if (library.parse url).isNone then
        match (library.parse base).bind (fun base => library.join base url) with
        | some joined => library.toString joined
        | none => url
      else url
  | none => url

end Request
end Lkrequest
