import Mathlib.Data.List.Basic
import Mathlib.Logic.Function.Basic
import Lkrequest.Foundations.Runs
import Lkrequest.Python

namespace Lkrequest
namespace Session

open Foundations

/-!
# The state of a session handle and the operations on it

`SessionState` is one object shared by every clone of a handle, so a clone is
its number here.  An operation is a function over the world that may raise, and
keeps the world it had reached when it does.

Two operations are not atomic.  `close` empties lists and drops callbacks one
after the other, and the finalizers of what it drops can do anything in
between.  `send_streaming` looks at the closed flag first and converts its
arguments afterwards, which runs Python code too.  Both leave a record in the
world and go on in later events, and whatever the Python code in the middle
does is just the events in between.
-/

/-! ## Middleware -/

structure PyMiddleware where
  onRequestFn : Option PyObject
  onResponseFn : Option PyObject

/-- The callbacks of one middleware. -/
structure MiddlewareSlots where
  onRequest : Option PyObject
  onResponse : Option PyObject
deriving DecidableEq

namespace MiddlewareSlots

/-- `PyMiddlewareWrapper::from_py`. -/
def fromPy (middleware : PyMiddleware) : MiddlewareSlots :=
  ⟨middleware.onRequestFn, middleware.onResponseFn⟩

/-- The first half of `release`. -/
def takeRequest (slots : MiddlewareSlots) : MiddlewareSlots := { slots with onRequest := none }

/-- The second half of `release`. -/
def takeResponse (slots : MiddlewareSlots) : MiddlewareSlots := { slots with onResponse := none }

/-- Nothing left to call. -/
def released : MiddlewareSlots := ⟨none, none⟩

variable {Message Error : Type}

/-- `PyMiddlewareWrapper::on_request` and `on_response` on one callback slot.
The slot is looked at before the GIL is taken and again under it; `call` is the
callback with the conversions around it. -/
def bridge (call : PyObject -> Message -> Except Error Message) (before under : Option PyObject)
    (message : Message) : Except Error Message :=
  if before.isNone then .ok message
  else
    match under with
    | none => .ok message
    | some func => call func message

/-- `PyMiddlewareWrapper::on_request`. -/
def passRequest (call : PyObject -> Message -> Except Error Message)
    (before under : MiddlewareSlots) : Message -> Except Error Message :=
  bridge call before.onRequest under.onRequest

/-- `PyMiddlewareWrapper::on_response`. -/
def passResponse (call : PyObject -> Message -> Except Error Message)
    (before under : MiddlewareSlots) : Message -> Except Error Message :=
  bridge call before.onResponse under.onResponse

theorem bridge_none (call : PyObject -> Message -> Except Error Message)
    (before : Option PyObject) (message : Message) :
    bridge call before none message = .ok message := by
  unfold bridge
  split <;> rfl

end MiddlewareSlots

/-! ## The shared state -/

structure EventHooks where
  requestHooks : List PyObject
  responseHooks : List PyObject
deriving DecidableEq

structure SessionState where
  hooks : EventHooks
  closed : Bool
  middleware : List MiddlewareSlots
deriving DecidableEq

/-- `SessionState::default()`. -/
def SessionState.default : SessionState := ⟨⟨[], []⟩, false, []⟩

/-- Every clone of a `SessionState` is this number. -/
abbrev StateId := Nat

/-- What an operation would do on the network. -/
inductive Operation
  | buffered (method : String)
  | streaming (method : String)
  | wsConnect
  | preconnect
  | preconnectMany
  | prefetch
deriving DecidableEq

/-- What reaches the Rust session: work begun for a handle, and `pool_clear`. -/
inductive Effect
  | starts (operation : Operation)
  | poolClear
deriving DecidableEq

/-! ## Request bodies -/

abbrev StrPairs := List (String × String)

/-- A classified `body_stream=` argument. -/
inductive UploadSource
  | reader (source : PyObject)
  | syncIter (iterator : PyObject)
  | asyncIter (iterator : PyObject)
deriving DecidableEq

/-- The body arguments of a call, with what `serialize_json` makes of `json=`
and `UploadSource::extract` of `body_stream=`. -/
structure BodyArgs where
  json : Option (Except PyErr String)
  data : Option StrPairs
  body : Option (List UInt8)
  multipart : Option PyObject
  bodyStream : Option (Except PyErr UploadSource)
  contentLength : Option Nat

/-- A body ready to be validated. -/
structure Body where
  json : Option String
  data : Option StrPairs
  body : Option (List UInt8)
  multipart : Option PyObject
  bodyStream : Option UploadSource
  contentLength : Option Nat

namespace BodyArgs

def empty : BodyArgs := ⟨none, none, none, none, none, none⟩

/-- `serialize_json(py, json)?`, then `UploadSource::extract(&source)?`. -/
def extract (args : BodyArgs) : Except PyErr Body := do
  let json <- args.json.mapM id
  let bodyStream <- args.bodyStream.mapM id
  return ⟨json, args.data, args.body, args.multipart, bodyStream, args.contentLength⟩

end BodyArgs

/-- `validate_body_params`. -/
def validateBodyParams (body : Body) : Except PyErr Unit :=
  let count := body.json.isSome.toNat + body.data.isSome.toNat + body.body.isSome.toNat +
    body.multipart.isSome.toNat + body.bodyStream.isSome.toNat
  if 1 < count then
    .error (.valueError
      "Cannot specify more than one of: json, data, body, multipart, body_stream")
  else if body.contentLength.isSome ∧ body.bodyStream.isNone then
    .error (.valueError "content_length requires body_stream")
  else .ok ()

/-- The arguments raise nothing by themselves. -/
def BodyArgs.Acceptable (args : BodyArgs) : Prop :=
  ∃ body, args.extract = .ok body ∧ validateBodyParams body = .ok ()

/-! ## The world -/

/-- Where a running `close()` stands: it has set the flag, emptied the request
hooks, emptied both lists and reached a middleware, taken that middleware's
request callback, finished with the state, or returned. -/
inductive ClosePoint
  | marked
  | requestHooksEmptied
  | releasing (slot : Nat)
  | releasingResponse (slot : Nat)
  | poolClear
  | returned
deriving DecidableEq

/-- One call of `close()`. -/
structure CloseCall where
  state : StateId
  point : ClosePoint
deriving DecidableEq

/-- A `send_streaming` call that passed `ensure_open`. -/
structure Streaming where
  state : StateId
  method : String
  args : BodyArgs

structure World where
  created : Nat
  states : StateId -> SessionState
  closings : List CloseCall
  streaming : List Streaming
  effects : List (StateId × Effect)

namespace World

def initial : World := ⟨0, fun _ => .default, [], [], []⟩

def setState (world : World) (id : StateId) (state : SessionState) : World :=
  { world with states := Function.update world.states id state }

def effect (world : World) (id : StateId) (effect : Effect) : World :=
  { world with effects := world.effects ++ [(id, effect)] }

@[simp] theorem setState_same (world : World) (id : StateId) (state : SessionState) :
    (world.setState id state).states id = state := Function.update_self ..

theorem setState_other (world : World) {id other : StateId} (state : SessionState)
    (different : other ≠ id) : (world.setState id state).states other = world.states other :=
  Function.update_of_ne different ..

end World

/-! ## Operations -/

/-- An operation raises or returns, in the world it has reached. -/
abbrev Op := EStateM PyErr World Unit

/-- `PyRuntimeError::new_err("Session is closed")`. -/
def sessionClosed : PyErr := .runtimeError "Session is closed"

section Operations

variable (id : StateId)

/-- `SessionState::ensure_open`. -/
def ensureOpen : Op := do
  let world <- get
  if (world.states id).closed then throw sessionClosed

/-- The future is made and handed to the bridge, or run on the blocking runtime. -/
def start (operation : Operation) : Op := modify (fun world => world.effect id (.starts operation))

/-- `?` on a result of code that does not touch the session. -/
def orRaise {Value : Type} : Except PyErr Value -> EStateM PyErr World Value
  | .ok value => pure value
  | .error error => throw error

/-- `make_request` and `make_blocking_request`, after the conversions of the
method that calls it. -/
def makeRequest (method : String) (args : BodyArgs) : Op := do
  let body <- orRaise args.extract
  orRaise (validateBodyParams body)
  ensureOpen id
  start id (.buffered method)

def get : Op := makeRequest id "GET" .empty
def head : Op := makeRequest id "HEAD" .empty
def options : Op := makeRequest id "OPTIONS" .empty
def post (args : BodyArgs) : Op := makeRequest id "POST" args
def put (args : BodyArgs) : Op := makeRequest id "PUT" args
def patch (args : BodyArgs) : Op := makeRequest id "PATCH" args

/-- `delete` takes no multipart body. -/
def delete (args : BodyArgs) : Op := makeRequest id "DELETE" { args with multipart := none }

/-- An HTTP method is an ASCII token, where `to_uppercase` is `toUpper`. -/
def request (method : String) (args : BodyArgs) : Op := makeRequest id method.toUpper args

/-- `send_streaming` up to the conversion of its arguments. -/
def sendStreaming (method : String) (args : BodyArgs) : Op := do
  ensureOpen id
  modify (fun world => { world with streaming := world.streaming ++ [⟨id, method, args⟩] })

/-- The rest of `send_streaming`. -/
def finishStreaming (method : String) (args : BodyArgs) : Op := do
  let body <- orRaise args.extract
  orRaise (validateBodyParams body)
  start id (.streaming method)

/-- The methods that check the flag and start at once. -/
def startChecked (operation : Operation) : Op := do
  ensureOpen id
  start id operation

def wsConnect : Op := startChecked id .wsConnect
def preconnect : Op := startChecked id .preconnect
def preconnectMany : Op := startChecked id .preconnectMany
def prefetch : Op := startChecked id .prefetch

/-- `__aenter__` and `__enter__`. -/
def enter : Op := ensureOpen id

/-- `on_request`: `ensure_open`, then `push_request`. -/
def onRequest (callback : PyObject) : Op := do
  ensureOpen id
  modify (fun world =>
    let state := world.states id
    world.setState id { state with
      hooks := { state.hooks with requestHooks := state.hooks.requestHooks ++ [callback] } })

/-- `on_response`: `ensure_open`, then `push_response`. -/
def onResponse (callback : PyObject) : Op := do
  ensureOpen id
  modify (fun world =>
    let state := world.states id
    world.setState id { state with
      hooks := { state.hooks with responseHooks := state.hooks.responseHooks ++ [callback] } })

/-- `empty(&self.request_hooks, py)`. -/
def emptyRequestHooks : Op :=
  modify (fun world =>
    let state := world.states id
    world.setState id { state with hooks := { state.hooks with requestHooks := [] } })

/-- `empty(&self.response_hooks, py)`. -/
def emptyResponseHooks : Op :=
  modify (fun world =>
    let state := world.states id
    world.setState id { state with hooks := { state.hooks with responseHooks := [] } })

/-- `__clear__`, that is `clear_for_gc`. -/
def clearForGc : Op := do
  emptyRequestHooks id
  emptyResponseHooks id

end Operations

end Session
end Lkrequest
