import Lkrequest.Session.Guarded
import Lkrequest.Session.State

namespace Lkrequest
namespace Session

open Foundations

/-!
# Buffered requests in flight

`execute_request` runs inside `Closing::guard`.  This is the system of all
sessions, their hook lists and their guarded requests, with every request cut
into the steps between which other code can run: each hook is a call into
Python, which may register hooks, close the session or do anything else before
the next one.  What such a callback does is again the events in between, and so
is what other threads do.

A request that raised or returned has left the log of what it did to the
outside world.
-/

/-! ## The data of a request -/

/-- An `f64` number of seconds, which is measured and passed on. -/
abbrev Seconds := Rat

/-- The part of a `PreparedRequest` that decides what is called and raised;
`timeout` is what `validated_duration` says about it. -/
structure PreparedRequest where
  method : String
  url : String
  headers : Option StrPairs
  timeout : Option (Except PyErr Unit)

/-- A `lkrequest::Response`. -/
structure Response where
  statusCode : Nat
  url : String
  bytes : List UInt8
deriving DecidableEq

structure PyResponse where
  statusCode : Nat
  url : String
  body : List UInt8
  elapsed : Seconds
deriving DecidableEq

/-- `PyResponse::from_response`. -/
def PyResponse.fromResponse (resp : Response) (elapsed : Seconds) : Except PyErr PyResponse :=
  .ok ⟨resp.statusCode, resp.url, resp.bytes, elapsed⟩

/-- The pairs as a `HashMap`: the last value of a key stays. -/
def headersVal (headers : Option StrPairs) : StrPairs :=
  (headers.getD []).foldl (fun map pair => map.filter (·.1 ≠ pair.1) ++ [pair]) []

def supportedMethods : List String := ["GET", "POST", "PUT", "DELETE", "HEAD", "PATCH", "OPTIONS"]

/-- `apply_request_options`, as far as it can fail. -/
def applyRequestOptions (req : PreparedRequest) : Except PyErr Unit :=
  if req.method ∈ supportedMethods then req.timeout.getD (.ok ())
  else .error (.valueError ("Unsupported HTTP method: " ++ req.method))

/-- The locals of `execute_request` once there is a response. -/
structure Answer where
  url : String
  statusCode : Nat
  bodySize : Nat
  isError : Bool
  elapsed : Seconds
  pyResp : PyResponse
deriving DecidableEq

def Answer.of (resp : Response) (elapsed : Seconds) (pyResp : PyResponse) : Answer where
  url := resp.url
  statusCode := resp.statusCode
  bodySize := resp.bytes.length
  isError := 400 ≤ resp.statusCode
  elapsed := elapsed
  pyResp := pyResp

/-! ## execute_request -/

/-- What a request did that others can see. -/
inductive Entry
  | fireRequest (hooks : List PyObject)
  | requestHook (hook : PyObject) (method url : String) (headers : StrPairs)
  | pollSend
  | record (url : String) (elapsed : Seconds) (bodySize : Nat) (isError : Bool)
  | fireResponse (hooks : List PyObject)
  | responseHook (hook : PyObject) (statusCode : Nat) (url : String) (elapsed : Seconds)
deriving DecidableEq

namespace Entry

def isFireRequest : Entry -> Bool
  | .fireRequest _ => true
  | _ => false

def isRecord : Entry -> Bool
  | .record _ _ _ _ => true
  | _ => false

def isFireResponse : Entry -> Bool
  | .fireResponse _ => true
  | _ => false

end Entry

/-- Where `execute_request` stands: the hooks that are still to be called are
what is left of the snapshot. -/
inductive Point
  | start
  | firingRequest (remaining : List PyObject)
  | sending
  | responded (answer : Answer)
  | recorded (answer : Answer)
  | firingResponse (answer : Answer) (remaining : List PyObject)
  | returned (result : Except PyErr PyResponse)

/-- The future `execute_request(session, prepared, hooks)`. -/
structure ExecuteRequest where
  req : PreparedRequest
  point : Point
  log : List Entry

/-- One step of a poll.  `pollSend` brings what polling `send()` brought. -/
inductive WorkEvent
  | fireRequest
  | callHook
  | applyRequestOptions
  | pollSend (outcome : Option (Except PyErr (Response × Seconds)))
  | recordGlobalMetrics
  | fireResponse
  | finish

/-- Whether the poll goes on after a step. -/
inductive Polled
  | goesOn
  | pending
  | ready (result : Except PyErr PyResponse)

namespace ExecuteRequest

def requestHook (req : PreparedRequest) (hook : PyObject) : Entry :=
  .requestHook hook req.method req.url (headersVal req.headers)

def responseHook (answer : Answer) (hook : PyObject) : Entry :=
  .responseHook hook answer.statusCode answer.url answer.elapsed

def record (answer : Answer) : Entry :=
  .record answer.url answer.elapsed answer.bodySize answer.isError

/-- Go on at a point, having done this. -/
def advance (work : ExecuteRequest) (point : Point) (done : List Entry) : ExecuteRequest × Polled :=
  ({ work with point := point, log := work.log ++ done }, .goesOn)

/-- Leave `execute_request`. -/
def leave (work : ExecuteRequest) (result : Except PyErr PyResponse) (done : List Entry) :
    ExecuteRequest × Polled :=
  ({ work with point := .returned result, log := work.log ++ done }, .ready result)

/-- `execute_request`, given the hook lists and the number of collectors that
it finds.  An exception of a hook is logged and dropped. -/
def step (hooks : EventHooks) (collectors : Nat) (work : ExecuteRequest) :
    WorkEvent -> Option (ExecuteRequest × Polled)
  | .fireRequest =>
      match work.point with
      | .start =>
          some (work.advance (.firingRequest hooks.requestHooks) [.fireRequest hooks.requestHooks])
      | _ => none
  | .callHook =>
      match work.point with
      | .firingRequest (hook :: rest) =>
          some (work.advance (.firingRequest rest) [requestHook work.req hook])
      | .firingResponse answer (hook :: rest) =>
          some (work.advance (.firingResponse answer rest) [responseHook answer hook])
      | _ => none
  | .applyRequestOptions =>
      match work.point with
      | .firingRequest [] =>
          match Session.applyRequestOptions work.req with
          | .ok () => some (work.advance .sending [])
          | .error error => some (work.leave (.error error) [])
      | _ => none
  | .pollSend outcome =>
      match work.point, outcome with
      | .sending, none => some ({ work with log := work.log ++ [.pollSend] }, .pending)
      | .sending, some (.error error) => some (work.leave (.error error) [.pollSend])
      | .sending, some (.ok (resp, elapsed)) =>
          match PyResponse.fromResponse resp elapsed with
          | .ok pyResp => some (work.advance (.responded (.of resp elapsed pyResp)) [.pollSend])
          | .error error => some (work.leave (.error error) [.pollSend])
      | _, _ => none
  | .recordGlobalMetrics =>
      match work.point with
      | .responded answer =>
          some (work.advance (.recorded answer) (if 0 < collectors then [record answer] else []))
      | _ => none
  | .fireResponse =>
      match work.point with
      | .recorded answer =>
          some (work.advance (.firingResponse answer hooks.responseHooks)
            [.fireResponse hooks.responseHooks])
      | _ => none
  | .finish =>
      match work.point with
      | .firingResponse answer [] => some (work.leave (.ok answer.pyResp) [])
      | _ => none

end ExecuteRequest

/-! ## All sessions and all requests -/

/-- `collectors` counts the `MetricsCollector` objects, that is, the strong
count of the global metrics less one. -/
structure Traffic where
  guards : Guards PyResponse
  hooks : SessionId -> EventHooks
  works : Nat -> ExecuteRequest
  collectors : Nat

/-- A step of somebody.  `outside` is every event of a session or of a guarded
future but its creation and the polls of its work.  The two `empty` events are
the rest of a `close()`, which goes on after the flag is set, and
`clear_for_gc`. -/
inductive TrafficEvent
  | outside (event : GuardEvent PyResponse)
  | onRequest (session : SessionId) (callback : PyObject)
  | onResponse (session : SessionId) (callback : PyObject)
  | emptyRequestHooks (session : SessionId)
  | emptyResponseHooks (session : SessionId)
  | enableMetrics
  | dropCollector
  | makeRequest (session : SessionId) (prepared : PreparedRequest)
  | work (index : Nat) (event : WorkEvent)

namespace Traffic

def initial : Traffic where
  guards := .initial
  hooks := fun _ => ⟨[], []⟩
  works := fun _ => ⟨⟨"", "", none, none⟩, .start, []⟩
  collectors := 0

def setHooks (state : Traffic) (session : SessionId) (hooks : EventHooks) : Traffic :=
  { state with hooks := Function.update state.hooks session hooks }

def setWork (state : Traffic) (index : Nat) (work : ExecuteRequest) : Traffic :=
  { state with works := Function.update state.works index work }

/-- An event of the guarded futures. -/
def guarded (state : Traffic) (event : GuardEvent PyResponse) : Option Traffic :=
  (guardStep state.guards event).map (fun guards => { state with guards := guards })

/-- `make_request` and `make_blocking_request` once the arguments are
converted.  The future of the latter is run by `block_on`, which never drops
it. -/
def makeRequest (state : Traffic) (session : SessionId) (prepared : PreparedRequest) :
    Option Traffic := do
  let opened <- state.guarded (.ensureOpen session)
  let closing <- opened.guarded (.closing session)
  return closing.setWork state.guards.guards.length ⟨prepared, .start, []⟩

/-- One step of the work of a request whose select is polling it. -/
def work (state : Traffic) (index : Nat) (event : WorkEvent) : Option Traffic := do
  let guard <- state.guards.guards[index]?
  match guard.stage with
  | .polling (.work :: _) =>
      let (work, polled) <- (state.works index).step (state.hooks guard.session) state.collectors event
      match polled with
      | .goesOn => some (state.setWork index work)
      | .pending => (state.setWork index work).guarded (.pollWork index none)
      | .ready result => (state.setWork index work).guarded (.pollWork index (some result))
  | _ => none

def step (state : Traffic) : TrafficEvent -> Option Traffic
  | .outside (.closing _) => none
  | .outside (.pollWork _ _) => none
  | .outside event => state.guarded event
  | .onRequest session callback => do
      let opened <- state.guarded (.ensureOpen session)
      let hooks := opened.hooks session
      return opened.setHooks session { hooks with requestHooks := hooks.requestHooks ++ [callback] }
  | .onResponse session callback => do
      let opened <- state.guarded (.ensureOpen session)
      let hooks := opened.hooks session
      return opened.setHooks session { hooks with responseHooks := hooks.responseHooks ++ [callback] }
  | .emptyRequestHooks session =>
      some (state.setHooks session { state.hooks session with requestHooks := [] })
  | .emptyResponseHooks session =>
      some (state.setHooks session { state.hooks session with responseHooks := [] })
  | .enableMetrics => some { state with collectors := state.collectors + 1 }
  | .dropCollector =>
      if state.collectors = 0 then none else some { state with collectors := state.collectors - 1 }
  | .makeRequest session prepared => state.makeRequest session prepared
  | .work index event => state.work index event

end Traffic

/-- The system of all sessions and requests. -/
def traffic : Machine Traffic TrafficEvent := ⟨Traffic.step⟩

end Session
end Lkrequest
