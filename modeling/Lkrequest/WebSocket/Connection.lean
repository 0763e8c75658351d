import Lkrequest.Foundations.Runs
import Lkrequest.Python
import Mathlib.Control.Monad.Basic

namespace Lkrequest
namespace WebSocket

open Foundations

/-!
# A WebSocket connection and the operations on it

A `SharedConnection` holds one handle to the upgraded connection.  Every
operation takes a handle of its own, makes one upstream call on it, and some of
them release the handle of the slot.  An operation is cut into the steps between
which other operations can run, with the taking and the leaving of the slot's
lock among them.

The log says what was done to the connection, and is read by no operation.
-/

/-! ## Messages and upstream calls -/

/-- `lkrequest::ws::WsMessage`. -/
inductive WsMessage
  | text (data : String)
  | binary (data : List UInt8)
  | ping (data : List UInt8)
  | pong (data : List UInt8)
  | close (code : Option Nat) (reason : String)
deriving DecidableEq

inductive PyWsMessage
  | text (data : String)
  | binary (data : List UInt8)
  | ping (data : List UInt8)
  | pong (data : List UInt8)
  | close (code : Option Nat) (reason : String)
deriving DecidableEq

def rustWsToPy : WsMessage -> PyWsMessage
  | .text data => .text data
  | .binary data => .binary data
  | .ping data => .ping data
  | .pong data => .pong data
  | .close code reason => .close code reason

/-- What is called on the upstream connection. -/
inductive Call
  | sendText (text : String)
  | sendBinary (data : List UInt8)
  | recv
  | close (closeInfo : Option (Nat × String))
deriving DecidableEq

/-- What an upstream call brings: `recv` a message, the others nothing. -/
inductive Outcome (Error : Type)
  | done (result : Except Error Unit)
  | message (result : Except Error WsMessage)
deriving DecidableEq

/-- What a method returns to Python.  A `()` is `None` as the return value of a
method and the empty tuple as the value of a future. -/
inductive PyValue
  | none
  | emptyTuple
  | message (msg : PyWsMessage)
deriving DecidableEq

abbrev Result := Except PyErr PyValue

/-! ## The methods of the two classes -/

/-- `SharedConnection::open` on an empty slot. -/
def closed : PyErr := .runtimeError "WebSocket is closed"

/-- A method around its upstream call: what it returns for an empty slot, the
call, and for what the call brought whether `release` follows and what is
returned. -/
structure Body (Error : Type) where
  absent : Result
  call : Call
  after : Outcome Error -> Option (Bool × Result)

inductive Operation
  | sendText (text : String)
  | sendBinary (data : List UInt8)
  | recv
  | close (code : Option Nat) (reason : String)
  | next
deriving DecidableEq

section Methods

variable {Error : Type} (toPyErr : Error -> PyErr)

/-- `map_err(to_py_err)` and `Ok(())`, which is this value in Python, with or
without a release before. -/
def afterDone (value : PyValue) (releases : Bool) : Outcome Error -> Option (Bool × Result)
  | .done (.ok ()) => some (releases, .ok value)
  | .done (.error error) => some (false, .error (toPyErr error))
  | .message _ => none

def afterRecv : Outcome Error -> Option (Bool × Result)
  | .message (.ok msg) => some (false, .ok (.message (rustWsToPy msg)))
  | .message (.error error) => some (false, .error (toPyErr error))
  | .done _ => none

/-- A step of an iteration, which ends with this exception. -/
def afterNext (stop : PyErr) : Outcome Error -> Option (Bool × Result)
  | .message (.ok (.close _ _)) => some (true, .error stop)
  | .message (.error _) => some (true, .error stop)
  | .message (.ok msg) => some (false, .ok (.message (rustWsToPy msg)))
  | .done _ => none

/-- `code.map(|c| (c, reason))`. -/
def closeInfo (code : Option Nat) (reason : String) : Option (Nat × String) :=
  code.map (fun code => (code, reason))

namespace PyWsConnection

def stop : PyErr := ⟨.stopAsyncIteration, ""⟩

/-- What the future of `Ok(())` resolves to. -/
def done : PyValue := .emptyTuple

def sendText (text : String) : Body Error :=
  ⟨.error closed, .sendText text, afterDone toPyErr done false⟩

def sendBinary (data : List UInt8) : Body Error :=
  ⟨.error closed, .sendBinary data, afterDone toPyErr done false⟩

def recv : Body Error := ⟨.error closed, .recv, afterRecv toPyErr⟩

def close (code : Option Nat) (reason : String) : Body Error :=
  ⟨.error closed, .close (closeInfo code reason), afterDone toPyErr done true⟩

/-- `__anext__`. -/
def anext : Body Error := ⟨.error stop, .recv, afterNext stop⟩

def body : Operation -> Body Error
  | .sendText text => sendText toPyErr text
  | .sendBinary data => sendBinary toPyErr data
  | .recv => recv toPyErr
  | .close code reason => close toPyErr code reason
  | .next => anext

end PyWsConnection

namespace PyBlockingWsConnection

/-- What a `__next__` that returns `None` raises. -/
def stop : PyErr := ⟨.stopIteration, ""⟩

/-- What a `PyResult<()>` is in Python. -/
def done : PyValue := .none

def sendText (text : String) : Body Error :=
  ⟨.error closed, .sendText text, afterDone toPyErr done false⟩

def sendBinary (data : List UInt8) : Body Error :=
  ⟨.error closed, .sendBinary data, afterDone toPyErr done false⟩

def recv : Body Error := ⟨.error closed, .recv, afterRecv toPyErr⟩

def close (code : Option Nat) (reason : String) : Body Error :=
  ⟨.error closed, .close (closeInfo code reason), afterDone toPyErr done true⟩

/-- `__next__`. -/
def next : Body Error := ⟨.error stop, .recv, afterNext stop⟩

def body : Operation -> Body Error
  | .sendText text => sendText toPyErr text
  | .sendBinary data => sendBinary toPyErr data
  | .recv => recv toPyErr
  | .close code reason => close toPyErr code reason
  | .next => next

end PyBlockingWsConnection

/-- The class of the connection. -/
inductive Api
  | async
  | blocking
deriving DecidableEq

def Api.body : Api -> Operation -> Body Error
  | .async => PyWsConnection.body toPyErr
  | .blocking => PyBlockingWsConnection.body toPyErr

end Methods

/-! ## One connection and its operations -/

abbrev ConnId := Nat

/-- Where an operation stands.  It holds the lock of the slot in `reading` and
in `taking`; after `taking` it holds what it took out. -/
inductive Stage
  | opening
  | reading
  | calling (conn : ConnId)
  | releasing (conn : ConnId) (result : Result)
  | taking (conn : ConnId) (result : Result)
  | dropping (conn : ConnId) (released : Option ConnId) (result : Result)
  | leaving (conn : ConnId) (result : Result)
  | returned (result : Result)
  | cancelled
deriving DecidableEq

structure Running where
  operation : Operation
  stage : Stage
deriving DecidableEq

/-- What was done, by which operation. -/
inductive Entry (Error : Type)
  | opened (index : Nat) (handle : Option ConnId)
  | called (index : Nat) (conn : ConnId) (call : Call)
  | answered (index : Nat) (outcome : Outcome Error)
  | released (index : Nat) (handle : Option ConnId)
  | returned (index : Nat) (result : Result)
  | freed (conn : ConnId)
deriving DecidableEq

/-- `SharedConnection`, the strong counts of the connections, and all operations
that were started. -/
structure State (Error : Type) where
  slot : Option ConnId
  locked : Option Nat
  strong : ConnId -> Nat
  operations : List Running
  log : List (Entry Error)

/-- A step: a method is called, an operation takes the lock, goes on, or gets
what its upstream call brought, or its future is dropped. -/
inductive Event (Error : Type)
  | start (operation : Operation)
  | lock (index : Nat)
  | go (index : Nat)
  | answer (index : Nat) (outcome : Outcome Error)
  | cancel (index : Nat)

namespace State

variable {Error : Type}

/-- `SharedConnection::new`. -/
def initial (conn : ConnId) : State Error where
  slot := some conn
  locked := none
  strong := Function.update (fun _ => 0) conn 1
  operations := []
  log := []

variable (state : State Error)

def setStage (index : Nat) (running : Running) (stage : Stage) : State Error :=
  { state with operations := state.operations.set index { running with stage := stage } }

def record (entries : List (Entry Error)) : State Error :=
  { state with log := state.log ++ entries }

/-- Dropping an `Arc`: the last one frees the connection. -/
def dropHandle (conn : ConnId) : State Error :=
  let dropped := { state with strong := Function.update state.strong conn (state.strong conn - 1) }
  if dropped.strong conn = 0 then dropped.record [.freed conn] else dropped

/-- Dropping what `release` took out. -/
def dropReleased : Option ConnId -> State Error
  | none => state
  | some conn => state.dropHandle conn

variable (bodies : Operation -> Body Error) (api : Api)

/-- `get()` with the lock taken: the slot is cloned and the lock left, and with
a handle the upstream call begins. -/
def read (index : Nat) (running : Running) : State Error :=
  let body := bodies running.operation
  match state.slot with
  | none =>
      ({ state with locked := none }.setStage index running (.returned body.absent)).record
        [.opened index none, .returned index body.absent]
  | some conn =>
      ({ state with
          locked := none
          strong := Function.update state.strong conn (state.strong conn + 1) }.setStage index running
        (.calling conn)).record [.opened index (some conn), .called index conn body.call]

/-- The next step of an operation that is not at the lock and waits for nothing. -/
def go (index : Nat) (running : Running) : Option (State Error) :=
  match running.stage with
  | .reading => some (state.read bodies index running)
  | .taking conn result =>
      some (({ state with slot := none, locked := none }.setStage index running
        (.dropping conn state.slot result)).record [.released index state.slot])
  | .dropping conn released result =>
      some ((state.dropReleased released).setStage index running (.leaving conn result))
  | .leaving conn result =>
      some (((state.dropHandle conn).setStage index running (.returned result)).record
        [.returned index result])
  | _ => none

/-- `lock(&self.slot)`, in `get` or in `release`. -/
def lock (index : Nat) (running : Running) : Option (State Error) :=
  if state.locked = none then
    match running.stage with
    | .opening => some ({ state with locked := some index }.setStage index running .reading)
    | .releasing conn result =>
        some ({ state with locked := some index }.setStage index running (.taking conn result))
    | _ => none
  else none

/-- The upstream call of an operation is over. -/
def answer (index : Nat) (running : Running) (outcome : Outcome Error) : Option (State Error) :=
  match running.stage with
  | .calling conn =>
      ((bodies running.operation).after outcome).map (fun after =>
        (state.setStage index running
          (if after.1 then .releasing conn after.2 else .leaving conn after.2)).record
            [.answered index outcome])
  | _ => none

/-- A future is dropped before its first poll or while it waits.  `block_on`
does not drop its future. -/
def cancel (index : Nat) (running : Running) : Option (State Error) :=
  match api, running.stage with
  | .async, .opening => some (state.setStage index running .cancelled)
  | .async, .calling conn => some ((state.dropHandle conn).setStage index running .cancelled)
  | _, _ => none

def step (state : State Error) : Event Error -> Option (State Error)
  | .start operation =>
      some { state with operations := state.operations ++ [⟨operation, .opening⟩] }
  | .lock index => do
      let running <- state.operations[index]?
      state.lock index running
  | .go index => do
      let running <- state.operations[index]?
      state.go bodies index running
  | .answer index outcome => do
      let running <- state.operations[index]?
      state.answer bodies index running outcome
  | .cancel index => do
      let running <- state.operations[index]?
      state.cancel api index running

end State

/-- A connection of one of the two classes. -/
def connection {Error : Type} (toPyErr : Error -> PyErr) (api : Api) :
    Machine (State Error) (Event Error) :=
  ⟨fun state event => state.step (api.body toPyErr) api event⟩

end WebSocket
end Lkrequest
