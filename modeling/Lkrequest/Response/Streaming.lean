import Lkrequest.Foundations.Runs
import Lkrequest.Response.Text
import Mathlib.Control.Monad.Basic

namespace Lkrequest
namespace Response

open Foundations

/-!
# A response that is read piece by piece

The stream is in a slot under a mutex.  An operation gets the mutex, borrows the
stream or takes it out, waits for upstream and leaves the mutex.  The log has an
entry for every operation that had the mutex, in their order, with what it got
of the stream.
-/

/-! ## Upstream -/

/-- What a stream still delivers. -/
abbrev Source (Error : Type) := List (Except Error Bytes)

namespace Source

variable {Error : Type}

/-- `chunk()`, and the stream after it. -/
def chunk : Source Error -> Except Error (Option Bytes) × Source Error
  | [] => (.ok none, [])
  | .ok chunk :: rest => (.ok (some chunk), rest)
  | .error error :: rest => (.error error, rest)

/-- `bytes()`: the rest of the chunks in one piece. -/
def bytes : Source Error -> Except Error Bytes
  | [] => .ok []
  | .ok chunk :: rest => (bytes rest).map (chunk ++ ·)
  | .error error :: _ => .error error

end Source

/-! ## The methods of the two classes -/

/-- What a method returns to Python. -/
inductive PyValue
  | none
  | bytes (data : Bytes)
  | str (text : PyStr)
deriving DecidableEq

abbrev Result := Except PyErr PyValue

/-- What an operation got of the stream while it had the mutex. -/
inductive Served (Error : Type)
  | refused
  | read (data : Bytes)
  | ended
  | failed (error : Error)
deriving DecidableEq

/-- A method that borrows the stream for `chunk()`, with what it returns for no
stream and for the end, or takes it out for `bytes()`, with what it returns for
no stream and for the bytes. -/
inductive Method
  | borrows (absent ended : Result)
  | takes (absent : Result) (convert : Bytes -> Result)

inductive Operation
  | chunk
  | bytes
  | text (encoding : Option String)
  | next
deriving DecidableEq

def consumed : PyErr := .runtimeError "Stream already consumed"

section Methods

variable {Error Encoding : Type} (codecs : Codecs Encoding) (headers : HeaderList)

/-- `decode_text` of what was read. -/
def convertText (encoding : Option String) (body : Bytes) : Result :=
  (decodeText codecs body (parseEncoding headers) encoding).map .str

namespace PyStreamingResponse

def stop : PyErr := ⟨.stopAsyncIteration, ""⟩

def chunk : Method := .borrows (.error consumed) (.ok .none)

def bytes : Method := .takes (.error consumed) (fun data => .ok (.bytes data))

def text (encoding : Option String) : Method :=
  .takes (.error consumed) (convertText codecs headers encoding)

/-- `__anext__`. -/
def anext : Method := .borrows (.error stop) (.error stop)

def method : Operation -> Method
  | .chunk => chunk
  | .bytes => bytes
  | .text encoding => text codecs headers encoding
  | .next => anext

end PyStreamingResponse

namespace PyBlockingStreamingResponse

def stop : PyErr := ⟨.stopIteration, ""⟩

def chunk : Method := .borrows (.error consumed) (.ok .none)

def bytes : Method := .takes (.error consumed) (fun data => .ok (.bytes data))

def text (encoding : Option String) : Method :=
  .takes (.error consumed) (convertText codecs headers encoding)

/-- `__next__`. -/
def next : Method := .borrows (.error stop) (.error stop)

def method : Operation -> Method
  | .chunk => chunk
  | .bytes => bytes
  | .text encoding => text codecs headers encoding
  | .next => next

end PyBlockingStreamingResponse

/-- The class of the response. -/
inductive Api
  | async
  | blocking
deriving DecidableEq

def Api.method : Api -> Operation -> Method
  | .async => PyStreamingResponse.method codecs headers
  | .blocking => PyBlockingStreamingResponse.method codecs headers

/-- What a method returns for what it got.  `bytes()` of a stream does not end. -/
def Method.result (toPyErr : Error -> PyErr) : Method -> Served Error -> Result
  | .borrows absent _, .refused => absent
  | .borrows _ _, .read data => .ok (.bytes data)
  | .borrows _ ended, .ended => ended
  | .takes absent _, .refused => absent
  | .takes _ convert, .read data => convert data
  | .takes absent _, .ended => absent
  | _, .failed error => .error (toPyErr error)

end Methods

/-! ## One response and its operations -/

section Machine

variable {Error : Type}

/-- Where an operation stands.  It has the mutex in `borrowing` and in
`reading`, and in the latter the stream, which is not in the slot any more.  A
blocking method converts what it got after it has left the mutex. -/
inductive Stage (Error : Type)
  | waiting
  | borrowing
  | reading (stream : Source Error)
  | converting (served : Served Error)
  | returned (result : Result)
deriving DecidableEq

structure Running (Error : Type) where
  operation : Operation
  stage : Stage Error
deriving DecidableEq

/-- An operation that had the mutex, and what it got. -/
structure Entry (Error : Type) where
  index : Nat
  operation : Operation
  served : Served Error
deriving DecidableEq

structure State (Error : Type) where
  slot : Option (Source Error)
  locked : Option Nat
  operations : List (Running Error)
  log : List (Entry Error)

/-- A method is called, gets the mutex, gets the answer of upstream, or returns
what it got. -/
inductive Event
  | start (operation : Operation)
  | acquire (index : Nat)
  | finish (index : Nat)
  | convert (index : Nat)
deriving DecidableEq

namespace State

/-- `PyStreamingResponse::new`. -/
def initial (body : Source Error) : State Error where
  slot := some body
  locked := none
  operations := []
  log := []

variable (toPyErr : Error -> PyErr) (methods : Operation -> Method) (api : Api) (state : State Error)

def setStage (index : Nat) (running : Running Error) (stage : Stage Error) : State Error :=
  { state with operations := state.operations.set index { running with stage := stage } }

/-- The mutex is left.  The async methods return in the same poll. -/
def settle (index : Nat) (running : Running Error) (served : Served Error) : State Error :=
  let stage := match api with
    | .async => .returned ((methods running.operation).result toPyErr served)
    | .blocking => .converting served
  { (state.setStage index running stage) with
    locked := none
    log := state.log ++ [⟨index, running.operation, served⟩] }

/-- `inner.lock()`, and `as_mut()` or `take()` of the slot. -/
def acquire (index : Nat) (running : Running Error) : Option (State Error) :=
  match running.stage with
  | .waiting =>
      if state.locked = none then
        match state.slot with
        | none => some (state.settle toPyErr methods api index running .refused)
        | some stream =>
            match methods running.operation with
            | .borrows _ _ => some ({ state with locked := some index }.setStage index running .borrowing)
            | .takes _ _ =>
                some ({ state with slot := none, locked := some index }.setStage index running
                  (.reading stream))
      else none
  | _ => none

/-- The answer of `chunk()` or of `bytes()`. -/
def finish (index : Nat) (running : Running Error) : Option (State Error) :=
  match running.stage, state.slot with
  | .borrowing, some stream =>
      match stream.chunk with
      | (.ok (some chunk), rest) =>
          some ({ state with slot := some rest }.settle toPyErr methods api index running (.read chunk))
      | (.ok none, _) => some ({ state with slot := none }.settle toPyErr methods api index running .ended)
      | (.error error, rest) =>
          some ({ state with slot := some rest }.settle toPyErr methods api index running (.failed error))
  | .reading stream, _ =>
      match stream.bytes with
      | .ok data => some (state.settle toPyErr methods api index running (.read data))
      | .error error => some (state.settle toPyErr methods api index running (.failed error))
  | _, _ => none

def convert (index : Nat) (running : Running Error) : Option (State Error) :=
  match running.stage with
  | .converting served =>
      some (state.setStage index running
        (.returned ((methods running.operation).result toPyErr served)))
  | _ => none

def step (state : State Error) : Event -> Option (State Error)
  | .start operation => some { state with operations := state.operations ++ [⟨operation, .waiting⟩] }
  | .acquire index => do
      let running <- state.operations[index]?
      state.acquire toPyErr methods api index running
  | .finish index => do
      let running <- state.operations[index]?
      state.finish toPyErr methods api index running
  | .convert index => do
      let running <- state.operations[index]?
      state.convert toPyErr methods index running

end State

/-- A streaming response of one of the two classes. -/
def streaming {Encoding : Type} (codecs : Codecs Encoding) (headers : HeaderList)
    (toPyErr : Error -> PyErr) (api : Api) : Machine (State Error) Event :=
  ⟨fun state event => state.step toPyErr (api.method codecs headers) api event⟩

end Machine

end Response
end Lkrequest
