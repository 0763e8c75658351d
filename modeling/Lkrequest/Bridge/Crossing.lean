import Mathlib.Data.List.Infix
import Mathlib.Logic.Function.Basic
import Lkrequest.Bridge.Drain
import Lkrequest.Python

namespace Lkrequest
namespace Bridge

open Foundations

/-!
# Crossings of the tokio/asyncio bridge

One call of `future_into_py` or `future_into_py_untracked` is a *crossing*: a
wrapper future on the tokio side, a Python future on the asyncio side, and a
`GuardedEventLoop` proxy between the two that holds the hand-off slot.  This
module gives the record of one crossing, every action that can happen to it,
and the machine that interleaves any number of crossings over any number of
event loops.

The actions of the code under `src/bridge.rs` are its own steps, cut where
another thread can run: building the proxy, parking the guard, and the four
parts of `call_soon_threadsafe`.  The bridge crate itself is represented only
by what the module docs rely on: it polls the wrapper, drops it when the Python
future was cancelled or the poll panicked, looks at `cancelled()` before it
delivers, delivers a panic from a second task, and keeps the proxy alive until
it is done.

A future that is submitted while another one is polled, by a hook for example,
finds the proxy of that one in its `TaskLocals`.  Its own proxy then stands over
this proxy, and its delivery calls `call_soon_threadsafe` of both.
-/

/-- The number of an `InFlightGuard`, in the order of registration. -/
abbrev Guard := Nat

abbrev LoopId := Nat

abbrev CrossingId := Nat

/-- `RuntimeError("Event loop is closed")`, matched on the message. -/
def isLoopClosedError (error : PyErr) : Bool :=
  decide (error.kind = .runtimeError) && decide ("Event loop is closed".toList <:+: error.message.toList)

/-! ## The two sides of a crossing -/

/-- Which function made the crossing.  `drain_pending` is the only caller of
`future_into_py_untracked`; its inner future is `drain`. -/
inductive Origin
  | tracked
  | untracked
  | drain
deriving DecidableEq

/-- What the bridge has to deliver. -/
inductive Payload
  | returned (result : Except PyErr PyObject)
  | drained (idle : Bool)
  | rustPanic
deriving DecidableEq

/-- The wrapper future, with the guard its async block captured. -/
inductive Wrapper
  | live (guard : Option Guard)
  | dropped
deriving DecidableEq

/-- The `GuardedEventLoop` object. -/
inductive Proxy
  | absent
  | live
  | freed
deriving DecidableEq

/-- The asyncio future handed to the caller. -/
inductive PyFuture
  | absent
  | pending
  | cancelled
  | done (payload : Payload)
deriving DecidableEq

/-- How far the innermost running `call_soon_threadsafe` has come: it has taken
the guard, it has seen the loop open, or it is about to return. -/
inductive CallPoint
  | entered
  | loopOpen
  | returning (result : Except PyErr Unit)

/-- A running `call_soon_threadsafe` with its local `_guard`, and those of the
calls that it has made on the proxies under its own, the innermost first.
`below` are the proxies under the innermost one. -/
structure Call where
  guard : Option Guard
  nested : List (Option Guard)
  below : List CrossingId
  point : CallPoint

/-- Where a crossing stands.  `ready` is a payload whose delivery has not been
decided; `committed` one that was found not cancelled.  `finished` keeps what
`call_soon_threadsafe` returned to the bridge, if it was called. -/
inductive Stage
  | submitting
  | proxied
  | refused
  | polling
  | ready
  | committed
  | delivering (call : Call)
  | finished (delivery : Option (Except PyErr Unit))

/-- One crossing.  `under` are the proxies between its own and the real loop,
`raised` is the exception the real loop's own method raised during the delivery.
`readZero` is history: how many crossings had been submitted when a drain read
the zero count. -/
structure Crossing where
  origin : Origin
  loop : LoopId
  under : List CrossingId
  wrapper : Wrapper
  handoff : Option Guard
  proxy : Proxy
  future : PyFuture
  stage : Stage
  payload : Option Payload
  raised : Option PyErr
  readZero : Option Nat

/-- `CheckedCompletor` with the future it completes and the value. -/
structure Callback where
  crossing : CrossingId
  payload : Payload

/-- An asyncio loop: its FIFO queue of callbacks and those it has run. -/
structure EventLoop where
  closed : Bool
  ready : List Callback
  ran : List Callback

namespace EventLoop

/-- Everything ever queued and not thrown away, in order. -/
def log (eventLoop : EventLoop) : List Callback := eventLoop.ran ++ eventLoop.ready

/-- The real loop's own `call_soon_threadsafe`, when it succeeds. -/
def callSoon (eventLoop : EventLoop) (callback : Callback) : EventLoop :=
  { eventLoop with ready := eventLoop.ready ++ [callback] }

/-- `loop.close()` drops what is queued. -/
def close (eventLoop : EventLoop) : EventLoop := { eventLoop with closed := true, ready := [] }

end EventLoop

/-! ## What can happen to one crossing -/

inductive Action
  | buildProxy
  | enter
  | refuse
  | complete (result : Except PyErr PyObject)
  | drainIdle
  | drainTimeout
  | panic
  | cancel
  | abandon
  | skip
  | commit
  | take
  | isClosed (raised : Option PyErr)
  | enqueue (raised : Option PyErr)
  | ret
  | freeProxy

/-- The effect of an action: the crossing, its loop, and the guards dropped. -/
structure Effect where
  crossing : Crossing
  eventLoop : EventLoop
  dropped : List Guard

namespace Wrapper

/-- The guard that goes when the wrapper is dropped. -/
def captured : Wrapper -> Option Guard
  | .live guard => guard
  | .dropped => none

end Wrapper

namespace PyFuture

/-- `future.cancelled()`. -/
def isCancelled : PyFuture -> Bool
  | .cancelled => true
  | _ => false

/-- `future.set_result` or `set_exception`, skipped when the future was
cancelled meanwhile. -/
def settle (payload : Payload) : PyFuture -> PyFuture
  | .pending => .done payload
  | future => future

end PyFuture

namespace Crossing

/-- A crossing as `future_into_py` leaves it before it enters the bridge. -/
def submitted (origin : Origin) (loop : LoopId) (under : List CrossingId) (guard : Option Guard) :
    Crossing where
  origin := origin
  loop := loop
  under := under
  wrapper := .live guard
  handoff := none
  proxy := .absent
  future := .absent
  stage := .submitting
  payload := none
  raised := none
  readZero := none

/-- The guard that goes when the wrapper is dropped before its last line. -/
def captured (crossing : Crossing) : List Guard := crossing.wrapper.captured.toList

/-- The wrapper returns: `*transfer = Some(guard)` on its last line, and the
payload is the bridge's.  An untracked future has no such line. -/
def complete (crossing : Crossing) (payload : Payload) : Crossing :=
  { crossing with
    wrapper := .dropped
    handoff := crossing.wrapper.captured.or crossing.handoff
    stage := .ready
    payload := some payload }

/-- The assignment to the slot drops what was in it. -/
def overwritten (crossing : Crossing) : List Guard :=
  if crossing.wrapper.captured.isSome then crossing.handoff.toList else []

end Crossing

/-- `match call { Ok(_) => Ok(()), Err(e) if is_loop_closed_error(e) => Ok(()), Err(e) => Err(e) }` -/
def swallowClosed (error : PyErr) : Except PyErr Unit :=
  if isLoopClosedError error then .ok () else .error error

/-- What a call returns for the result of the call it made on the proxy under it. -/
def passOn : Except PyErr Unit -> Except PyErr Unit
  | .ok () => .ok ()
  | .error error => swallowClosed error

/-- The actions of one crossing, given the count, the number of crossings
submitted so far and the crossing's loop. -/
def act (count : Int) (submitted : Nat) (eventLoop : EventLoop) (index : CrossingId)
    (crossing : Crossing) (action : Action) : Option Effect :=
  match action, crossing.stage with
  | .buildProxy, .submitting =>
      some ⟨{ crossing with proxy := .live, stage := .proxied }, eventLoop, []⟩
  | .enter, .proxied =>
      some ⟨{ crossing with future := .pending, stage := .polling }, eventLoop, []⟩
  | .refuse, .submitting =>
      -- Without a proxy the slot goes together with the wrapper.
      some ⟨{ crossing with wrapper := .dropped, handoff := none, stage := .refused }, eventLoop,
        crossing.captured ++ crossing.handoff.toList⟩
  | .refuse, .proxied =>
      some ⟨{ crossing with wrapper := .dropped, stage := .refused }, eventLoop, crossing.captured⟩
  | .complete result, .polling =>
      if crossing.origin = .drain then none
      else some ⟨crossing.complete (.returned result), eventLoop, crossing.overwritten⟩
  | .drainIdle, .polling =>
      if crossing.origin = .drain ∧ count = 0 then
        some ⟨{ crossing.complete (.drained true) with readZero := some submitted }, eventLoop,
          crossing.overwritten⟩
      else none
  | .drainTimeout, .polling =>
      if crossing.origin = .drain then
        some ⟨crossing.complete (.drained false), eventLoop, crossing.overwritten⟩
      else none
  | .panic, .polling =>
      -- Unwinding drops the wrapper; the supervising task delivers later.
      if crossing.origin = .drain then none
      else
        some ⟨{ crossing with
          wrapper := .dropped
          stage := .ready
          payload := some .rustPanic }, eventLoop, crossing.captured⟩
  | .cancel, _ =>
      match crossing.future with
      | .pending => some ⟨{ crossing with future := .cancelled }, eventLoop, []⟩
      | _ => none
  | .abandon, .polling =>
      if crossing.future.isCancelled then
        some ⟨{ crossing with wrapper := .dropped, stage := .finished none }, eventLoop,
          crossing.captured⟩
      else none
  | .skip, .ready =>
      if crossing.future.isCancelled then
        some ⟨{ crossing with stage := .finished none }, eventLoop, []⟩
      else none
  | .commit, .ready =>
      if crossing.future.isCancelled then none
      else some ⟨{ crossing with stage := .committed }, eventLoop, []⟩
  | .take, .committed =>
      some ⟨{ crossing with
        handoff := none
        stage := .delivering ⟨crossing.handoff, [], crossing.under, .entered⟩ }, eventLoop, []⟩
  | .isClosed raised, .delivering ⟨guard, nested, below, .entered⟩ =>
      -- The proxies below forward the attribute `is_closed` to the real loop.
      match raised with
      | some error =>
          some ⟨{ crossing with
            raised := some error
            stage := .delivering ⟨guard, nested, below, .returning (.error error)⟩ }, eventLoop, []⟩
      | none =>
          let point := if eventLoop.closed then .returning (.ok ()) else .loopOpen
          some ⟨{ crossing with stage := .delivering ⟨guard, nested, below, point⟩ }, eventLoop, []⟩
  | .enqueue raised, .delivering ⟨guard, nested, [], .loopOpen⟩ =>
      match raised, crossing.payload with
      | some error, _ =>
          some ⟨{ crossing with
            raised := some error
            stage := .delivering ⟨guard, nested, [], .returning (swallowClosed error)⟩ }, eventLoop, []⟩
      | none, some payload =>
          -- A closed loop raises, so success means it is still open.
          if eventLoop.closed then none
          else
            some ⟨{ crossing with stage := .delivering ⟨guard, nested, [], .returning (.ok ())⟩ },
              eventLoop.callSoon ⟨index, payload⟩, []⟩
      | none, none => none
  | .ret, .delivering ⟨guard, inner :: nested, below, .returning result⟩ =>
      some ⟨{ crossing with stage := .delivering ⟨guard, nested, below, .returning (passOn result)⟩ },
        eventLoop, inner.toList⟩
  | .ret, .delivering ⟨guard, [], _, .returning result⟩ =>
      some ⟨{ crossing with stage := .finished (some result) }, eventLoop, guard.toList⟩
  | .freeProxy, .refused | .freeProxy, .finished _ =>
      if crossing.proxy = .live then
        some ⟨{ crossing with handoff := none, proxy := .freed }, eventLoop,
          crossing.handoff.toList⟩
      else none
  | _, _ => none

/-- What an action can do, case by case.  Everything proved about crossings
goes through this list. -/
inductive Acts (count : Int) (submitted : Nat) (eventLoop : EventLoop) (index : CrossingId)
    (crossing : Crossing) : Action -> Effect -> Prop
  | buildProxy (stage : crossing.stage = .submitting) :
      Acts count submitted eventLoop index crossing .buildProxy
        ⟨{ crossing with proxy := .live, stage := .proxied }, eventLoop, []⟩
  | enter (stage : crossing.stage = .proxied) :
      Acts count submitted eventLoop index crossing .enter
        ⟨{ crossing with future := .pending, stage := .polling }, eventLoop, []⟩
  | refuse (stage : crossing.stage = .submitting) :
      Acts count submitted eventLoop index crossing .refuse
        ⟨{ crossing with wrapper := .dropped, handoff := none, stage := .refused }, eventLoop,
          crossing.captured ++ crossing.handoff.toList⟩
  | refuseProxied (stage : crossing.stage = .proxied) :
      Acts count submitted eventLoop index crossing .refuse
        ⟨{ crossing with wrapper := .dropped, stage := .refused }, eventLoop, crossing.captured⟩
  | complete (result : Except PyErr PyObject) (stage : crossing.stage = .polling)
      (origin : crossing.origin ≠ .drain) :
      Acts count submitted eventLoop index crossing (.complete result)
        ⟨crossing.complete (.returned result), eventLoop, crossing.overwritten⟩
  | drainIdle (stage : crossing.stage = .polling) (origin : crossing.origin = .drain)
      (zero : count = 0) :
      Acts count submitted eventLoop index crossing .drainIdle
        ⟨{ crossing.complete (.drained true) with readZero := some submitted }, eventLoop,
          crossing.overwritten⟩
  | drainTimeout (stage : crossing.stage = .polling) (origin : crossing.origin = .drain) :
      Acts count submitted eventLoop index crossing .drainTimeout
        ⟨crossing.complete (.drained false), eventLoop, crossing.overwritten⟩
  | panic (stage : crossing.stage = .polling) (origin : crossing.origin ≠ .drain) :
      Acts count submitted eventLoop index crossing .panic
        ⟨{ crossing with wrapper := .dropped, stage := .ready, payload := some .rustPanic },
          eventLoop, crossing.captured⟩
  | cancel (pending : crossing.future = .pending) :
      Acts count submitted eventLoop index crossing .cancel
        ⟨{ crossing with future := .cancelled }, eventLoop, []⟩
  | abandon (stage : crossing.stage = .polling) (cancelled : crossing.future.isCancelled = true) :
      Acts count submitted eventLoop index crossing .abandon
        ⟨{ crossing with wrapper := .dropped, stage := .finished none }, eventLoop,
          crossing.captured⟩
  | skip (stage : crossing.stage = .ready) (cancelled : crossing.future.isCancelled = true) :
      Acts count submitted eventLoop index crossing .skip
        ⟨{ crossing with stage := .finished none }, eventLoop, []⟩
  | commit (stage : crossing.stage = .ready) (going : ¬ crossing.future.isCancelled = true) :
      Acts count submitted eventLoop index crossing .commit
        ⟨{ crossing with stage := .committed }, eventLoop, []⟩
  | take (stage : crossing.stage = .committed) :
      Acts count submitted eventLoop index crossing .take
        ⟨{ crossing with
          handoff := none
          stage := .delivering ⟨crossing.handoff, [], crossing.under, .entered⟩ }, eventLoop, []⟩
  | isClosedRaised (error : PyErr) (guard : Option Guard) (nested : List (Option Guard))
      (below : List CrossingId) (stage : crossing.stage = .delivering ⟨guard, nested, below, .entered⟩) :
      Acts count submitted eventLoop index crossing (.isClosed (some error))
        ⟨{ crossing with
          raised := some error
          stage := .delivering ⟨guard, nested, below, .returning (.error error)⟩ }, eventLoop, []⟩
  | isClosed (guard : Option Guard) (nested : List (Option Guard)) (below : List CrossingId)
      (stage : crossing.stage = .delivering ⟨guard, nested, below, .entered⟩) :
      Acts count submitted eventLoop index crossing (.isClosed none)
        ⟨{ crossing with
          stage := .delivering ⟨guard, nested, below,
            if eventLoop.closed then .returning (.ok ()) else .loopOpen⟩ }, eventLoop, []⟩
  | enqueueRaised (error : PyErr) (guard : Option Guard) (nested : List (Option Guard))
      (stage : crossing.stage = .delivering ⟨guard, nested, [], .loopOpen⟩) :
      Acts count submitted eventLoop index crossing (.enqueue (some error))
        ⟨{ crossing with
          raised := some error
          stage := .delivering ⟨guard, nested, [], .returning (swallowClosed error)⟩ }, eventLoop, []⟩
  | enqueue (guard : Option Guard) (nested : List (Option Guard)) (payload : Payload)
      (stage : crossing.stage = .delivering ⟨guard, nested, [], .loopOpen⟩)
      (held : crossing.payload = some payload) (loopOpen : ¬ eventLoop.closed = true) :
      Acts count submitted eventLoop index crossing (.enqueue none)
        ⟨{ crossing with stage := .delivering ⟨guard, nested, [], .returning (.ok ())⟩ },
          eventLoop.callSoon ⟨index, payload⟩, []⟩
  | retNested (guard inner : Option Guard) (nested : List (Option Guard)) (below : List CrossingId)
      (result : Except PyErr Unit)
      (stage : crossing.stage = .delivering ⟨guard, inner :: nested, below, .returning result⟩) :
      Acts count submitted eventLoop index crossing .ret
        ⟨{ crossing with stage := .delivering ⟨guard, nested, below, .returning (passOn result)⟩ },
          eventLoop, inner.toList⟩
  | ret (guard : Option Guard) (below : List CrossingId) (result : Except PyErr Unit)
      (stage : crossing.stage = .delivering ⟨guard, [], below, .returning result⟩) :
      Acts count submitted eventLoop index crossing .ret
        ⟨{ crossing with stage := .finished (some result) }, eventLoop, guard.toList⟩
  | freeProxy (stage : crossing.stage = .refused ∨ ∃ delivery, crossing.stage = .finished delivery)
      (live : crossing.proxy = .live) :
      Acts count submitted eventLoop index crossing .freeProxy
        ⟨{ crossing with handoff := none, proxy := .freed }, eventLoop, crossing.handoff.toList⟩

theorem act_acts {count : Int} {submitted : Nat} {eventLoop : EventLoop} {index : CrossingId}
    {crossing : Crossing} {action : Action} {effect : Effect}
    (acted : act count submitted eventLoop index crossing action = some effect) :
    Acts count submitted eventLoop index crossing action effect := by
  revert acted
  fun_cases act count submitted eventLoop index crossing action <;> intro acted <;> cases acted
  case case1 stage => exact .buildProxy stage
  case case2 stage => exact .enter stage
  case case3 stage => exact .refuse stage
  case case4 stage => exact .refuseProxied stage
  case case6 result stage origin => exact .complete result stage origin
  case case7 stage found => exact .drainIdle stage found.1 found.2
  case case9 stage origin => exact .drainTimeout stage origin
  case case12 stage origin => exact .panic stage origin
  case case13 pending => exact .cancel pending
  case case15 stage cancelled => exact .abandon stage cancelled
  case case17 stage cancelled => exact .skip stage cancelled
  case case20 stage going => exact .commit stage going
  case case21 stage => exact .take stage
  case case22 guard nested below stage error => exact .isClosedRaised error guard nested below stage
  case case23 guard nested below stage _ => exact .isClosed guard nested below stage
  case case24 guard nested stage error => exact .enqueueRaised error guard nested stage
  case case26 guard nested stage payload held loopOpen =>
      exact .enqueue guard nested payload stage held loopOpen
  case case28 guard inner nested below result stage => exact .retNested guard inner nested below result stage
  case case29 guard below result stage => exact .ret guard below result stage
  case case30 stage live => exact .freeProxy (Or.inl stage) live
  case case32 delivery stage live => exact .freeProxy (Or.inr ⟨delivery, stage⟩) live

/-! ## Any number of crossings over any number of loops -/

structure State where
  inFlight : InFlight
  registered : Nat
  released : Multiset Guard
  crossings : List Crossing
  loops : LoopId -> EventLoop

/-- Where a future is submitted: in a task of this loop, or while the future of
this crossing is polled. -/
inductive Site
  | running (loop : LoopId)
  | within (outer : CrossingId)
deriving DecidableEq

/-- A `forward` is the call on the proxy under the one whose
`call_soon_threadsafe` is running. -/
inductive Event
  | submit (origin : Origin) (site : Site)
  | act (index : CrossingId) (action : Action)
  | forward (index : CrossingId)
  | closeLoop (loop : LoopId)
  | runCallback (loop : LoopId)

namespace State

def initial : State where
  inFlight := ⟨0⟩
  registered := 0
  released := 0
  crossings := []
  loops := fun _ => ⟨false, [], []⟩

/-- `InFlightGuard::register` takes the next guard. -/
def register (state : State) : State × Guard :=
  ({ state with inFlight := state.inFlight.fetchAdd, registered := state.registered + 1 },
    state.registered)

/-- Dropping guards subtracts one for each. -/
def drop (state : State) (guards : List Guard) : State :=
  { state with
    inFlight := guards.foldl (fun tracker _ => tracker.fetchSub.2) state.inFlight
    released := (guards : Multiset Guard) + state.released }

def setLoop (state : State) (loop : LoopId) (eventLoop : EventLoop) : State :=
  { state with loops := Function.update state.loops loop eventLoop }

def setCrossing (state : State) (index : CrossingId) (crossing : Crossing) : State :=
  { state with crossings := state.crossings.set index crossing }

/-- `get_current_locals`: the running loop, or the proxies over the loop of the
future that is being polled. -/
def currentLocals (state : State) : Site -> Option (LoopId × List CrossingId)
  | .running loop => some (loop, [])
  | .within outer => do
      let crossing <- state.crossings[outer]?
      match crossing.stage with
      | .polling => some (crossing.loop, outer :: crossing.under)
      | _ => none

/-- A poll goes on after the submission it is in, and a proxy is freed after
those that stand over it. -/
def waitsFor (index : CrossingId) (action : Action) (inner : Crossing) : Bool :=
  decide (inner.under.head? = some index) &&
    match action, inner.stage with
    | .freeProxy, _ => decide (inner.proxy = .live)
    | .complete _, .submitting | .complete _, .proxied => true
    | .drainIdle, .submitting | .drainIdle, .proxied => true
    | .drainTimeout, .submitting | .drainTimeout, .proxied => true
    | .panic, .submitting | .panic, .proxied => true
    | .abandon, .submitting | .abandon, .proxied => true
    | _, _ => false

end State

/-- A call on its proxy has taken what was in the slot. -/
def Crossing.emptied (crossing : Crossing) : Crossing := { crossing with handoff := none }

/-- The loop runs the crossing's callback. -/
def Crossing.runCallback (crossing : Crossing) (payload : Payload) : Crossing :=
  { crossing with future := crossing.future.settle payload }

def step (state : State) : Event -> Option State
  | .submit .tracked site => do
      let (loop, under) <- state.currentLocals site
      let (registered, guard) := state.register
      some { registered with
        crossings := registered.crossings ++ [.submitted .tracked loop under (some guard)] }
  | .submit origin site => do
      let (loop, under) <- state.currentLocals site
      some { state with crossings := state.crossings ++ [.submitted origin loop under none] }
  | .act index action => do
      let crossing <- state.crossings[index]?
      let effect <- act state.inFlight.count state.crossings.length (state.loops crossing.loop)
        index crossing action
      if state.crossings.any (State.waitsFor index action) then none
      else
        some (((state.setCrossing index effect.crossing).setLoop crossing.loop
          effect.eventLoop).drop effect.dropped)
  | .forward index => do
      let crossing <- state.crossings[index]?
      match crossing.stage with
      | .delivering ⟨guard, nested, outer :: below, .loopOpen⟩ => do
          let called <- state.crossings[outer]?
          some ((state.setCrossing outer called.emptied).setCrossing index
            { crossing with stage := .delivering ⟨guard, called.handoff :: nested, below, .entered⟩ })
      | _ => none
  | .closeLoop loop => some (state.setLoop loop (state.loops loop).close)
  | .runCallback loop =>
      match (state.loops loop).ready with
      | [] => none
      | callback :: rest => do
          let crossing <- state.crossings[callback.crossing]?
          some ((state.setCrossing callback.crossing (crossing.runCallback callback.payload)).setLoop
            loop { state.loops loop with ready := rest, ran := (state.loops loop).ran ++ [callback] })

def machine : Machine State Event := ⟨step⟩

theorem run_step {events : List Event} {state next : State} {event : Event}
    (ran : machine.run .initial events = some state) (stepped : step state event = some next) :
    machine.run .initial (events ++ [event]) = some next := machine.run_snoc ran stepped

/-! ## Reading the machine -/

namespace PyFuture

variable (future : PyFuture) (payload : Payload)

@[simp] theorem isCancelled_iff : future.isCancelled = true <-> future = .cancelled := by
  cases future <;> simp [isCancelled]

@[simp] theorem settle_eq_absent : future.settle payload = .absent <-> future = .absent := by
  cases future <;> simp [settle]

@[simp] theorem settle_eq_cancelled : future.settle payload = .cancelled <-> future = .cancelled := by
  cases future <;> simp [settle]

theorem settle_ne_pending : future.settle payload ≠ .pending := by
  cases future <;> simp [settle]

end PyFuture

namespace State

variable (state : State)

@[simp] theorem drop_registered (guards : List Guard) :
    (state.drop guards).registered = state.registered := rfl

@[simp] theorem drop_crossings (guards : List Guard) :
    (state.drop guards).crossings = state.crossings := rfl

@[simp] theorem drop_loops (guards : List Guard) : (state.drop guards).loops = state.loops := rfl

@[simp] theorem drop_released (guards : List Guard) :
    (state.drop guards).released = (guards : Multiset Guard) + state.released := rfl

@[simp] theorem drop_count (guards : List Guard) :
    (state.drop guards).inFlight.count = state.inFlight.count - guards.length := by
  change (guards.foldl (fun tracker _ => tracker.fetchSub.2) state.inFlight).count = _
  generalize state.inFlight = tracker
  induction guards generalizing tracker with
  | nil => simp
  | cons guard rest ih =>
      rw [List.foldl_cons, ih]
      simp only [InFlight.fetchSub, List.length_cons]
      omega

@[simp] theorem setLoop_same (loop : LoopId) (eventLoop : EventLoop) :
    (state.setLoop loop eventLoop).loops loop = eventLoop := Function.update_self ..

theorem setLoop_other {loop other : LoopId} (eventLoop : EventLoop) (different : other ≠ loop) :
    (state.setLoop loop eventLoop).loops other = state.loops other :=
  Function.update_of_ne different ..

theorem setCrossing_same {index : CrossingId} {old : Crossing}
    (found : state.crossings[index]? = some old) (crossing : Crossing) :
    (state.setCrossing index crossing).crossings[index]? = some crossing :=
  List.getElem?_set_self (List.getElem?_eq_some_iff.mp found).1

theorem setCrossing_other {index other : CrossingId} (crossing : Crossing)
    (different : index ≠ other) :
    (state.setCrossing index crossing).crossings[other]? = state.crossings[other]? :=
  List.getElem?_set_ne different

end State

theorem step_act {state next : State} {index : CrossingId} {action : Action}
    (stepped : step state (.act index action) = some next) :
    ∃ crossing effect, state.crossings[index]? = some crossing ∧
      Acts state.inFlight.count state.crossings.length (state.loops crossing.loop) index crossing
        action effect ∧
      next = ((state.setCrossing index effect.crossing).setLoop crossing.loop
        effect.eventLoop).drop effect.dropped := by
  simp only [step, Option.bind_eq_bind, Option.bind_eq_some_iff] at stepped
  rcases stepped with ⟨crossing, found, effect, acted, same⟩
  split at same
  · cases same
  · exact ⟨crossing, effect, found, act_acts acted, (Option.some.inj same).symm⟩

/-- An action that waits for no other crossing is a step. -/
theorem act_step {state : State} {index : CrossingId} {crossing : Crossing} {effect : Effect} (action : Action)
    (found : state.crossings[index]? = some crossing)
    (acted : act state.inFlight.count state.crossings.length (state.loops crossing.loop) index crossing action =
      some effect)
    (free : ∀ inner ∈ state.crossings, State.waitsFor index action inner = false) :
    step state (.act index action) = some (((state.setCrossing index effect.crossing).setLoop crossing.loop
      effect.eventLoop).drop effect.dropped) := by
  have nobody : ¬ state.crossings.any (State.waitsFor index action) = true := by
    rw [List.any_eq_true]
    rintro ⟨inner, member, waits⟩
    cases (free inner member).symm.trans waits
  simp only [step, Option.bind_eq_bind, found, Option.bind_some, acted, if_neg nobody]

/-- Only the end of a poll and the freeing of a proxy wait for another crossing. -/
theorem waitsFor_cases {index : CrossingId} {action : Action} {inner : Crossing}
    (waits : State.waitsFor index action inner = true) : inner.under.head? = some index ∧
      ((action = .freeProxy ∧ inner.proxy = .live) ∨ inner.stage = .submitting ∨ inner.stage = .proxied) := by
  unfold State.waitsFor at waits
  rw [Bool.and_eq_true, decide_eq_true_eq] at waits
  refine ⟨waits.1, ?_⟩
  rcases waits with ⟨_, waits⟩
  split at waits <;> simp_all

/-- A call goes on to the proxy under its own and empties the slot of that one. -/
theorem step_forward {state next : State} {index : CrossingId}
    (stepped : step state (.forward index) = some next) :
    ∃ crossing guard nested outer below called, state.crossings[index]? = some crossing ∧
      crossing.stage = .delivering ⟨guard, nested, outer :: below, .loopOpen⟩ ∧
      state.crossings[outer]? = some called ∧
      next = (state.setCrossing outer called.emptied).setCrossing index
        { crossing with stage := .delivering ⟨guard, called.handoff :: nested, below, .entered⟩ } := by
  simp only [step, Option.bind_eq_bind, Option.bind_eq_some_iff] at stepped
  rcases stepped with ⟨crossing, found, forwarded⟩
  split at forwarded
  · rename_i guard nested outer below stage
    rcases Option.bind_eq_some_iff.mp forwarded with ⟨called, foundOuter, same⟩
    exact ⟨crossing, guard, nested, outer, below, called, found, stage, foundOuter, (Option.some.inj same).symm⟩
  · cases forwarded

theorem step_runCallback {state next : State} {loop : LoopId}
    (stepped : step state (.runCallback loop) = some next) :
    ∃ callback rest crossing, (state.loops loop).ready = callback :: rest ∧
      state.crossings[callback.crossing]? = some crossing ∧
      next = (state.setCrossing callback.crossing (crossing.runCallback callback.payload)).setLoop
        loop { state.loops loop with ready := rest, ran := (state.loops loop).ran ++ [callback] } := by
  simp only [step] at stepped
  split at stepped
  · cases stepped
  · rename_i callback rest queue
    simp only [Option.bind_eq_bind, Option.bind_eq_some_iff] at stepped
    rcases stepped with ⟨crossing, found, same⟩
    exact ⟨callback, rest, crossing, queue, found, (Option.some.inj same).symm⟩

/-- A submission adds one crossing; only a tracked one registers a guard. -/
theorem step_submit {state next : State} {origin : Origin} {site : Site}
    (stepped : step state (.submit origin site) = some next) :
    ∃ loop under, state.currentLocals site = some (loop, under) ∧
      ((origin = .tracked ∧ next = { state.register.1 with
        crossings := state.crossings ++ [.submitted origin loop under (some state.registered)] }) ∨
      (origin ≠ .tracked ∧ next = { state with
        crossings := state.crossings ++ [.submitted origin loop under none] })) := by
  cases origin with
  | tracked =>
      rcases Option.bind_eq_some_iff.mp stepped with ⟨⟨loop, under⟩, locals, same⟩
      cases same
      exact ⟨loop, under, locals, Or.inl ⟨rfl, rfl⟩⟩
  | untracked =>
      rcases Option.bind_eq_some_iff.mp stepped with ⟨⟨loop, under⟩, locals, same⟩
      cases same
      exact ⟨loop, under, locals, Or.inr ⟨nofun, rfl⟩⟩
  | drain =>
      rcases Option.bind_eq_some_iff.mp stepped with ⟨⟨loop, under⟩, locals, same⟩
      cases same
      exact ⟨loop, under, locals, Or.inr ⟨nofun, rfl⟩⟩

/-- What is submitted on a running loop has no proxy under its own. -/
theorem currentLocals_cases {state : State} {site : Site} {loop : LoopId} {under : List CrossingId}
    (locals : state.currentLocals site = some (loop, under)) :
    (site = .running loop ∧ under = []) ∨
      ∃ outer crossing, site = .within outer ∧ state.crossings[outer]? = some crossing ∧
        crossing.stage = .polling ∧ loop = crossing.loop ∧ under = outer :: crossing.under := by
  cases site with
  | running here =>
      cases locals
      exact Or.inl ⟨rfl, rfl⟩
  | within outer =>
      rcases Option.bind_eq_some_iff.mp locals with ⟨crossing, found, same⟩
      cases stage : crossing.stage with
      | polling =>
          rw [stage] at same
          cases same
          exact Or.inr ⟨outer, crossing, rfl, found, stage, rfl, rfl⟩
      | _ =>
          rw [stage] at same
          cases same

/-! ## One crossing and one loop across an event -/

/-- What an event can make of the crossing with a given number. -/
inductive Becomes (state next : State) (event : Event) (index : CrossingId) : Crossing -> Prop
  | submitted (origin : Origin) (site : Site) (loop : LoopId) (under : List CrossingId)
      (event_eq : event = .submit origin site) (locals : state.currentLocals site = some (loop, under))
      (last : index = state.crossings.length) :
      Becomes state next event index
        (.submitted origin loop under (if origin = .tracked then some state.registered else none))
  | kept (crossing : Crossing) (found : state.crossings[index]? = some crossing) :
      Becomes state next event index crossing
  | acted (crossing : Crossing) (action : Action) (effect : Effect)
      (found : state.crossings[index]? = some crossing) (event_eq : event = .act index action)
      (acts : Acts state.inFlight.count state.crossings.length (state.loops crossing.loop) index
        crossing action effect)
      (after : next.loops crossing.loop = effect.eventLoop) : Becomes state next event index effect.crossing
  | emptied (crossing caller : Crossing) (calling : CrossingId) (guard : Option Guard)
      (nested : List (Option Guard)) (below : List CrossingId)
      (found : state.crossings[index]? = some crossing) (event_eq : event = .forward calling)
      (foundCaller : state.crossings[calling]? = some caller)
      (stage : caller.stage = .delivering ⟨guard, nested, index :: below, .loopOpen⟩) :
      Becomes state next event index crossing.emptied
  | forwarded (crossing called : Crossing) (guard : Option Guard) (nested : List (Option Guard))
      (outer : CrossingId) (below : List CrossingId) (found : state.crossings[index]? = some crossing)
      (event_eq : event = .forward index)
      (stage : crossing.stage = .delivering ⟨guard, nested, outer :: below, .loopOpen⟩)
      (foundOuter : state.crossings[outer]? = some called) :
      Becomes state next event index
        { crossing with stage := .delivering ⟨guard, called.handoff :: nested, below, .entered⟩ }
  | ran (crossing : Crossing) (loop : LoopId) (callback : Callback) (rest : List Callback)
      (event_eq : event = .runCallback loop) (found : state.crossings[index]? = some crossing)
      (queue : (state.loops loop).ready = callback :: rest) (own : callback.crossing = index)
      (after : (next.loops loop).ran = (state.loops loop).ran ++ [callback]) :
      Becomes state next event index (crossing.runCallback callback.payload)

/-- What an event can make of a loop. -/
inductive LoopBecomes (state next : State) (event : Event) (loop : LoopId) : EventLoop -> Prop
  | kept : LoopBecomes state next event loop (state.loops loop)
  | queued (index : CrossingId) (crossing : Crossing) (guard : Option Guard) (nested : List (Option Guard))
      (payload : Payload) (event_eq : event = .act index (.enqueue none))
      (found : state.crossings[index]? = some crossing) (own : crossing.loop = loop)
      (stage : crossing.stage = .delivering ⟨guard, nested, [], .loopOpen⟩)
      (held : crossing.payload = some payload) (loopOpen : ¬ (state.loops loop).closed = true) :
      LoopBecomes state next event loop ((state.loops loop).callSoon ⟨index, payload⟩)
  | closed : LoopBecomes state next event loop (state.loops loop).close
  | ran (callback : Callback) (rest : List Callback) (crossing : Crossing)
      (queue : (state.loops loop).ready = callback :: rest)
      (after : next.crossings[callback.crossing]? = some (crossing.runCallback callback.payload)) :
      LoopBecomes state next event loop
        { state.loops loop with ready := rest, ran := (state.loops loop).ran ++ [callback] }

private theorem append_singleton_cases {crossings : List Crossing} {submitted new : Crossing}
    {index : CrossingId} (found : (crossings ++ [submitted])[index]? = some new) :
    crossings[index]? = some new ∨ (index = crossings.length ∧ new = submitted) := by
  rcases lt_trichotomy index crossings.length with below | same | above
  · exact Or.inl (List.getElem?_append_left below ▸ found)
  · subst same
    rw [List.getElem?_concat_length] at found
    exact Or.inr ⟨rfl, (Option.some.inj found).symm⟩
  · rw [List.getElem?_eq_none (by rw [List.length_append]; exact above)] at found
    cases found

theorem step_becomes {state next : State} {event : Event} (stepped : step state event = some next)
    {index : CrossingId} {new : Crossing} (found : next.crossings[index]? = some new) :
    Becomes state next event index new := by
  cases event with
  | submit origin site =>
      rcases step_submit stepped with ⟨loop, under, locals, ⟨tracked, rfl⟩ | ⟨untracked, rfl⟩⟩
      · rcases append_singleton_cases found with old | ⟨last, rfl⟩
        · exact .kept new old
        · simpa only [if_pos tracked] using Becomes.submitted origin site loop under rfl locals last
      · rcases append_singleton_cases found with old | ⟨last, rfl⟩
        · exact .kept new old
        · simpa only [if_neg untracked] using Becomes.submitted origin site loop under rfl locals last
  | act other action =>
      rcases step_act stepped with ⟨crossing, effect, old, acts, rfl⟩
      rw [State.drop_crossings] at found
      by_cases same : other = index
      · subst same
        cases (State.setCrossing_same state old effect.crossing).symm.trans found
        exact .acted crossing action effect old rfl acts (State.setLoop_same ..)
      · exact .kept new ((State.setCrossing_other state effect.crossing same).symm.trans found)
  | forward calling =>
      rcases step_forward stepped with
        ⟨crossing, guard, nested, outer, below, called, old, stage, foundOuter, rfl⟩
      by_cases same : calling = index
      · subst same
        have inside : calling < (state.crossings.set outer called.emptied).length := by
          rw [List.length_set]
          exact (List.getElem?_eq_some_iff.mp old).1
        cases (List.getElem?_set_self inside).symm.trans found
        exact .forwarded crossing called guard nested outer below old rfl stage foundOuter
      · have before := (State.setCrossing_other (state.setCrossing outer called.emptied) _ same).symm.trans found
        by_cases taken : outer = index
        · subst taken
          cases (State.setCrossing_same state foundOuter called.emptied).symm.trans before
          exact .emptied called crossing calling guard nested below foundOuter rfl old stage
        · exact .kept new ((State.setCrossing_other state called.emptied taken).symm.trans before)
  | closeLoop loop =>
      cases stepped
      exact .kept new found
  | runCallback loop =>
      rcases step_runCallback stepped with ⟨callback, rest, crossing, queue, old, rfl⟩
      by_cases same : callback.crossing = index
      · subst same
        cases (State.setCrossing_same state old (crossing.runCallback callback.payload)).symm.trans
          found
        exact .ran crossing loop callback rest rfl old queue rfl
          (congrArg EventLoop.ran (State.setLoop_same ..))
      · exact .kept new ((State.setCrossing_other state _ same).symm.trans found)

/-- An action leaves the loop alone unless it is the enqueue. -/
theorem Acts.eventLoop {count : Int} {submitted : Nat} {eventLoop : EventLoop} {index : CrossingId}
    {crossing : Crossing} {action : Action} {effect : Effect}
    (acts : Acts count submitted eventLoop index crossing action effect) :
    effect.eventLoop = eventLoop ∨
      ∃ guard nested payload, action = .enqueue none ∧
        crossing.stage = .delivering ⟨guard, nested, [], .loopOpen⟩ ∧ crossing.payload = some payload ∧
        ¬ eventLoop.closed = true ∧ effect.eventLoop = eventLoop.callSoon ⟨index, payload⟩ := by
  cases acts with
  | enqueue guard nested payload stage held loopOpen =>
      exact Or.inr ⟨guard, nested, payload, rfl, stage, held, loopOpen, rfl⟩
  | _ => exact Or.inl rfl

theorem step_loopBecomes {state next : State} {event : Event}
    (stepped : step state event = some next) (loop : LoopId) :
    LoopBecomes state next event loop (next.loops loop) := by
  cases event with
  | submit origin site =>
      rcases step_submit stepped with ⟨_, _, _, ⟨_, rfl⟩ | ⟨_, rfl⟩⟩
      · exact .kept
      · exact .kept
  | act index action =>
      rcases step_act stepped with ⟨crossing, effect, found, acts, rfl⟩
      rw [State.drop_loops]
      by_cases same : loop = crossing.loop
      · subst same
        rw [State.setLoop_same]
        rcases acts.eventLoop with kept | ⟨guard, nested, payload, rfl, stage, held, loopOpen, queued⟩
        · exact kept ▸ .kept
        · exact queued ▸ .queued index crossing guard nested payload rfl found rfl stage held loopOpen
      · rw [State.setLoop_other _ _ same]
        exact .kept
  | forward index =>
      rcases step_forward stepped with ⟨_, _, _, _, _, _, _, _, _, rfl⟩
      exact .kept
  | closeLoop other =>
      cases stepped
      by_cases same : loop = other
      · subst same
        rw [State.setLoop_same]
        exact .closed
      · rw [State.setLoop_other _ _ same]
        exact .kept
  | runCallback other =>
      rcases step_runCallback stepped with ⟨callback, rest, crossing, queue, found, rfl⟩
      by_cases same : loop = other
      · subst same
        rw [State.setLoop_same]
        exact .ran callback rest crossing queue (State.setCrossing_same state found _)
      · rw [State.setLoop_other _ _ same]
        exact .kept

theorem step_length {state next : State} {event : Event} (stepped : step state event = some next) :
    state.crossings.length ≤ next.crossings.length := by
  cases event with
  | submit origin site =>
      rcases step_submit stepped with ⟨_, _, _, ⟨_, rfl⟩ | ⟨_, rfl⟩⟩
      · simp
      · simp
  | act index action =>
      rcases step_act stepped with ⟨_, _, _, _, rfl⟩
      simp [State.setLoop, State.setCrossing]
  | forward index =>
      rcases step_forward stepped with ⟨_, _, _, _, _, _, _, _, _, rfl⟩
      simp [State.setCrossing]
  | closeLoop loop =>
      cases stepped
      exact le_rfl
  | runCallback loop =>
      rcases step_runCallback stepped with ⟨_, _, _, _, _, rfl⟩
      simp [State.setLoop, State.setCrossing]

/-- What holds of a crossing when it is submitted, and is kept by its actions,
by calls on its proxy and on the one under it and by its callback, holds of every
crossing of every reachable state. -/
theorem every_crossing (Inv : Crossing -> Prop)
    (submits : forall origin loop under guard, (guard.isSome = true <-> origin = .tracked) ->
      Inv (.submitted origin loop under guard))
    (keeps : forall {count : Int} {submitted : Nat} {eventLoop : EventLoop} {index : CrossingId}
      {crossing : Crossing} {action : Action} {effect : Effect}, Inv crossing ->
        Acts count submitted eventLoop index crossing action effect -> Inv effect.crossing)
    (empties : forall crossing, Inv crossing -> Inv crossing.emptied)
    (forwards : forall crossing guard nested outer below taken, Inv crossing ->
      crossing.stage = .delivering ⟨guard, nested, outer :: below, .loopOpen⟩ ->
        Inv { crossing with stage := .delivering ⟨guard, taken :: nested, below, .entered⟩ })
    (completes : forall crossing payload, Inv crossing -> Inv (crossing.runCallback payload))
    {events : List Event} {state : State} (ran : machine.run .initial events = some state)
    {index : CrossingId} {crossing : Crossing} (found : state.crossings[index]? = some crossing) :
    Inv crossing := by
  refine machine.run_invariant
    (fun state => forall index crossing, state.crossings[index]? = some crossing -> Inv crossing)
    (fun state event next holds stepped index new foundNew => ?_) (by intro index new absurd; cases absurd)
    ran index crossing found
  cases step_becomes stepped foundNew with
  | submitted origin site loop under _ _ last =>
      refine submits origin loop under _ ?_
      by_cases tracked : origin = .tracked
      · simp [tracked]
      · simp [tracked]
  | kept _ old => exact holds index new old
  | acted crossing action effect old _ acts _ => exact keeps (holds index crossing old) acts
  | emptied crossing _ _ _ _ _ old _ _ _ => exact empties crossing (holds index crossing old)
  | forwarded crossing called guard nested outer below old _ stage _ =>
      exact forwards crossing guard nested outer below called.handoff (holds index crossing old) stage
  | ran crossing loop callback rest _ old _ _ _ => exact completes crossing _ (holds index crossing old)

/-! ## The proxies under a crossing -/

/-- The proxies under a crossing are those of crossings that were submitted
before, and those under a running call are the last of them. -/
structure Crossing.Stands (index : CrossingId) (crossing : Crossing) : Prop where
  below : ∀ outer ∈ crossing.under, outer < index
  call : forall call, crossing.stage = .delivering call -> call.below <:+ crossing.under

theorem Acts.under {count : Int} {submitted : Nat} {eventLoop : EventLoop} {index : CrossingId}
    {crossing : Crossing} {action : Action} {effect : Effect}
    (acts : Acts count submitted eventLoop index crossing action effect) :
    effect.crossing.under = crossing.under := by
  cases acts <;> rfl

theorem Acts.stands {count : Int} {submitted : Nat} {eventLoop : EventLoop} {index : CrossingId}
    {crossing : Crossing} {action : Action} {effect : Effect} (stands : crossing.Stands index)
    (acts : Acts count submitted eventLoop index crossing action effect) :
    effect.crossing.Stands index := by
  refine ⟨acts.under ▸ stands.below, fun call after => ?_⟩
  rw [acts.under]
  have kept : forall {before : Call}, crossing.stage = .delivering before -> call.below = before.below ->
      call.below <:+ crossing.under := by
    intro before stage below
    rw [below]
    exact stands.call before stage
  cases acts with
  | cancel pending => exact stands.call call after
  | take stage =>
      cases after
      exact List.suffix_rfl
  | isClosedRaised error guard nested below stage =>
      cases after
      exact kept stage rfl
  | isClosed guard nested below stage =>
      cases after
      exact kept stage rfl
  | enqueueRaised error guard nested stage =>
      cases after
      exact kept stage rfl
  | enqueue guard nested payload stage held loopOpen =>
      cases after
      exact kept stage rfl
  | retNested guard inner nested below result stage =>
      cases after
      exact kept stage rfl
  | freeProxy stage live => exact stands.call call after
  | _ => cases after

theorem run_stands {events : List Event} {state : State}
    (ran : machine.run .initial events = some state) {index : CrossingId} {crossing : Crossing}
    (found : state.crossings[index]? = some crossing) : crossing.Stands index := by
  refine machine.run_invariant
    (fun state => forall index crossing, state.crossings[index]? = some crossing -> crossing.Stands index)
    (fun state event next holds stepped index new foundNew => ?_) (by intro index new absurd; cases absurd)
    ran index crossing found
  cases step_becomes stepped foundNew with
  | submitted origin site loop under _ locals last =>
      refine ⟨fun outer among => ?_, nofun⟩
      rcases currentLocals_cases locals with ⟨_, rfl⟩ | ⟨within, crossing, _, found, _, _, rfl⟩
      · cases among
      · have inside := (List.getElem?_eq_some_iff.mp found).1
        rcases List.mem_cons.mp among with rfl | deeper
        · exact last ▸ inside
        · exact last ▸ lt_trans ((holds within crossing found).below outer deeper) inside
  | kept _ old => exact holds index new old
  | acted crossing action effect old _ acts _ => exact acts.stands (holds index crossing old)
  | emptied crossing _ _ _ _ _ old _ _ _ => exact ⟨(holds index crossing old).below, (holds index crossing old).call⟩
  | forwarded crossing called guard nested outer below old _ stage _ =>
      refine ⟨(holds index crossing old).below, fun call after => ?_⟩
      cases after
      exact (List.suffix_cons _ _).trans ((holds index crossing old).call _ stage)
  | ran crossing loop callback rest _ old _ _ _ =>
      exact ⟨(holds index crossing old).below, (holds index crossing old).call⟩

/-- A call never goes on to the proxy of its own crossing. -/
theorem outer_ne {events : List Event} {state : State} (ran : machine.run .initial events = some state)
    {index outer : CrossingId} {crossing : Crossing} {guard : Option Guard} {nested : List (Option Guard)}
    {below : List CrossingId} {point : CallPoint} (found : state.crossings[index]? = some crossing)
    (stage : crossing.stage = .delivering ⟨guard, nested, outer :: below, point⟩) : outer < index :=
  (run_stands ran found).below outer (((run_stands ran found).call _ stage).subset List.mem_cons_self)

end Bridge
end Lkrequest
