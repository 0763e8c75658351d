import Lkrequest.Foundations.Ledger
import Lkrequest.Session.Lifecycle

namespace Lkrequest
namespace Pool

open Foundations
open Session (World StateId sessionClosed)

/-!
# Session pools, guards and their handles

A guard holds a lease on a Rust session in an `Arc<Mutex<Option<..>>>`.  A
method of the guard is a future that owns a clone of the `Arc`, waits for the
lock and does all its work before it gives the lock back, so what it does is
one step.  The blocking guard does the same at the call.  A session handle that
a guard gives out is a clone of the leased Rust session next to a
`SessionState` of its own, and knows nothing of the guard.

The pool behind is upstream's.  It has a session out on lease at most once, and
gets it back when the lease is dropped.
-/

/-! ## The system -/

abbrev RustId := Nat

abbrev GuardId := Nat

/-- `PyRuntimeError::new_err("SessionGuard already released")`. -/
def alreadyReleased : PyErr := .runtimeError "SessionGuard already released"

/-- The methods that look into a guard: its `session` property, entering and
leaving the `with` block, and what `acquire_fresh` and `mark_bad` do to the
guard they are given. -/
inductive GuardOp
  | session
  | enter
  | exit
  | acquireFresh
  | markBad
deriving DecidableEq

/-- The operations that read the session of a guard. -/
def GuardOp.Reads (op : GuardOp) : Prop := op = .session ∨ op = .enter

/-- A guard, by the lease in its cell, whether its Python object is alive, and
the strong count of the `Arc`. -/
structure SessionGuard where
  lease : Option RustId
  object : Bool
  refs : Nat
deriving DecidableEq

/-- A method that was called and waits for the lock, or is over. -/
structure GuardFuture where
  guard : GuardId
  op : GuardOp
  live : Bool
deriving DecidableEq

/-- A `Session` or `BlockingSession` that a guard gave out. -/
structure Handle where
  rust : RustId
  guard : GuardId
  state : StateId
deriving DecidableEq

/-- `leased` and `bad` are upstream's: what is out on lease, and what
`mark_bad` was called with. -/
structure State where
  world : World
  leased : Multiset RustId
  bad : List RustId
  guards : List SessionGuard
  futures : List GuardFuture
  handles : List Handle
  raised : List (GuardId × GuardOp × PyErr)

/-- `acquire` is the end of any `pool.acquire()`, that of `acquire` or the one
of `acquire_fresh` which follows the step on the bad guard. -/
inductive Event
  | acquire (rust : RustId)
  | submit (guard : GuardId) (op : GuardOp)
  | run (future : Nat)
  | dropFuture (future : Nat)
  | dropGuard (guard : GuardId)
  | blocking (guard : GuardId) (op : GuardOp)
  | session (event : Session.Event)

namespace State

def initial : State := ⟨.initial, 0, [], [], [], [], []⟩

def setGuard (state : State) (id : GuardId) (guard : SessionGuard) : State :=
  { state with guards := state.guards.set id guard }

/-- The cell is emptied, and the lease goes back to the pool. -/
def release (state : State) (id : GuardId) (guard : SessionGuard) : State :=
  { state.setGuard id { guard with lease := none } with
    leased := state.leased - (guard.lease.toList : Multiset RustId) }

/-- A clone of the `Arc` is dropped, the last one with the cell. -/
def dropRef (state : State) (id : GuardId) (guard : SessionGuard) : State :=
  if guard.refs = 1 then state.release id { guard with refs := 0 }
  else state.setGuard id { guard with refs := guard.refs - 1 }

/-- `if let Some(ref g) = *lock { pool.mark_bad(g); }` -/
def markBad (state : State) (guard : SessionGuard) : State :=
  { state with bad := state.bad ++ guard.lease.toList }

/-- `PySession { inner: (**g).clone(), state: SessionState::default(), .. }` -/
def give (state : State) (id : GuardId) (rust : RustId) : Option State := do
  let world <- Session.step state.world (.session [] none none)
  return { state with
    world := world
    handles := state.handles ++ [⟨rust, id, state.world.created⟩] }

/-- What a method does while it has the lock. -/
def locked (state : State) (id : GuardId) (guard : SessionGuard) (op : GuardOp) : Option State :=
  match op with
  | .session | .enter =>
      match guard.lease with
      | none => some { state with raised := state.raised ++ [(id, op, alreadyReleased)] }
      | some rust => state.give id rust
  | .exit => some (state.release id guard)
  | .acquireFresh => some ((state.markBad guard).release id guard)
  | .markBad => some (state.markBad guard)

/-- The future is over, and drops its clone of the `Arc`. -/
def endFuture (state : State) (index : Nat) (future : GuardFuture) : Option State := do
  let guard <- state.guards[future.guard]?
  return { state with futures := state.futures.set index { future with live := false } }.dropRef
    future.guard guard

def step (state : State) : Event -> Option State
  | .acquire rust =>
      -- upstream leases a session to one holder at a time
      if rust ∈ state.leased then none
      else
        some { state with
          leased := rust ::ₘ state.leased
          guards := state.guards ++ [⟨some rust, true, 1⟩] }
  | .submit id op => do
      let guard <- state.guards[id]?
      if guard.object then
        some { state.setGuard id { guard with refs := guard.refs + 1 } with
          futures := state.futures ++ [⟨id, op, true⟩] }
      else none
  | .run index => do
      let future <- state.futures[index]?
      let guard <- state.guards[future.guard]?
      if future.live then
        let next <- state.locked future.guard guard future.op
        next.endFuture index future
      else none
  | .dropFuture index => do
      let future <- state.futures[index]?
      if future.live then state.endFuture index future else none
  | .dropGuard id => do
      let guard <- state.guards[id]?
      if guard.object then some (state.dropRef id { guard with object := false }) else none
  | .blocking id op => do
      let guard <- state.guards[id]?
      if guard.object then state.locked id guard op else none
  | .session event => do
      let world <- Session.step state.world event
      return { state with world := world }

end State

/-- Guards, their futures, the handles they gave out and all sessions. -/
def pool : Machine State Event := ⟨State.step⟩

end Pool
end Lkrequest
