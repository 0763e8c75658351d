import Lkrequest.Foundations.Ledger
import Lkrequest.Foundations.Runs
import Lkrequest.Python

namespace Lkrequest
namespace Session

open Foundations

/-!
# Requests that close() abandons

`Closing` is a clone of the `Arc` around the sender of the closed channel, and
`Closing::guard` selects between the guarded work and that channel.  The
channel answers when the session was closed and also when every sender is gone,
and `guard` cannot tell the two apart.  It need not: the future owns a sender
for as long as it lives.

A poll of the select is cut into the polls of its two branches, in either
order, so a close may land between any two of them.  What the guarded work does
when it is polled is left to the event.
-/

/-! ## The channel and the select -/

/-- `watch::channel(false)` with its sender behind an `Arc`. -/
structure Channel where
  value : Bool
  strong : Nat
deriving DecidableEq

namespace Channel

/-- `watch::channel(false).0` in a new `Arc`. -/
def fresh : Channel := ⟨false, 1⟩

/-- `send_replace(true)`. -/
def sendReplace (channel : Channel) : Channel := { channel with value := true }

/-- `Arc::clone`. -/
def clone (channel : Channel) : Channel := { channel with strong := channel.strong + 1 }

/-- Dropping an `Arc`. -/
def drop (channel : Channel) : Channel := { channel with strong := channel.strong - 1 }

/-- `wait_for(|closed| *closed)` is done: the value is true, or all senders are
gone and it fails. -/
def waitedFor (channel : Channel) : Bool := channel.value || channel.strong == 0

end Channel

/-- The branches of the select. -/
inductive Branch
  | work
  | closed
deriving DecidableEq

/-- The select starts at a random branch. -/
inductive Order
  | workFirst
  | closedFirst
deriving DecidableEq

def Order.branches : Order -> List Branch
  | .workFirst => [.work, .closed]
  | .closedFirst => [.closed, .work]

/-- `PyRuntimeError::new_err("Session was closed while the request was in flight")`. -/
def closedInFlight : PyErr := .runtimeError "Session was closed while the request was in flight"

/-- A guarded future: made by `closing()`, being polled with these branches
still to come, pending, done through a branch, or dropped. -/
inductive GuardStage (Value : Type)
  | captured
  | polling (remaining : List Branch)
  | pending
  | resolved (branch : Branch) (result : Except PyErr Value)
  | dropped

namespace GuardStage

variable {Value : Type}

/-- The future exists, and with it the sender that it owns. -/
def isLive : GuardStage Value -> Bool
  | .captured | .polling _ | .pending => true
  | .resolved _ _ | .dropped => false

/-- The poll goes on with the other branch, or returns. -/
def next : List Branch -> GuardStage Value
  | [] => .pending
  | remaining => .polling remaining

end GuardStage

/-! ## Any number of sessions and guarded futures -/

/-- A session state, by its channel and the handles that share it. -/
structure Shared where
  channel : Channel
  handles : Nat
deriving DecidableEq

abbrev SessionId := Nat

/-- A guarded future. -/
structure Guard (Value : Type) where
  session : SessionId
  stage : GuardStage Value

structure Guards (Value : Type) where
  sessions : List Shared
  guards : List (Guard Value)

inductive GuardEvent (Value : Type)
  | session
  | cloneHandle (session : SessionId)
  | dropHandle (session : SessionId)
  | ensureOpen (session : SessionId)
  | closing (session : SessionId)
  | poll (index : Nat) (order : Order)
  | pollWork (index : Nat) (result : Option (Except PyErr Value))
  | pollClosed (index : Nat)
  | drop (index : Nat)
  | close (session : SessionId)

namespace Guards

variable {Value : Type}

def initial : Guards Value := ⟨[], []⟩

def setSession (state : Guards Value) (session : SessionId) (shared : Shared) : Guards Value :=
  { state with sessions := state.sessions.set session shared }

def setGuard (state : Guards Value) (index : Nat) (guard : Guard Value) : Guards Value :=
  { state with guards := state.guards.set index guard }

/-- The future is done or dropped, and its sender with it. -/
def finish (state : Guards Value) (index : Nat) (guard : Guard Value) (shared : Shared)
    (stage : GuardStage Value) : Guards Value :=
  (state.setGuard index { guard with stage := stage }).setSession guard.session
    { shared with channel := shared.channel.drop }

end Guards

variable {Value : Type}

def guardStep (state : Guards Value) : GuardEvent Value -> Option (Guards Value)
  | .session => some { state with sessions := state.sessions ++ [⟨.fresh, 1⟩] }
  | .cloneHandle session => do
      let shared <- state.sessions[session]?
      if shared.handles = 0 then none
      else some (state.setSession session ⟨shared.channel.clone, shared.handles + 1⟩)
  | .dropHandle session => do
      let shared <- state.sessions[session]?
      if shared.handles = 0 then none
      else some (state.setSession session ⟨shared.channel.drop, shared.handles - 1⟩)
  | .ensureOpen session => do
      let shared <- state.sessions[session]?
      if shared.handles = 0 ∨ shared.channel.value then none else some state
  | .closing session => do
      let shared <- state.sessions[session]?
      if shared.handles = 0 then none
      else
        some { state.setSession session { shared with channel := shared.channel.clone } with
          guards := state.guards ++ [⟨session, .captured⟩] }
  | .poll index order => do
      let guard <- state.guards[index]?
      match guard.stage with
      | .captured | .pending =>
          some (state.setGuard index { guard with stage := .polling order.branches })
      | _ => none
  | .pollWork index result => do
      let guard <- state.guards[index]?
      let shared <- state.sessions[guard.session]?
      match guard.stage, result with
      | .polling (.work :: _), some result =>
          some (state.finish index guard shared (.resolved .work result))
      | .polling (.work :: remaining), none =>
          some (state.setGuard index { guard with stage := .next remaining })
      | _, _ => none
  | .pollClosed index => do
      let guard <- state.guards[index]?
      let shared <- state.sessions[guard.session]?
      match guard.stage with
      | .polling (.closed :: remaining) =>
          if shared.channel.waitedFor then
            some (state.finish index guard shared (.resolved .closed (.error closedInFlight)))
          else some (state.setGuard index { guard with stage := .next remaining })
      | _ => none
  | .drop index => do
      let guard <- state.guards[index]?
      let shared <- state.sessions[guard.session]?
      match guard.stage with
      | .captured | .pending => some (state.finish index guard shared .dropped)
      | _ => none
  | .close session => do
      let shared <- state.sessions[session]?
      if shared.handles = 0 then none
      else some (state.setSession session { shared with channel := shared.channel.sendReplace })

def guardMachine (Value : Type) : Machine (Guards Value) (GuardEvent Value) := ⟨guardStep⟩

/-- The future is not being polled, and is not done. -/
def GuardStage.Idle (stage : GuardStage Value) : Prop := stage = .captured ∨ stage = .pending

/-- What an event can do, case by case. -/
inductive GuardSteps (state : Guards Value) : GuardEvent Value -> Guards Value -> Prop
  | session :
      GuardSteps state .session { state with sessions := state.sessions ++ [⟨.fresh, 1⟩] }
  | cloneHandle (session : SessionId) (shared : Shared)
      (found : state.sessions[session]? = some shared) (alive : shared.handles ≠ 0) :
      GuardSteps state (.cloneHandle session)
        (state.setSession session ⟨shared.channel.clone, shared.handles + 1⟩)
  | dropHandle (session : SessionId) (shared : Shared)
      (found : state.sessions[session]? = some shared) (alive : shared.handles ≠ 0) :
      GuardSteps state (.dropHandle session)
        (state.setSession session ⟨shared.channel.drop, shared.handles - 1⟩)
  | ensureOpen (session : SessionId) : GuardSteps state (.ensureOpen session) state
  | closing (session : SessionId) (shared : Shared)
      (found : state.sessions[session]? = some shared) (alive : shared.handles ≠ 0) :
      GuardSteps state (.closing session)
        { state.setSession session { shared with channel := shared.channel.clone } with
          guards := state.guards ++ [⟨session, .captured⟩] }
  | poll (index : Nat) (order : Order) (guard : Guard Value)
      (found : state.guards[index]? = some guard) (idle : guard.stage.Idle) :
      GuardSteps state (.poll index order)
        (state.setGuard index { guard with stage := .polling order.branches })
  | workReady (index : Nat) (result : Except PyErr Value) (guard : Guard Value) (shared : Shared)
      (remaining : List Branch) (found : state.guards[index]? = some guard)
      (foundSession : state.sessions[guard.session]? = some shared)
      (stage : guard.stage = .polling (.work :: remaining)) :
      GuardSteps state (.pollWork index (some result))
        (state.finish index guard shared (.resolved .work result))
  | workPending (index : Nat) (guard : Guard Value) (remaining : List Branch)
      (found : state.guards[index]? = some guard)
      (stage : guard.stage = .polling (.work :: remaining)) :
      GuardSteps state (.pollWork index none)
        (state.setGuard index { guard with stage := .next remaining })
  | closedReady (index : Nat) (guard : Guard Value) (shared : Shared) (remaining : List Branch)
      (found : state.guards[index]? = some guard)
      (foundSession : state.sessions[guard.session]? = some shared)
      (stage : guard.stage = .polling (.closed :: remaining))
      (ready : shared.channel.waitedFor = true) :
      GuardSteps state (.pollClosed index)
        (state.finish index guard shared (.resolved .closed (.error closedInFlight)))
  | closedPending (index : Nat) (guard : Guard Value) (shared : Shared) (remaining : List Branch)
      (found : state.guards[index]? = some guard)
      (foundSession : state.sessions[guard.session]? = some shared)
      (stage : guard.stage = .polling (.closed :: remaining))
      (waiting : ¬ shared.channel.waitedFor = true) :
      GuardSteps state (.pollClosed index)
        (state.setGuard index { guard with stage := .next remaining })
  | drop (index : Nat) (guard : Guard Value) (shared : Shared)
      (found : state.guards[index]? = some guard)
      (foundSession : state.sessions[guard.session]? = some shared) (idle : guard.stage.Idle) :
      GuardSteps state (.drop index) (state.finish index guard shared .dropped)
  | close (session : SessionId) (shared : Shared)
      (found : state.sessions[session]? = some shared) (alive : shared.handles ≠ 0) :
      GuardSteps state (.close session)
        (state.setSession session { shared with channel := shared.channel.sendReplace })

theorem guardStep_steps {state next : Guards Value} {event : GuardEvent Value}
    (stepped : guardStep state event = some next) : GuardSteps state event next := by
  cases event with
  | session =>
      cases stepped
      exact .session
  | cloneHandle session =>
      simp only [guardStep, Option.bind_eq_bind, Option.bind_eq_some_iff] at stepped
      rcases stepped with ⟨shared, found, stepped⟩
      split at stepped
      · cases stepped
      · rename_i alive
        cases stepped
        exact .cloneHandle session shared found alive
  | dropHandle session =>
      simp only [guardStep, Option.bind_eq_bind, Option.bind_eq_some_iff] at stepped
      rcases stepped with ⟨shared, found, stepped⟩
      split at stepped
      · cases stepped
      · rename_i alive
        cases stepped
        exact .dropHandle session shared found alive
  | ensureOpen session =>
      simp only [guardStep, Option.bind_eq_bind, Option.bind_eq_some_iff] at stepped
      rcases stepped with ⟨shared, found, stepped⟩
      split at stepped
      · cases stepped
      · cases stepped
        exact .ensureOpen session
  | closing session =>
      simp only [guardStep, Option.bind_eq_bind, Option.bind_eq_some_iff] at stepped
      rcases stepped with ⟨shared, found, stepped⟩
      split at stepped
      · cases stepped
      · rename_i alive
        cases stepped
        exact .closing session shared found alive
  | poll index order =>
      simp only [guardStep, Option.bind_eq_bind, Option.bind_eq_some_iff] at stepped
      rcases stepped with ⟨guard, found, stepped⟩
      split at stepped
      · rename_i stage
        cases stepped
        exact .poll index order guard found (Or.inl stage)
      · rename_i stage
        cases stepped
        exact .poll index order guard found (Or.inr stage)
      · cases stepped
  | pollWork index result =>
      simp only [guardStep, Option.bind_eq_bind, Option.bind_eq_some_iff] at stepped
      rcases stepped with ⟨guard, found, shared, foundSession, stepped⟩
      split at stepped
      · rename_i remaining result stage
        cases stepped
        exact .workReady index result guard shared remaining found foundSession stage
      · rename_i remaining stage
        cases stepped
        exact .workPending index guard remaining found stage
      · cases stepped
  | pollClosed index =>
      simp only [guardStep, Option.bind_eq_bind, Option.bind_eq_some_iff] at stepped
      rcases stepped with ⟨guard, found, shared, foundSession, stepped⟩
      split at stepped
      · rename_i remaining stage
        split at stepped
        · rename_i ready
          cases stepped
          exact .closedReady index guard shared remaining found foundSession stage ready
        · rename_i waiting
          cases stepped
          exact .closedPending index guard shared remaining found foundSession stage waiting
      · cases stepped
  | drop index =>
      simp only [guardStep, Option.bind_eq_bind, Option.bind_eq_some_iff] at stepped
      rcases stepped with ⟨guard, found, shared, foundSession, stepped⟩
      split at stepped
      · rename_i stage
        cases stepped
        exact .drop index guard shared found foundSession (Or.inl stage)
      · rename_i stage
        cases stepped
        exact .drop index guard shared found foundSession (Or.inr stage)
      · cases stepped
  | close session =>
      simp only [guardStep, Option.bind_eq_bind, Option.bind_eq_some_iff] at stepped
      rcases stepped with ⟨shared, found, stepped⟩
      split at stepped
      · cases stepped
      · rename_i alive
        cases stepped
        exact .close session shared found alive

end Session
end Lkrequest
