import Lkrequest.Foundations.Runs
import Lkrequest.Foundations.Ledger
import Lkrequest.Foundations.Wakeup

namespace Lkrequest
namespace Bridge

open Foundations

/-!
# The in-flight count and the wait for zero

`IN_FLIGHT` is a process-wide counter with a `Notify` beside it.  Every tracked
future holds one `InFlightGuard`; dropping a guard subtracts one and, when the
old value was one, notifies the waiters.  `drain` waits for the count to be
zero.

This module follows both sides at the granularity of single atomic
operations.  A drop is two steps, so another thread may run between the
subtraction and the notification, and an iteration of `drain`'s loop is three:
create the `Notified` future, read the count, and await the notification or
the 100 ms tick.  Any number of drains, drops and registrations are
interleaved by the machine at the end of the first section.
-/

/-- `IN_FLIGHT.count`.  The source has an `AtomicUsize`; an integer shows a
decrement below zero instead of wrapping it, and cannot be exceeded from above
because every unit is a guard that occupies memory. -/
@[ext] structure InFlight where
  count : Int
deriving DecidableEq

namespace InFlight

/-- `fetch_add(1)` of `InFlightGuard::register`. -/
def fetchAdd (tracker : InFlight) : InFlight := ⟨tracker.count + 1⟩

/-- `fetch_sub(1)` of `Drop for InFlightGuard`, with the old value it returns. -/
def fetchSub (tracker : InFlight) : Int × InFlight := (tracker.count, ⟨tracker.count - 1⟩)

end InFlight

namespace Waiting

/-- How far the drop of one registered guard has come. -/
inductive DropStage
  | live
  | notifying
  | dropped
deriving DecidableEq

/-- `if fetch_sub(1) == 1 { notify_waiters() }`: the drop is over unless the old
value was one. -/
def DropStage.subtracted (old : Int) : DropStage := if old = 1 then .notifying else .dropped

/-- One call of `drain`.  `limited` says whether it was given a timeout.  The
stages of `wait` are the points of the loop body: `outside` is the top of the
loop, `enlisted` after `idle.notified()`, `declined` after a read of a nonzero
count, `parked` inside the await, and `left` the returned value. -/
structure Drain where
  limited : Bool
  wait : Waiter
deriving DecidableEq

/-- The steps of one call of `drain`.  `tick` is the 100 ms timeout that taps
the GIL and loops; `expire` is the caller's own timeout. -/
inductive DrainStep
  | create
  | read
  | park
  | wake
  | tick
  | expire

def drainStep (count : Int) (limited : Bool) : DrainStep -> Waiter -> Option Waiter
  | .create, .outside => some (.enlisted false)
  | .read, .enlisted notified => some (if count = 0 then .left true else .declined notified)
  | .park, .declined notified => some (if notified then .outside else .parked false)
  | .wake, .parked true => some .outside
  | .tick, .parked _ => some .outside
  | .expire, .parked _ => if limited then some (.left false) else none
  | _, _ => none

/-- Every guard ever registered and every drain ever called, by index. -/
structure State where
  inFlight : InFlight
  guards : List DropStage
  drains : List Drain

inductive Action
  | register
  | fetchSub (guard : Nat)
  | notifyWaiters (guard : Nat)
  | call (limited : Bool)
  | drain (index : Nat) (action : DrainStep)

def initial : State := ⟨⟨0⟩, [], []⟩

def step (state : State) : Action -> Option State
  | .register =>
      some { state with
        inFlight := state.inFlight.fetchAdd
        guards := state.guards ++ [.live] }
  | .fetchSub guard =>
      match state.guards[guard]? with
      | some .live =>
          let (old, inFlight) := state.inFlight.fetchSub
          some { state with
            inFlight := inFlight
            guards := state.guards.set guard (.subtracted old) }
      | _ => none
  | .notifyWaiters guard =>
      match state.guards[guard]? with
      | some .notifying =>
          some { state with
            guards := state.guards.set guard .dropped
            drains := state.drains.map (fun drain => { drain with wait := drain.wait.notify }) }
      | _ => none
  | .call limited => some { state with drains := state.drains ++ [⟨limited, .outside⟩] }
  | .drain index action => do
      let drain <- state.drains[index]?
      let wait <- drainStep state.inFlight.count drain.limited action drain.wait
      some { state with drains := state.drains.set index { drain with wait := wait } }

def machine : Machine State Action := ⟨step⟩

/-! ## What each step does -/

/-- What a step does, and what it needs. -/
inductive Steps (state : State) : Action -> State -> Prop
  | register :
      Steps state .register { state with
        inFlight := state.inFlight.fetchAdd
        guards := state.guards ++ [.live] }
  | fetchSub {guard : Nat} (live : state.guards[guard]? = some .live) :
      Steps state (.fetchSub guard) { state with
        inFlight := state.inFlight.fetchSub.2
        guards := state.guards.set guard (.subtracted state.inFlight.count) }
  | notifyWaiters {guard : Nat} (owing : state.guards[guard]? = some .notifying) :
      Steps state (.notifyWaiters guard) { state with
        guards := state.guards.set guard .dropped
        drains := state.drains.map (fun drain => { drain with wait := drain.wait.notify }) }
  | call {limited : Bool} :
      Steps state (.call limited) { state with drains := state.drains ++ [⟨limited, .outside⟩] }
  | drain {index : Nat} {action : DrainStep} {drain : Drain} {wait : Waiter}
      (found : state.drains[index]? = some drain)
      (moved : drainStep state.inFlight.count drain.limited action drain.wait = some wait) :
      Steps state (.drain index action) { state with
        drains := state.drains.set index { drain with wait := wait } }

theorem step_steps {state next : State} {action : Action} (stepped : step state action = some next) :
    Steps state action next := by
  cases action with
  | register =>
      cases stepped
      exact .register
  | fetchSub guard =>
      simp only [step] at stepped
      split at stepped
      · rename_i live
        cases stepped
        exact .fetchSub live
      · cases stepped
  | notifyWaiters guard =>
      simp only [step] at stepped
      split at stepped
      · rename_i owing
        cases stepped
        exact .notifyWaiters owing
      · cases stepped
  | call limited =>
      cases stepped
      exact .call
  | drain index action =>
      simp only [step, Option.bind_eq_bind, Option.bind_eq_some_iff] at stepped
      rcases stepped with ⟨drain, found, wait, moved, same⟩
      cases same
      exact .drain found moved

/-- A drain's own step is a move of the general protocol: it parks only after
having looked at the count while enlisted. -/
theorem drainStep_moves {count : Int} {limited : Bool} {action : DrainStep} {before after : Waiter}
    (stepped : drainStep count limited action before = some after) :
    Waiter.Moves (count = 0) before after := by
  cases action with
  | create =>
      cases before with
      | outside =>
          cases stepped
          exact .enlist
      | _ => cases stepped
  | read =>
      cases before with
      | enlisted notified =>
          by_cases zero : count = 0
          · rw [drainStep, if_pos zero] at stepped
            cases stepped
            exact .satisfied notified zero
          · rw [drainStep, if_neg zero] at stepped
            cases stepped
            exact .decline notified zero
      | _ => cases stepped
  | park =>
      cases before with
      | declined notified =>
          cases notified <;> cases stepped
          · exact .park
          · exact .pass
      | _ => cases stepped
  | wake =>
      cases before with
      | parked notified =>
          cases notified <;> cases stepped
          exact .resume true
      | _ => cases stepped
  | tick =>
      cases before with
      | parked notified =>
          cases stepped
          exact .resume notified
      | _ => cases stepped
  | expire =>
      cases before with
      | parked notified =>
          cases limited <;> cases stepped
          exact .abandon notified
      | _ => cases stepped

/-- Only the read of a zero count makes a drain return true. -/
theorem drainStep_satisfied {count : Int} {limited : Bool} {action : DrainStep} {before : Waiter}
    (stepped : drainStep count limited action before = some (.left true)) : action = .read := by
  cases action with
  | read => rfl
  | create => cases before <;> cases stepped
  | park =>
      cases before with
      | declined notified => cases notified <;> cases stepped
      | _ => cases stepped
  | wake =>
      cases before with
      | parked notified => cases notified <;> cases stepped
      | _ => cases stepped
  | tick => cases before <;> cases stepped
  | expire =>
      cases before with
      | parked notified => cases limited <;> cases stepped
      | _ => cases stepped

/-- Some releaser made the 1-to-0 decrement and has yet to notify. -/
def Owed (state : State) : Prop := ∃ guard : Nat, state.guards[guard]? = some DropStage.notifying

def DropStage.units : DropStage -> Nat
  | .live => 1
  | _ => 0

theorem units_subtracted (old : Int) : (DropStage.subtracted old).units = 0 := by
  unfold DropStage.subtracted
  split <;> rfl

/-- The counter is the number of guards whose drop has not begun. -/
def Counted (state : State) : Prop :=
  state.inFlight.count = ((state.guards.map DropStage.units).sum : Nat)

/-- Nobody sleeps through a zero count without a notification coming. -/
def Safe (state : State) : Prop :=
  NoLostWakeup (state.inFlight.count = 0) (Owed state) (state.drains.map Drain.wait)

private theorem units_set {guards : List DropStage} {guard : Nat} {old : DropStage}
    (found : guards[guard]? = some old) (new : DropStage) :
    ((guards.set guard new).map DropStage.units).sum + old.units =
      (guards.map DropStage.units).sum + new.units :=
  sum_map_set DropStage.units found new

theorem counted_step {state next : State} {action : Action} (counted : Counted state)
    (stepped : step state action = some next) : Counted next := by
  unfold Counted at counted ⊢
  cases step_steps stepped with
  | register => simp [InFlight.fetchAdd, counted, DropStage.units]
  | fetchSub live =>
      have balance := units_set live (.subtracted state.inFlight.count)
      have held : DropStage.units .live = 1 := rfl
      rw [units_subtracted, held] at balance
      simp only [InFlight.fetchSub]
      omega
  | @notifyWaiters guard owing =>
      have balance := units_set owing DropStage.dropped
      have same : ((state.guards.set guard .dropped).map DropStage.units).sum =
          (state.guards.map DropStage.units).sum := balance
      simp only [same]
      exact counted
  | call | drain => exact counted

theorem safe_step {state next : State} {action : Action} (counted : Counted state)
    (safe : Safe state) (stepped : step state action = some next) : Safe next := by
  unfold Safe at safe ⊢
  cases step_steps stepped with
  | register =>
      refine safe.change (fun zero => ?_)
      -- A registration leaves a positive count, since the count was not negative.
      have positive : state.inFlight.count + 1 = 0 := zero
      unfold Counted at counted
      omega
  | @fetchSub guard live =>
      refine safe.change (fun zero => Or.inr ?_)
      have last : state.inFlight.count = 1 := by
        have after : state.inFlight.count - 1 = 0 := zero
        omega
      refine ⟨guard, ?_⟩
      have bound : guard < state.guards.length := (List.getElem?_eq_some_iff.mp live).1
      simp only [last]
      exact List.getElem?_set_self bound
  | notifyWaiters owing =>
      simp only [List.map_map]
      have notified : (Drain.wait ∘ fun drain : Drain => { drain with wait := drain.wait.notify }) =
          Waiter.notify ∘ Drain.wait := rfl
      rw [notified, ← List.map_map]
      exact NoLostWakeup.broadcast
  | call =>
      simp only [List.map_append, List.map_cons, List.map_nil]
      exact safe.join
  | @drain index action drain wait found moved =>
      rw [List.map_set]
      have waiting : (state.drains.map Drain.wait)[index]? = some drain.wait := by
        rw [List.getElem?_map, found]
        rfl
      exact safe.move waiting (drainStep_moves moved)

theorem run_safe {labels : List Action} {state : State}
    (ran : machine.run initial labels = some state) : Counted state ∧ Safe state := by
  have start : Counted initial ∧ Safe initial := by
    refine ⟨rfl, ?_⟩
    rintro _ ⟨waiter, member, _⟩
    cases member
  exact machine.run_invariant (fun state => Counted state ∧ Safe state)
    (fun state action next holds stepped =>
      ⟨counted_step holds.1 stepped, safe_step holds.1 holds.2 stepped⟩) start ran

/-! ## The drains of every interleaving -/

/-- The drain at this index has returned true. -/
def Returned (index : Nat) (state : State) : Prop :=
  ∃ drain, state.drains[index]? = some drain ∧ drain.wait = .left true

/-- A drain starts to have returned true in one kind of step, its own read,
and the count is zero there. -/
theorem returned_step {state next : State} {action : Action} {index : Nat}
    (pending : ¬ Returned index state) (returned : Returned index next)
    (stepped : step state action = some next) :
    action = .drain index .read ∧ state.inFlight.count = 0 := by
  rcases returned with ⟨drain, found, done⟩
  cases step_steps stepped with
  | register | fetchSub => exact absurd ⟨drain, found, done⟩ pending
  | notifyWaiters owing =>
      simp only [List.getElem?_map, Option.map_eq_some_iff] at found
      rcases found with ⟨old, found, same⟩
      refine absurd ⟨old, found, ?_⟩ pending
      subst same
      cases phase : old.wait <;> simp only [phase, Waiter.notify] at done <;> cases done
      rfl
  | call =>
      by_cases old : index < state.drains.length
      · rw [List.getElem?_append_left old] at found
        exact absurd ⟨drain, found, done⟩ pending
      · rw [List.getElem?_append_right (Nat.le_of_not_lt old)] at found
        rw [List.mem_singleton.mp (List.mem_of_getElem? found)] at done
        cases done
  | @drain other action old wait foundOld moved =>
      by_cases here : other = index
      · subst here
        have bound := (List.getElem?_eq_some_iff.mp foundOld).1
        rw [List.getElem?_set_self bound] at found
        cases found
        cases done
        exact ⟨by rw [drainStep_satisfied moved], (drainStep_moves moved).satisfied_quiet⟩
      · rw [List.getElem?_set_ne here] at found
        exact absurd ⟨drain, found, done⟩ pending

/-- No wake-up is lost.  In every state of every interleaving, a drain parked
on a `Notified` that has not been notified while the count is zero has a
releaser with its `notify_waiters` still to come; so once no notification is
pending in an idle state every parked drain can wake without the tick; and a
drain that returned true read the count at zero itself. -/
theorem drain_wakeup_not_lost {labels : List Action} {state : State}
    (ran : machine.run initial labels = some state) :
    (forall (index : Nat) drain, state.drains[index]? = some drain -> drain.wait = .parked false ->
      state.inFlight.count = 0 ->
        ∃ guard : Nat, state.guards[guard]? = some DropStage.notifying) ∧
    (state.inFlight.count = 0 -> (forall guard : Nat, state.guards[guard]? ≠ some DropStage.notifying) ->
      forall (index : Nat) drain notified, state.drains[index]? = some drain ->
        drain.wait = .parked notified -> (step state (.drain index .wake)).isSome) ∧
    (forall (index : Nat) drain, state.drains[index]? = some drain -> drain.wait = .left true ->
      ∃ early late middle, labels = early ++ .drain index .read :: late ∧
        machine.run initial early = some middle ∧ middle.inFlight.count = 0) := by
  have safe := (run_safe ran).2
  have accounted : forall (index : Nat) drain, state.drains[index]? = some drain ->
      drain.wait = .parked false -> state.inFlight.count = 0 -> Owed state := by
    intro index drain found parked zero
    exact safe zero ⟨drain.wait, List.mem_map_of_mem (List.mem_of_getElem? found), Or.inr parked⟩
  refine ⟨accounted, ?_, ?_⟩
  · intro zero settled index drain notified found parked
    cases notified with
    | false =>
        rcases accounted index drain found parked zero with ⟨guard, pending⟩
        exact absurd pending (settled guard)
    | true => simp [step, found, parked, drainStep]
  · intro index drain found done
    rcases machine.run_turning_point (Returned index) (by rintro ⟨_, impossible, _⟩; cases impossible)
      ⟨drain, found, done⟩ ran with ⟨early, action, late, middle, next, split, reached, stepped,
        pending, returned, _⟩
    rcases returned_step pending returned stepped with ⟨read, zero⟩
    exact ⟨early, late, middle, read ▸ split, reached, zero⟩

/-- One guard, one drain: the drain parks, the guard is dropped in two steps,
and the drain wakes and reads zero. -/
def parkedOnce : List Action :=
  [.register, .call false, .drain 0 .create, .drain 0 .read, .drain 0 .park, .fetchSub 0,
    .notifyWaiters 0, .drain 0 .wake, .drain 0 .create, .drain 0 .read]

theorem drain_wakeup_not_lost_once :
    ∃ early late middle, parkedOnce = early ++ Action.drain 0 .read :: late ∧
      machine.run initial early = some middle ∧ middle.inFlight.count = 0 := by
  have ran : machine.run initial parkedOnce = some ⟨⟨0⟩, [.dropped], [⟨false, .left true⟩]⟩ := rfl
  exact (drain_wakeup_not_lost ran).2.2 0 ⟨false, .left true⟩ rfl rfl

end Waiting
end Bridge
end Lkrequest
