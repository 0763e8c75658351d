import Lkrequest.Bridge.Drain
import Lkrequest.Foundations.Progress

namespace Lkrequest
namespace Bridge
namespace Backstop

open Foundations
open Waiting (DropStage Drain DrainStep Counted)

/-!
# The backstop of `drain`

A future that is cancelled between the completion of its wrapper and
`set_result` leaves its guard in the proxy, and the proxy may be dropped by a
thread without the GIL.  Its decrement then waits in a list of pyo3's, and
whoever takes the GIL next takes that list out and frees what is in it before
doing anything else.

The machine below adds that list and the GIL to the machine of the drains.
Between two calls into Python nobody has to take the GIL, so the only party that
takes it of its own accord is a drain whose 100 ms are over.
-/

/-- Who has the GIL. -/
inductive Holder
  | drain (index : Nat)
  | thread
deriving DecidableEq

/-- `deferred` are the guards of the proxies that wait for a decrement, and
`freeing` those that the holder of the GIL has taken out, in their order. -/
@[ext] structure State where
  waiting : Waiting.State
  deferred : List Nat
  freeing : List Nat
  gil : Option Holder

inductive Action
  | register
  | call (limited : Bool)
  | drain (index : Nat) (action : DrainStep)
  | fetchSub (guard : Nat)
  | notifyWaiters (guard : Nat)
  | strand (guard : Nat)
  | take
  | tap (index : Nat)
  | free
  | release

def initial : State := ⟨Waiting.initial, [], [], none⟩

namespace State

def listed (state : State) : List Nat := state.deferred ++ state.freeing

/-- A step of the machine of the drains. -/
def advance (state : State) (action : Waiting.Action) : Option State :=
  (Waiting.step state.waiting action).map (fun waiting => ⟨waiting, state.deferred, state.freeing, state.gil⟩)

/-- Taking the GIL takes out the list. -/
def acquire (state : State) (holder : Holder) : Option State :=
  if state.gil = none then some ⟨state.waiting, [], state.deferred, some holder⟩ else none

end State

/-- A drain that taps the GIL is inside `Python::with_gil`, so it neither wakes
nor expires there, and it goes on at the top of its loop. -/
def step (state : State) : Action -> Option State
  | .register => state.advance .register
  | .call limited => state.advance (.call limited)
  | .drain _ .tick => none
  | .drain index action =>
      if state.gil = some (.drain index) then none else state.advance (.drain index action)
  | .fetchSub guard => if guard ∈ state.listed then none else state.advance (.fetchSub guard)
  | .notifyWaiters guard => if guard ∈ state.listed then none else state.advance (.notifyWaiters guard)
  | .strand guard =>
      if guard ∈ state.listed ∨ state.waiting.guards[guard]? ≠ some .live then none
      else some ⟨state.waiting, state.deferred ++ [guard], state.freeing, state.gil⟩
  | .take => state.acquire .thread
  | .tap index =>
      match state.waiting.drains[index]? with
      | some ⟨_, .parked _⟩ => state.acquire (.drain index)
      | _ => none
  | .free =>
      match state.freeing with
      | [] => none
      | guard :: rest =>
          match state.waiting.guards[guard]? with
          | some .live => state.advance (.fetchSub guard)
          | some .notifying => state.advance (.notifyWaiters guard)
          | some .dropped => some ⟨state.waiting, state.deferred, rest, state.gil⟩
          | none => none
  | .release =>
      match state.freeing, state.gil with
      | [], some .thread => some ⟨state.waiting, state.deferred, [], none⟩
      | [], some (.drain index) =>
          State.advance ⟨state.waiting, state.deferred, [], none⟩ (.drain index .tick)
      | _, _ => none

def machine : Machine State Action := ⟨step⟩

/-! ## What each step does -/

/-- Either one step of the drains' machine, or a change of the list and the GIL. -/
inductive Steps (state : State) : Action -> State -> Prop
  | register {waiting : Waiting.State} (moved : Waiting.step state.waiting .register = some waiting) :
      Steps state .register ⟨waiting, state.deferred, state.freeing, state.gil⟩
  | call {limited : Bool} {waiting : Waiting.State}
      (moved : Waiting.step state.waiting (.call limited) = some waiting) :
      Steps state (.call limited) ⟨waiting, state.deferred, state.freeing, state.gil⟩
  | drain {index : Nat} {action : DrainStep} {waiting : Waiting.State} (early : action ≠ .tick)
      (outside : state.gil ≠ some (.drain index))
      (moved : Waiting.step state.waiting (.drain index action) = some waiting) :
      Steps state (.drain index action) ⟨waiting, state.deferred, state.freeing, state.gil⟩
  | fetchSub {guard : Nat} {waiting : Waiting.State} (unlisted : guard ∉ state.listed)
      (moved : Waiting.step state.waiting (.fetchSub guard) = some waiting) :
      Steps state (.fetchSub guard) ⟨waiting, state.deferred, state.freeing, state.gil⟩
  | notifyWaiters {guard : Nat} {waiting : Waiting.State} (unlisted : guard ∉ state.listed)
      (moved : Waiting.step state.waiting (.notifyWaiters guard) = some waiting) :
      Steps state (.notifyWaiters guard) ⟨waiting, state.deferred, state.freeing, state.gil⟩
  | strand {guard : Nat} (unlisted : guard ∉ state.listed)
      (live : state.waiting.guards[guard]? = some .live) :
      Steps state (.strand guard) ⟨state.waiting, state.deferred ++ [guard], state.freeing, state.gil⟩
  | take (idle : state.gil = none) :
      Steps state .take ⟨state.waiting, [], state.deferred, some .thread⟩
  | tap {index : Nat} {limited notified : Bool} (idle : state.gil = none)
      (parked : state.waiting.drains[index]? = some ⟨limited, .parked notified⟩) :
      Steps state (.tap index) ⟨state.waiting, [], state.deferred, some (.drain index)⟩
  | subtract {guard : Nat} {rest : List Nat} {waiting : Waiting.State} (first : state.freeing = guard :: rest)
      (moved : Waiting.step state.waiting (.fetchSub guard) = some waiting) :
      Steps state .free ⟨waiting, state.deferred, state.freeing, state.gil⟩
  | notify {guard : Nat} {rest : List Nat} {waiting : Waiting.State} (first : state.freeing = guard :: rest)
      (moved : Waiting.step state.waiting (.notifyWaiters guard) = some waiting) :
      Steps state .free ⟨waiting, state.deferred, state.freeing, state.gil⟩
  | freed {guard : Nat} {rest : List Nat} (first : state.freeing = guard :: rest)
      (dropped : state.waiting.guards[guard]? = some .dropped) :
      Steps state .free ⟨state.waiting, state.deferred, rest, state.gil⟩
  | leave (done : state.freeing = []) (held : state.gil = some .thread) :
      Steps state .release ⟨state.waiting, state.deferred, [], none⟩
  | goOn {index : Nat} {waiting : Waiting.State} (done : state.freeing = [])
      (held : state.gil = some (.drain index))
      (moved : Waiting.step state.waiting (.drain index .tick) = some waiting) :
      Steps state .release ⟨waiting, state.deferred, [], none⟩

section Steps

variable {state next : State} {action : Action}

theorem advance_eq_some {waited : Waiting.Action} (advanced : state.advance waited = some next) :
    ∃ waiting, Waiting.step state.waiting waited = some waiting ∧
      next = ⟨waiting, state.deferred, state.freeing, state.gil⟩ := by
  rcases Option.map_eq_some_iff.mp advanced with ⟨waiting, moved, same⟩
  exact ⟨waiting, moved, same.symm⟩

theorem acquire_eq_some {holder : Holder} (acquired : state.acquire holder = some next) :
    state.gil = none ∧ next = ⟨state.waiting, [], state.deferred, some holder⟩ := by
  unfold State.acquire at acquired
  split at acquired
  · rename_i idle
    exact ⟨idle, (Option.some.inj acquired).symm⟩
  · cases acquired

theorem step_steps (stepped : step state action = some next) : Steps state action next := by
  cases action with
  | register =>
      rcases advance_eq_some stepped with ⟨waiting, moved, rfl⟩
      exact .register moved
  | call limited =>
      rcases advance_eq_some stepped with ⟨waiting, moved, rfl⟩
      exact .call moved
  | drain index action =>
      by_cases tick : action = .tick
      · subst tick
        cases stepped
      · rw [step] at stepped
        · split at stepped
          · cases stepped
          · rename_i outside
            rcases advance_eq_some stepped with ⟨waiting, moved, rfl⟩
            exact .drain tick outside moved
        · exact tick
  | fetchSub guard =>
      rw [step] at stepped
      split at stepped
      · cases stepped
      · rename_i unlisted
        rcases advance_eq_some stepped with ⟨waiting, moved, rfl⟩
        exact .fetchSub unlisted moved
  | notifyWaiters guard =>
      rw [step] at stepped
      split at stepped
      · cases stepped
      · rename_i unlisted
        rcases advance_eq_some stepped with ⟨waiting, moved, rfl⟩
        exact .notifyWaiters unlisted moved
  | strand guard =>
      rw [step] at stepped
      split at stepped
      · cases stepped
      · rename_i allowed
        cases stepped
        rw [not_or, not_ne_iff] at allowed
        exact .strand allowed.1 allowed.2
  | take =>
      rcases acquire_eq_some stepped with ⟨idle, rfl⟩
      exact .take idle
  | tap index =>
      rw [step] at stepped
      split at stepped
      · rename_i parked
        rcases acquire_eq_some stepped with ⟨idle, rfl⟩
        exact .tap idle parked
      · cases stepped
  | free =>
      rw [step] at stepped
      split at stepped
      · cases stepped
      · rename_i guard rest first
        split at stepped
        · rcases advance_eq_some stepped with ⟨waiting, moved, rfl⟩
          exact .subtract first moved
        · rcases advance_eq_some stepped with ⟨waiting, moved, rfl⟩
          exact .notify first moved
        · rename_i dropped
          cases stepped
          exact .freed first dropped
        · cases stepped
  | release =>
      rw [step] at stepped
      split at stepped
      · rename_i done held
        cases stepped
        exact .leave done held
      · rename_i index done held
        rcases advance_eq_some stepped with ⟨waiting, moved, rfl⟩
        exact .goOn done held moved
      · cases stepped

/-- The drains and the guards see nothing but steps of their own machine. -/
theorem Steps.advances (steps : Steps state action next) :
    next.waiting = state.waiting ∨ ∃ waited, Waiting.step state.waiting waited = some next.waiting ∧
      (waited = .register -> action = .register) ∧
      forall index turn, waited = .drain index turn -> turn = .tick ∨ action = .drain index turn := by
  cases steps with
  | strand | take | tap | freed | leave => exact Or.inl rfl
  | register moved => exact Or.inr ⟨_, moved, fun _ => rfl, fun _ _ => nofun⟩
  | call moved | fetchSub _ moved | notifyWaiters _ moved | subtract _ moved | notify _ moved =>
      exact Or.inr ⟨_, moved, nofun, fun _ _ => nofun⟩
  | drain early outside moved =>
      refine Or.inr ⟨_, moved, nofun, ?_⟩
      rintro index turn ⟨rfl, rfl⟩
      exact Or.inr rfl
  | goOn done held moved =>
      refine Or.inr ⟨_, moved, nofun, ?_⟩
      rintro index turn ⟨rfl, rfl⟩
      exact Or.inl rfl

end Steps

/-! ## The lists and the GIL -/

/-- A listed guard has not been dropped, or its drop is the holder's doing. -/
structure Wf (state : State) : Prop where
  counted : Counted state.waiting
  stranded : ∀ guard ∈ state.deferred, state.waiting.guards[guard]? = some .live
  known : ∀ guard ∈ state.freeing, guard < state.waiting.guards.length
  apart : ∀ guard ∈ state.deferred, guard ∉ state.freeing
  idle : state.gil = none -> state.freeing = []
  tapping : forall index, state.gil = some (.drain index) ->
    ∃ limited notified, state.waiting.drains[index]? = some ⟨limited, .parked notified⟩

/-- What a step of the drains' machine leaves alone, for the guards and the
drains that it is not about. -/
structure Beside (waited : Waiting.Action) (before after : Waiting.State) : Prop where
  guards : before.guards.length <= after.guards.length
  live : forall guard : Nat, waited ≠ .fetchSub guard -> before.guards[guard]? = some .live ->
    after.guards[guard]? = some .live
  parked : forall (index : Nat) limited, (forall action, waited ≠ .drain index action) ->
    (∃ notified, before.drains[index]? = some ⟨limited, .parked notified⟩) ->
      ∃ notified, after.drains[index]? = some ⟨limited, .parked notified⟩

theorem beside {waited : Waiting.Action} {before after : Waiting.State}
    (moved : Waiting.step before waited = some after) : Beside waited before after := by
  cases Waiting.step_steps moved with
  | register =>
      refine ⟨by simp, ?_, fun _ _ _ parked => parked⟩
      intro guard _ live
      exact (List.getElem?_append_left (List.getElem?_eq_some_iff.mp live).1).trans live
  | @fetchSub other owing =>
      refine ⟨by simp, ?_, fun _ _ _ parked => parked⟩
      intro guard different live
      have apart : other ≠ guard := fun same => different (same ▸ rfl)
      exact (List.getElem?_set_ne apart).trans live
  | @notifyWaiters other owing =>
      refine ⟨by simp, ?_, ?_⟩
      · intro guard _ live
        have apart : other ≠ guard := by
          rintro rfl
          cases owing.symm.trans live
        exact (List.getElem?_set_ne apart).trans live
      · rintro index limited _ ⟨notified, parked⟩
        refine ⟨true, ?_⟩
        change (List.map _ _)[index]? = _
        rw [List.getElem?_map, parked]
        rfl
  | call =>
      refine ⟨Nat.le_refl _, fun _ _ live => live, ?_⟩
      rintro index limited _ ⟨notified, parked⟩
      exact ⟨notified, (List.getElem?_append_left (List.getElem?_eq_some_iff.mp parked).1).trans parked⟩
  | @drain other action drain wait found moved =>
      refine ⟨Nat.le_refl _, fun _ _ live => live, ?_⟩
      rintro index limited different ⟨notified, parked⟩
      have apart : other ≠ index := fun same => different action (same ▸ rfl)
      exact ⟨notified, (List.getElem?_set_ne apart).trans parked⟩

section Invariant

variable {state next : State} {action : Action}

/-- A step of the drains' machine keeps the invariant, when it neither drops a
deferred guard nor moves the drain that has the GIL. -/
theorem Wf.advance (wf : Wf state) {waited : Waiting.Action} {waiting : Waiting.State}
    (moved : Waiting.step state.waiting waited = some waiting)
    (spares : ∀ guard ∈ state.deferred, waited ≠ .fetchSub guard)
    (waits : forall index action, state.gil = some (.drain index) -> waited ≠ .drain index action) :
    Wf ⟨waiting, state.deferred, state.freeing, state.gil⟩ := by
  have kept := beside moved
  refine ⟨Waiting.counted_step wf.counted moved, ?_, ?_, wf.apart, wf.idle, ?_⟩
  · intro guard among
    exact kept.live guard (spares guard among) (wf.stranded guard among)
  · intro guard among
    exact Nat.lt_of_lt_of_le (wf.known guard among) kept.guards
  · intro index held
    rcases wf.tapping index held with ⟨limited, parked⟩
    exact ⟨limited, kept.parked index limited (fun action => waits index action held) parked⟩

theorem Wf.acquire (wf : Wf state) {holder : Holder}
    (parked : forall index, holder = .drain index ->
      ∃ limited notified, state.waiting.drains[index]? = some ⟨limited, .parked notified⟩) :
    Wf ⟨state.waiting, [], state.deferred, some holder⟩ := by
  refine ⟨wf.counted, ?_, ?_, ?_, ?_, ?_⟩
  · intro guard among
    cases among
  · intro guard among
    exact (List.getElem?_eq_some_iff.mp (wf.stranded guard among)).1
  · intro guard among
    cases among
  · intro idle
    cases idle
  · intro index held
    exact parked index (Option.some.inj held)

theorem Wf.step (wf : Wf state) (steps : Steps state action next) : Wf next := by
  have unlisted_spares : forall {guard}, guard ∉ state.listed -> forall other, other ∈ state.deferred ->
      Waiting.Action.fetchSub guard ≠ .fetchSub other := by
    rintro guard unlisted other among ⟨rfl⟩
    exact unlisted (List.mem_append_left _ among)
  cases steps with
  | register moved => exact wf.advance moved (fun _ _ => nofun) (fun _ _ _ => nofun)
  | call moved => exact wf.advance moved (fun _ _ => nofun) (fun _ _ _ => nofun)
  | drain early outside moved =>
      refine wf.advance moved (fun _ _ => nofun) ?_
      rintro index action held ⟨rfl, rfl⟩
      exact outside held
  | fetchSub unlisted moved => exact wf.advance moved (unlisted_spares unlisted) (fun _ _ _ => nofun)
  | notifyWaiters unlisted moved => exact wf.advance moved (fun _ _ => nofun) (fun _ _ _ => nofun)
  | @strand guard unlisted live =>
      refine ⟨wf.counted, ?_, wf.known, ?_, wf.idle, wf.tapping⟩
      · intro other among
        rcases List.mem_append.mp among with old | new
        · exact wf.stranded other old
        · rw [List.mem_singleton.mp new]
          exact live
      · intro other among
        rcases List.mem_append.mp among with old | new
        · exact wf.apart other old
        · rw [List.mem_singleton.mp new]
          exact fun held => unlisted (List.mem_append_right _ held)
  | take idle => exact wf.acquire (fun _ => nofun)
  | @tap index limited notified idle parked =>
      refine wf.acquire ?_
      rintro other ⟨rfl⟩
      exact ⟨limited, notified, parked⟩
  | @subtract guard rest waiting first moved =>
      refine wf.advance moved ?_ (fun _ _ _ => nofun)
      rintro other among ⟨rfl⟩
      exact wf.apart guard among (first ▸ List.mem_cons_self)
  | notify first moved => exact wf.advance moved (fun _ _ => nofun) (fun _ _ _ => nofun)
  | @freed guard rest first dropped =>
      refine ⟨wf.counted, wf.stranded, ?_, ?_, ?_, wf.tapping⟩
      · intro other among
        exact wf.known other (first ▸ List.mem_cons_of_mem guard among)
      · intro other among held
        exact wf.apart other among (first ▸ List.mem_cons_of_mem guard held)
      · intro idle
        cases first.symm.trans (wf.idle idle)
  | leave done held =>
      refine ⟨wf.counted, wf.stranded, ?_, fun _ _ => nofun, fun _ => rfl, fun _ => nofun⟩
      intro other among
      cases among
  | goOn done held moved =>
      have kept := beside moved
      refine ⟨Waiting.counted_step wf.counted moved, ?_, ?_, fun _ _ => nofun, fun _ => rfl, fun _ => nofun⟩
      · intro guard among
        exact kept.live guard nofun (wf.stranded guard among)
      · intro other among
        cases among

theorem wf_initial : Wf initial where
  counted := rfl
  stranded := by
    intro guard among
    cases among
  known := by
    intro guard among
    cases among
  apart := by
    intro guard among
    cases among
  idle := fun _ => rfl
  tapping := by
    intro index held
    cases held

theorem run_wf {past : List Action} (ran : machine.run initial past = some state) : Wf state :=
  machine.run_invariant Wf (fun _ _ _ wf stepped => wf.step (step_steps stepped)) wf_initial ran

end Invariant

/-! ## Work and turns -/

namespace State

/-- Every tracked future has ended: what is left of the count was stranded. -/
def Ended (state : State) : Prop :=
  forall guard : Nat, state.waiting.guards[guard]? = some .live -> guard ∈ state.listed

end State

/-- Everything but a new future, a new drain, and a thread that takes the GIL. -/
def Action.isOwn : Action -> Bool
  | .register => false
  | .call _ => false
  | .take => false
  | _ => true

def dropsLeft : DropStage -> Nat
  | .live => 2
  | .notifying => 1
  | .dropped => 0

/-- The turns that a drain has before it, at most, until the next piece of work:
with a count of zero it leaves, otherwise it parks and waits for the tick. -/
def turnsLeft (zero : Bool) : Waiter -> Nat
  | .outside => 6
  | .enlisted true => 10
  | .enlisted false => 5
  | .declined true => 9
  | .declined false => if zero then 9 else 4
  | .parked true => 8
  | .parked false => if zero then 8 else 3
  | .left _ => 0

/-- Tapping the GIL is worth a turn when the count is zero; otherwise the drain
has to get back from it to the top of its loop. -/
def tapsLeft (zero : Bool) : Option Holder -> Nat
  | none => if zero then 1 else 0
  | some .thread => 2
  | some (.drain _) => if zero then 0 else 5

theorem turnsLeft_le (zero : Bool) (wait : Waiter) : turnsLeft zero wait <= 10 := by
  cases wait with
  | outside => exact Nat.le_add_left 6 4
  | enlisted notified => cases notified <;> simp [turnsLeft]
  | declined notified => cases notified <;> cases zero <;> simp [turnsLeft]
  | parked notified => cases notified <;> cases zero <;> simp [turnsLeft]
  | left satisfied => exact Nat.zero_le 10

theorem tapsLeft_le (zero : Bool) (gil : Option Holder) : tapsLeft zero gil <= 5 := by
  rcases gil with _ | ⟨index⟩ | _ <;> cases zero <;> simp [tapsLeft]

theorem tapsLeft_none (zero : Bool) : tapsLeft zero none <= 1 := by
  cases zero <;> simp [tapsLeft]

namespace State

def work (state : State) : Nat :=
  4 * state.deferred.length + 3 * state.freeing.length + (state.waiting.guards.map dropsLeft).sum

def idle (state : State) : Bool := decide (state.waiting.inFlight.count = 0)

def turns (state : State) : Nat :=
  (state.waiting.drains.map (fun drain => turnsLeft state.idle drain.wait)).sum + tapsLeft state.idle state.gil

def stepsLeft (state : State) : Nat :=
  (10 * state.waiting.drains.length + 5 + 1) * state.work + state.turns

theorem turns_le (state : State) : state.turns <= 10 * state.waiting.drains.length + 5 := by
  have drains : (state.waiting.drains.map (fun drain => turnsLeft state.idle drain.wait)).sum <=
      10 * state.waiting.drains.length := by
    exact sum_le_of_shares _ (fun drain _ => turnsLeft_le state.idle drain.wait)
  have taps := tapsLeft_le state.idle state.gil
  unfold turns
  omega

end State

theorem drainStep_turns {count : Int} {limited : Bool} {action : DrainStep} {before after : Waiter}
    (moved : Waiting.drainStep count limited action before = some after) (early : action ≠ .tick) :
    turnsLeft (decide (count = 0)) after < turnsLeft (decide (count = 0)) before := by
  cases action with
  | tick => exact absurd rfl early
  | create =>
      cases before with
      | outside =>
          cases moved
          exact Nat.lt_succ_self 5
      | _ => cases moved
  | read =>
      cases before with
      | enlisted notified =>
          by_cases zero : count = 0
          · rw [Waiting.drainStep, if_pos zero] at moved
            cases moved
            cases notified <;> exact Nat.succ_pos _
          · rw [Waiting.drainStep, if_neg zero] at moved
            cases moved
            cases notified
            · simp [turnsLeft, zero]
            · exact Nat.lt_succ_self 9
      | _ => cases moved
  | park =>
      cases before with
      | declined notified =>
          cases notified <;> cases moved
          · cases decide (count = 0) <;> simp [turnsLeft]
          · simp [turnsLeft]
      | _ => cases moved
  | wake =>
      cases before with
      | parked notified =>
          cases notified <;> cases moved
          simp [turnsLeft]
      | _ => cases moved
  | expire =>
      cases before with
      | parked notified =>
          cases limited <;> cases moved
          cases notified
          · cases decide (count = 0) <;> exact Nat.succ_pos _
          · exact Nat.succ_pos _
      | _ => cases moved

theorem exists_live {waiting : Waiting.State} (counted : Counted waiting) (busy : waiting.inFlight.count ≠ 0) :
    ∃ guard : Nat, waiting.guards[guard]? = some DropStage.live := by
  by_contra none
  have empty : (waiting.guards.map DropStage.units).sum = 0 := by
    refine List.sum_eq_zero ?_
    intro units among
    rcases List.mem_map.mp among with ⟨stage, member, rfl⟩
    cases stage with
    | live => exact absurd (List.getElem?_of_mem member) none
    | notifying => rfl
    | dropped => rfl
  unfold Counted at counted
  rw [empty] at counted
  exact busy counted

theorem count_pos {waiting : Waiting.State} (counted : Counted waiting) {guard : Nat}
    (live : waiting.guards[guard]? = some .live) : 0 < waiting.inFlight.count := by
  have share := sum_map_set DropStage.units live .dropped
  have unit : DropStage.units .live = 1 := rfl
  have nothing : DropStage.units .dropped = 0 := rfl
  unfold Counted at counted
  omega

/-- Some drop comes nearer to its end, and no drain leaves the table. -/
structure Nearer (before after : Waiting.State) : Prop where
  guards : (after.guards.map dropsLeft).sum < (before.guards.map dropsLeft).sum
  drains : after.drains.length = before.drains.length

theorem fetchSub_nearer {before after : Waiting.State} {guard : Nat}
    (moved : Waiting.step before (.fetchSub guard) = some after) : Nearer before after := by
  cases Waiting.step_steps moved with
  | fetchSub live =>
      have share := sum_map_set dropsLeft live (.subtracted before.inFlight.count)
      have left : dropsLeft (.subtracted before.inFlight.count) <= 1 := by
        unfold DropStage.subtracted
        split
        · exact Nat.le_refl 1
        · exact Nat.zero_le 1
      have had : dropsLeft .live = 2 := rfl
      exact ⟨by dsimp only; omega, rfl⟩

theorem notifyWaiters_nearer {before after : Waiting.State} {guard : Nat}
    (moved : Waiting.step before (.notifyWaiters guard) = some after) : Nearer before after := by
  cases Waiting.step_steps moved with
  | notifyWaiters owing =>
      have share := sum_map_set dropsLeft owing .dropped
      have left : dropsLeft .dropped = 0 := rfl
      have had : dropsLeft .notifying = 1 := rfl
      exact ⟨by dsimp only; omega, by simp⟩

section Progress

variable {state next : State} {action : Action}

/-- Each step of the parties does a piece of work, or it is a turn. -/
theorem Steps.less (steps : Steps state action next) (wf : Wf state) (ended : state.Ended)
    (own : action.isOwn = true) :
    next.waiting.drains.length = state.waiting.drains.length ∧
      (next.work < state.work ∨ (next.work = state.work ∧ next.turns < state.turns)) := by
  have nearer : forall {waiting}, Nearer state.waiting waiting ->
      waiting.drains.length = state.waiting.drains.length ∧
        (State.work ⟨waiting, state.deferred, state.freeing, state.gil⟩ < state.work ∨
          (State.work ⟨waiting, state.deferred, state.freeing, state.gil⟩ = state.work ∧
            State.turns ⟨waiting, state.deferred, state.freeing, state.gil⟩ < state.turns)) := by
    intro waiting nearer
    exact ⟨nearer.drains, Or.inl (Nat.add_lt_add_left nearer.guards _)⟩
  cases steps with
  | register | call | take => cases own
  | fetchSub unlisted moved => exact nearer (fetchSub_nearer moved)
  | notifyWaiters unlisted moved => exact nearer (notifyWaiters_nearer moved)
  | subtract first moved => exact nearer (fetchSub_nearer moved)
  | notify first moved => exact nearer (notifyWaiters_nearer moved)
  | strand unlisted live => exact absurd (ended _ live) unlisted
  | @freed guard rest first dropped =>
      refine ⟨rfl, Or.inl ?_⟩
      unfold State.work
      rw [first, List.length_cons]
      dsimp only
      omega
  | @drain index action waiting early outside moved =>
      cases Waiting.step_steps moved with
      | @drain _ _ drain wait found turned =>
          refine ⟨List.length_set, Or.inr ⟨rfl, ?_⟩⟩
          have turns : turnsLeft state.idle wait < turnsLeft state.idle drain.wait := drainStep_turns turned early
          have share := sum_map_set (fun drain : Drain => turnsLeft state.idle drain.wait) found ⟨drain.limited, wait⟩
          dsimp only at share
          unfold State.turns
          refine Nat.add_lt_add_right ?_ _
          change (List.map (fun drain : Drain => turnsLeft state.idle drain.wait)
            (state.waiting.drains.set index ⟨drain.limited, wait⟩)).sum < _
          omega
  | tap idle parked =>
      refine ⟨rfl, ?_⟩
      have quiet := wf.idle idle
      rcases deferred : state.deferred with _ | ⟨first, rest⟩
      · have zero : state.waiting.inFlight.count = 0 := by
          by_contra busy
          rcases exists_live wf.counted busy with ⟨guard, live⟩
          have listed := ended guard live
          rw [State.listed, deferred, quiet] at listed
          cases listed
        refine Or.inr ⟨?_, ?_⟩
        · unfold State.work
          rw [deferred, quiet]
        · have idles : state.idle = true := decide_eq_true zero
          unfold State.turns
          rw [idle]
          refine Nat.add_lt_add_left ?_ _
          change tapsLeft state.idle _ < tapsLeft state.idle _
          rw [idles]
          exact Nat.one_pos
      · refine Or.inl ?_
        unfold State.work
        rw [deferred, quiet]
        simp only [List.length_cons, List.length_nil]
        omega
  | leave done held =>
      refine ⟨rfl, Or.inr ⟨?_, ?_⟩⟩
      · unfold State.work
        rw [done]
      · unfold State.turns
        rw [held]
        refine Nat.add_lt_add_left ?_ _
        exact Nat.lt_succ_of_le (tapsLeft_none state.idle)
  | @goOn index waiting done held moved =>
      rcases wf.tapping index held with ⟨limited, notified, parked⟩
      cases Waiting.step_steps moved with
      | drain found turned =>
          cases parked.symm.trans found
          cases turned
          refine ⟨List.length_set, Or.inr ⟨?_, ?_⟩⟩
          · unfold State.work
            rw [done]
          · have share := sum_map_set (fun drain : Drain => turnsLeft state.idle drain.wait) parked
              ⟨limited, .outside⟩
            unfold State.turns
            rw [held]
            change (List.map (fun drain : Drain => turnsLeft state.idle drain.wait) _).sum +
              tapsLeft state.idle none < _
            dsimp only at share ⊢
            have taps : turnsLeft state.idle .outside + tapsLeft state.idle none <
                turnsLeft state.idle (.parked notified) + tapsLeft state.idle (some (.drain index)) := by
              cases state.idle <;> cases notified <;> simp [turnsLeft, tapsLeft]
            omega

theorem Steps.stepsLeft_lt (steps : Steps state action next) (wf : Wf state) (ended : state.Ended)
    (own : action.isOwn = true) : next.stepsLeft < state.stepsLeft := by
  rcases steps.less wf ended own with ⟨drains, less⟩
  have low := next.turns_le
  unfold State.stepsLeft
  rw [drains] at low ⊢
  exact layered_lt low less

end Progress

/-! ## At rest -/

section Rest

variable {state next : State} {action : Action}

theorem live_of_step {before after : Waiting.State} {waited : Waiting.Action}
    (moved : Waiting.step before waited = some after) (old : waited ≠ .register) {guard : Nat}
    (live : after.guards[guard]? = some .live) : before.guards[guard]? = some .live := by
  have unchanged : forall {other : Nat} {stage : DropStage}, stage ≠ .live -> other < before.guards.length ->
      (before.guards.set other stage)[guard]? = some .live -> before.guards[guard]? = some .live := by
    intro other stage dead bound found
    by_cases here : other = guard
    · subst here
      rw [List.getElem?_set_self bound] at found
      exact absurd (Option.some.inj found) dead
    · exact (List.getElem?_set_ne here).symm.trans found
  cases Waiting.step_steps moved with
  | register => exact absurd rfl old
  | fetchSub had =>
      refine unchanged ?_ (List.getElem?_eq_some_iff.mp had).1 live
      unfold DropStage.subtracted
      split <;> exact DropStage.noConfusion
  | notifyWaiters owing =>
      have dead : DropStage.dropped ≠ .live := DropStage.noConfusion
      exact unchanged dead (List.getElem?_eq_some_iff.mp owing).1 live
  | call | drain => exact live

theorem Steps.ended (steps : Steps state action next) (wf : Wf state) (ended : state.Ended)
    (own : action.isOwn = true) : next.Ended := by
  have advanced : forall {waited waiting}, Waiting.step state.waiting waited = some waiting ->
      waited ≠ .register -> State.Ended ⟨waiting, state.deferred, state.freeing, state.gil⟩ :=
    fun moved old guard live => ended guard (live_of_step moved old live)
  cases steps with
  | register | call | take => cases own
  | drain _ _ moved => exact advanced moved nofun
  | fetchSub _ moved => exact advanced moved nofun
  | notifyWaiters _ moved => exact advanced moved nofun
  | subtract _ moved => exact advanced moved nofun
  | notify _ moved => exact advanced moved nofun
  | strand unlisted live => exact absurd (ended _ live) unlisted
  | tap idle parked =>
      intro guard live
      have listed := ended guard live
      rw [State.listed, wf.idle idle, List.append_nil] at listed
      exact listed
  | @freed guard rest first dropped =>
      intro other live
      rcases List.mem_append.mp (ended other live) with waits | taken
      · exact List.mem_append_left _ waits
      · rw [first] at taken
        rcases List.mem_cons.mp taken with rfl | later
        · cases dropped.symm.trans live
        · exact List.mem_append_right _ later
  | leave done held =>
      intro guard live
      have listed := ended guard live
      rw [State.listed, done] at listed
      exact listed
  | goOn done held moved =>
      intro guard live
      have listed := ended guard (live_of_step moved nofun live)
      rw [State.listed, done] at listed
      exact listed

theorem settling : Settling machine (fun action => action.isOwn = true)
    (fun state => Wf state ∧ state.Ended) State.stepsLeft where
  keeps := by
    rintro state action next ⟨wf, ended⟩ own stepped
    have steps := step_steps stepped
    exact ⟨wf.step steps, steps.ended wf ended own⟩
  decreases := by
    rintro state action next ⟨wf, ended⟩ own stepped
    exact (step_steps stepped).stepsLeft_lt wf ended own

theorem free_enabled (wf : Wf state) (some : state.freeing ≠ []) : step state .free ≠ none := by
  rcases first : state.freeing with _ | ⟨guard, rest⟩
  · exact absurd first some
  · have bound := wf.known guard (first ▸ List.mem_cons_self)
    have stands := List.getElem?_eq_getElem bound
    rw [step, first]
    dsimp only
    cases stage : state.waiting.guards[guard] with
    | live => simp [stands, stage, State.advance, Waiting.step]
    | notifying => simp [stands, stage, State.advance, Waiting.step]
    | dropped => simp [stands, stage]

theorem release_enabled (wf : Wf state) (done : state.freeing = []) {holder : Holder}
    (held : state.gil = some holder) : step state .release ≠ none := by
  rw [step, done, held]
  cases holder with
  | thread => exact nofun
  | drain index =>
      rcases wf.tapping index held with ⟨limited, notified, parked⟩
      simp [State.advance, Waiting.step, parked, Waiting.drainStep]

/-- A drain that has not returned can go on, if only by tapping the GIL. -/
theorem drain_enabled (idle : state.gil = none) {index : Nat} {drain : Drain}
    (found : state.waiting.drains[index]? = some drain) (pending : forall satisfied, drain.wait ≠ .left satisfied) :
    ∃ action, action.isOwn = true ∧ step state action ≠ none := by
  rcases drain with ⟨limited, wait⟩
  cases wait with
  | outside =>
      refine ⟨.drain index .create, rfl, ?_⟩
      simp [step, idle, State.advance, Waiting.step, found, Waiting.drainStep]
  | enlisted notified =>
      refine ⟨.drain index .read, rfl, ?_⟩
      simp [step, idle, State.advance, Waiting.step, found, Waiting.drainStep]
  | declined notified =>
      refine ⟨.drain index .park, rfl, ?_⟩
      simp [step, idle, State.advance, Waiting.step, found, Waiting.drainStep]
  | parked notified =>
      refine ⟨.tap index, rfl, ?_⟩
      simp [step, found, State.acquire, idle]
  | left satisfied => exact absurd rfl (pending satisfied)

theorem rested (wf : Wf state) (rests : AtRest machine (fun action => action.isOwn = true) state) :
    state.gil = none ∧ forall (index : Nat) drain, state.waiting.drains[index]? = some drain ->
      ∃ satisfied, drain.wait = .left satisfied := by
  have idle : state.gil = none := by
    rcases held : state.gil with _ | holder
    · rfl
    · by_cases done : state.freeing = []
      · exact absurd (rests .release rfl) (release_enabled wf done held)
      · exact absurd (rests .free rfl) (free_enabled wf done)
  refine ⟨idle, ?_⟩
  intro index drain found
  by_contra pending
  rcases drain_enabled idle found (not_exists.mp pending) with ⟨action, own, enabled⟩
  exact enabled (rests action own)

end Rest

/-! ## How a drain returns -/

/-- The drain at this index has returned, with this result. -/
def Left (index : Nat) (satisfied : Bool) (waiting : Waiting.State) : Prop :=
  ∃ limited, waiting.drains[index]? = some ⟨limited, .left satisfied⟩

/-- Only a drain's own step makes it return. -/
theorem left_step {before after : Waiting.State} {waited : Waiting.Action} {index : Nat} {satisfied : Bool}
    (moved : Waiting.step before waited = some after) (pending : ¬ Left index satisfied before)
    (left : Left index satisfied after) :
    ∃ (action : DrainStep) (drain : Drain), waited = .drain index action ∧
      Waiting.drainStep before.inFlight.count drain.limited action drain.wait = some (.left satisfied) := by
  rcases left with ⟨limited, found⟩
  cases Waiting.step_steps moved with
  | register | fetchSub => exact absurd ⟨limited, found⟩ pending
  | notifyWaiters owing =>
      dsimp only at found
      rw [List.getElem?_map, Option.map_eq_some_iff] at found
      rcases found with ⟨⟨stays, wait⟩, found, same⟩
      cases wait <;> cases same
      exact absurd ⟨stays, found⟩ pending
  | call =>
      rcases List.mem_append.mp (List.mem_of_getElem? found) with old | new
      · by_cases early : index < before.drains.length
        · rw [List.getElem?_append_left early] at found
          exact absurd ⟨limited, found⟩ pending
        · rw [List.getElem?_append_right (Nat.le_of_not_lt early)] at found
          cases List.mem_singleton.mp (List.mem_of_getElem? found)
      · cases List.mem_singleton.mp new
  | @drain other action drain wait stands turned =>
      by_cases here : other = index
      · subst here
        rw [List.getElem?_set_self (List.getElem?_eq_some_iff.mp stands).1] at found
        cases found
        exact ⟨action, drain, rfl, turned⟩
      · rw [List.getElem?_set_ne here] at found
        exact absurd ⟨limited, found⟩ pending

theorem drainStep_abandoned {count : Int} {limited : Bool} {action : DrainStep} {before : Waiter}
    (stepped : Waiting.drainStep count limited action before = some (.left false)) : action = .expire := by
  cases Waiting.drainStep_moves stepped with
  | abandon notified =>
      cases action with
      | expire => rfl
      | wake => cases notified <;> cases stepped
      | create | read | park | tick => cases stepped

section Returns

variable {state next final : State} {action : Action} {labels : List Action}

theorem Steps.idles (steps : Steps state action next) (wf : Wf state) (own : action.isOwn = true)
    (idle : state.waiting.inFlight.count = 0) : next.waiting.inFlight.count = 0 := by
  by_contra busy
  rcases exists_live (wf.step steps).counted busy with ⟨guard, live⟩
  have before : state.waiting.guards[guard]? = some .live := by
    rcases steps.advances with same | ⟨waited, moved, registers, _⟩
    · rw [same] at live
      exact live
    · refine live_of_step moved ?_ live
      intro register
      rw [registers register] at own
      cases own
  have positive := count_pos wf.counted before
  omega

/-- A drain that returns while no future is registered returns true, and the
count is zero from then on, or its own timeout has fired. -/
theorem returns (holds : Wf state ∧ state.Ended) (own : ∀ action ∈ labels, action.isOwn = true)
    (ran : machine.run state labels = some final) {index : Nat} {satisfied : Bool}
    (pending : ¬ Left index satisfied state.waiting) (left : Left index satisfied final.waiting) :
    satisfied = false ∧ Action.drain index .expire ∈ labels ∨
      satisfied = true ∧ final.waiting.inFlight.count = 0 := by
  rcases machine.run_turning_point (fun state => Left index satisfied state.waiting) pending left ran with
    ⟨early, action, late, middle, next, split, before, stepped, unleft, leaves, after⟩
  rw [split, List.forall_mem_append, List.forall_mem_cons] at own
  have kept := settling.run_keeps holds own.1 before
  rcases (step_steps stepped).advances with same | ⟨waited, moved, _, turns⟩
  · rw [same] at leaves
    exact absurd leaves unleft
  · rcases left_step moved unleft leaves with ⟨turn, drain, rfl, turned⟩
    cases satisfied with
    | false =>
        cases drainStep_abandoned turned
        have mine := (turns index .expire rfl).resolve_left nofun
        refine Or.inl ⟨rfl, ?_⟩
        rw [split, mine]
        exact List.mem_append_right _ List.mem_cons_self
    | true =>
        have zero : next.waiting.inFlight.count = 0 := by
          refine (step_steps stepped).idles kept.1 own.2.1 ?_
          exact (Waiting.drainStep_moves turned).satisfied_quiet
        refine Or.inr ⟨rfl, ?_⟩
        have stays : forall {state action next}, Wf state ∧ state.Ended -> action.isOwn = true ->
            machine.step state action = some next -> state.waiting.inFlight.count = 0 ->
              next.waiting.inFlight.count = 0 :=
          fun holds mine stepped => (step_steps stepped).idles holds.1 mine
        exact settling.run_keeps_fact stays (settling.keeps kept own.2.1 stepped) zero own.2.2 after

/-- However the futures ended: as long as no new one is registered, the drains
free the guards that were stranded, and return, without anybody else taking the
GIL.  One that returns false has had its timeout. -/
theorem stranded_guards_are_freed {past : List Action} (ran : machine.run initial past = some state)
    (ended : state.Ended) :
    (∃ labels final, (∀ action ∈ labels, action.isOwn = true) ∧ machine.run state labels = some final ∧
      AtRest machine (fun action => action.isOwn = true) final) ∧
    forall labels final, (∀ action ∈ labels, action.isOwn = true) -> machine.run state labels = some final ->
      labels.length <= state.stepsLeft ∧
        (AtRest machine (fun action => action.isOwn = true) final ->
          final.gil = none ∧
          forall index drain, state.waiting.drains[index]? = some drain ->
            (forall satisfied, drain.wait ≠ .left satisfied) ->
              Left index false final.waiting ∧ Action.drain index .expire ∈ labels ∨
              Left index true final.waiting ∧ final.waiting.inFlight.count = 0 ∧ final.listed = []) := by
  have holds : Wf state ∧ state.Ended := ⟨run_wf ran, ended⟩
  refine ⟨settling.reaches_rest holds, ?_⟩
  intro labels final own continued
  have bound := settling.length_le holds own continued
  have kept := settling.run_keeps holds own continued
  refine ⟨by omega, ?_⟩
  intro rests
  rcases rested kept.1 rests with ⟨idle, left⟩
  refine ⟨idle, ?_⟩
  intro index drain found waits
  have drains : final.waiting.drains.length = state.waiting.drains.length :=
    settling.run_keeps_fact
      (fun holds mine stepped same => ((step_steps stepped).less holds.1 holds.2 mine).1.trans same)
      holds rfl own continued
  have bound := (List.getElem?_eq_some_iff.mp found).1
  have last := List.getElem?_eq_getElem (drains ▸ bound)
  rcases done : final.waiting.drains[index] with ⟨limited, wait⟩
  rcases left index _ last with ⟨satisfied, gone⟩
  rw [done] at gone last
  cases gone
  have returned : Left index satisfied final.waiting := ⟨limited, last⟩
  have pending : ¬ Left index satisfied state.waiting := by
    rintro ⟨_, early⟩
    cases found.symm.trans early
    exact waits satisfied rfl
  rcases returns holds own continued pending returned with ⟨rfl, expired⟩ | ⟨rfl, zero⟩
  · exact Or.inl ⟨returned, expired⟩
  · refine Or.inr ⟨returned, zero, ?_⟩
    have nobody : final.deferred = [] := by
      rcases deferred : final.deferred with _ | ⟨guard, rest⟩
      · rfl
      · have live := kept.1.stranded guard (deferred ▸ List.mem_cons_self)
        have positive := count_pos kept.1.counted live
        omega
    rw [State.listed, nobody, kept.1.idle idle]
    rfl

/-! ## Without the tick -/

def Action.takesGil : Action -> Bool
  | .take => true
  | .tap _ => true
  | _ => false

/-- While nobody takes the GIL, a stranded guard stays where it is. -/
theorem Steps.stays (steps : Steps state action next) (nobody : action.takesGil = false) {guard : Nat}
    (wf : Wf state) (idle : state.gil = none) (stranded : guard ∈ state.deferred) :
    next.gil = none ∧ guard ∈ next.deferred := by
  have quiet := wf.idle idle
  cases steps with
  | take | tap => cases nobody
  | register | call | drain | fetchSub | notifyWaiters => exact ⟨idle, stranded⟩
  | strand => exact ⟨idle, List.mem_append_left _ stranded⟩
  | subtract first moved => cases first.symm.trans quiet
  | notify first moved => cases first.symm.trans quiet
  | freed first dropped => cases first.symm.trans quiet
  | leave done held => cases idle.symm.trans held
  | goOn done held moved => cases idle.symm.trans held

theorem run_stays {past : List Action} (ran : machine.run initial past = some state) {guard : Nat}
    (stranded : guard ∈ state.deferred) (idle : state.gil = none)
    (nobody : ∀ action ∈ labels, action.takesGil = false) (continued : machine.run state labels = some final) :
    Wf final ∧ guard ∈ final.deferred := by
  induction labels generalizing state past with
  | nil =>
      cases Option.some.inj continued
      exact ⟨run_wf ran, stranded⟩
  | cons action rest ih =>
      rw [List.forall_mem_cons] at nobody
      rcases (machine.run_cons).mp continued with ⟨next, stepped, remaining⟩
      rcases (step_steps stepped).stays nobody.1 (run_wf ran) idle stranded with ⟨still, listed⟩
      exact ih (machine.run_snoc ran stepped) listed still nobody.2 remaining

/-- A stranded guard that nobody takes the GIL for is never dropped, and no
drain returns true, whatever the others do. -/
theorem stranded_guards_wait {past : List Action} (ran : machine.run initial past = some state) {guard : Nat}
    (stranded : guard ∈ state.deferred) (idle : state.gil = none)
    (nobody : ∀ action ∈ labels, action.takesGil = false) (continued : machine.run state labels = some final) :
    final.waiting.guards[guard]? = some .live ∧
      forall index, Left index true final.waiting -> Left index true state.waiting := by
  rcases run_stays ran stranded idle nobody continued with ⟨wf, listed⟩
  refine ⟨wf.stranded guard listed, ?_⟩
  intro index left
  by_contra pending
  rcases machine.run_turning_point (fun state => Left index true state.waiting) pending left continued with
    ⟨early, action, late, middle, next, split, before, stepped, unleft, leaves, _⟩
  rw [split, List.forall_mem_append] at nobody
  rcases run_stays ran stranded idle nobody.1 before with ⟨wf, listed⟩
  rcases (step_steps stepped).advances with same | ⟨waited, moved, _, _⟩
  · rw [same] at leaves
    exact unleft leaves
  · rcases left_step moved unleft leaves with ⟨turn, drain, _, turned⟩
    have zero := (Waiting.drainStep_moves turned).satisfied_quiet
    have positive := count_pos wf.counted (wf.stranded guard listed)
    omega

end Returns

/-- Two futures are tracked.  One is cancelled in the sliver and its proxy is
dropped without the GIL; the other one ends.  Two drains wait, one of them with
a timeout. -/
def sliver : List Action :=
  [.register, .register, .call false, .call true, .drain 0 .create, .drain 1 .create, .drain 0 .read,
    .drain 1 .read, .strand 0, .drain 0 .park, .drain 1 .park, .fetchSub 1]

def slivered : State :=
  ⟨⟨⟨1⟩, [.live, .dropped], [⟨false, .parked false⟩, ⟨true, .parked false⟩]⟩, [0], [], none⟩

theorem ran_sliver : machine.run initial sliver = some slivered := rfl

theorem ended_slivered : slivered.Ended := by
  intro guard live
  rcases guard with _ | _ | guard
  · exact List.mem_cons_self
  · cases live
  · cases live

theorem stranded_guards_are_freed_in_the_sliver :
    ∃ labels final, machine.run slivered labels = some final ∧
      (Left 0 false final.waiting ∧ Action.drain 0 .expire ∈ labels ∨
        Left 0 true final.waiting ∧ final.waiting.inFlight.count = 0 ∧ final.listed = []) := by
  rcases stranded_guards_are_freed ran_sliver ended_slivered with ⟨⟨labels, final, own, continued, rests⟩, all⟩
  have returned := ((all labels final own continued).2 rests).2 0 ⟨false, .parked false⟩ rfl (fun _ => nofun)
  exact ⟨labels, final, continued, returned⟩

theorem stranded_guards_wait_in_the_sliver :
    ∃ final, machine.run slivered [.drain 1 .expire, .call false, .drain 2 .create, .drain 2 .read] = some final ∧
      final.waiting.guards[0]? = some .live ∧ ¬ Left 2 true final.waiting := by
  have continued : machine.run slivered [.drain 1 .expire, .call false, .drain 2 .create, .drain 2 .read] =
      some ⟨⟨⟨1⟩, [.live, .dropped], [⟨false, .parked false⟩, ⟨true, .left false⟩, ⟨false, .declined false⟩]⟩,
        [0], [], none⟩ := rfl
  have waits := stranded_guards_wait ran_sliver List.mem_cons_self rfl (by decide) continued
  refine ⟨_, continued, waits.1, ?_⟩
  intro left
  rcases waits.2 2 left with ⟨limited, absurd⟩
  cases absurd

end Backstop
end Bridge
end Lkrequest
