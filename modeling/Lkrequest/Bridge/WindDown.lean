import Lkrequest.Bridge.DrainOrder
import Lkrequest.Foundations.Progress
import Mathlib.Algebra.BigOperators.Group.Finset.Basic

namespace Lkrequest
namespace Bridge

open Foundations

/-!
# The bridge winds down

When nothing new is submitted and the inner futures come to an end, so does the
bridge: a drain waits for nothing but the tracked crossings, and a proxy for
nothing but those that stand over it.  The inner futures and asyncio are taken
to go on, in any order; whether a future ends in a result, in a panic or is
abandoned is open, and so is what the event loops raise.

There is one way to get stuck.  A drain that was submitted while another future
was polled keeps the proxy of that one alive.  When the guard in its slot is not
taken by any delivery, it goes with the proxy, and the drain waits for it.
-/

/-! ## Steps that are left -/

/-- Everything but a cancellation, a timeout and a new submission. -/
def Action.isOwn : Action -> Bool
  | .cancel => false
  | .drainTimeout => false
  | _ => true

def Event.isOwn : Event -> Bool
  | .act _ action => action.isOwn
  | .forward _ => true
  | .runCallback _ => true
  | _ => false

/-- The steps of a call: each proxy below takes a look at the loop, a call and a return. -/
def Call.stepsLeft (call : Call) : Nat :=
  match call.point with
  | .entered => call.nested.length + 3 * call.below.length + 4
  | .loopOpen => call.nested.length + 3 * call.below.length + 3
  | .returning _ => call.nested.length + 1

/-- The steps that a crossing has before it at most, with the callback that it queues. -/
def Stage.stepsLeft (under : List CrossingId) : Stage -> Nat
  | .submitting => 3 * under.length + 10
  | .proxied => 3 * under.length + 8
  | .polling => 3 * under.length + 7
  | .ready => 3 * under.length + 6
  | .committed => 3 * under.length + 5
  | .delivering call => call.stepsLeft
  | .refused => 0
  | .finished _ => 0

def Proxy.stepsLeft : Proxy -> Nat
  | .live => 1
  | _ => 0

def Crossing.stepsLeft (crossing : Crossing) : Nat :=
  crossing.stage.stepsLeft crossing.under + crossing.proxy.stepsLeft

/-- The callbacks that are queued in some loops. -/
def State.queued (state : State) (loops : Finset LoopId) : Nat :=
  loops.sum (fun loop => (state.loops loop).ready.length)

/-- The loops that futures were submitted on. -/
def State.usedLoops (state : State) : Finset LoopId := (state.crossings.map Crossing.loop).toFinset

def State.stepsLeft (state : State) : Nat :=
  (state.crossings.map Crossing.stepsLeft).sum + state.queued state.usedLoops

section Steps

variable {count : Int} {submitted : Nat} {eventLoop : EventLoop} {index : CrossingId}
variable {crossing : Crossing} {action : Action} {effect : Effect}

theorem Acts.stepsLeft_lt (acts : Acts count submitted eventLoop index crossing action effect)
    (own : action.isOwn = true) (shaped : crossing.Shaped) :
    effect.crossing.stepsLeft + effect.eventLoop.ready.length <
      crossing.stepsLeft + eventLoop.ready.length := by
  unfold Crossing.stepsLeft
  unfold Crossing.Shaped at shaped
  cases acts with
  | buildProxy stage =>
      simp only [stage] at shaped
      simp only [stage, shaped.2, Stage.stepsLeft, Proxy.stepsLeft]
      omega
  | cancel pending => cases own
  | drainTimeout stage origin => cases own
  | isClosed guard nested below stage =>
      rw [stage]
      cases eventLoop.closed <;> simp [Stage.stepsLeft, Call.stepsLeft]
      omega
  | enqueue guard nested payload stage held loopOpen =>
      simp only [stage, Stage.stepsLeft, Call.stepsLeft, EventLoop.callSoon, List.length_append,
        List.length_singleton]
      omega
  | freeProxy stage live =>
      rw [live]
      exact Nat.add_lt_add_right (Nat.lt_succ_self _) _
  | take stage =>
      simp only [stage, Stage.stepsLeft, Call.stepsLeft, List.length_nil]
      omega
  | isClosedRaised error guard nested below stage =>
      simp only [stage, Stage.stepsLeft, Call.stepsLeft]
      omega
  | enqueueRaised error guard nested stage =>
      simp only [stage, Stage.stepsLeft, Call.stepsLeft]
      omega
  | retNested guard inner nested below result stage =>
      simp only [stage, Stage.stepsLeft, Call.stepsLeft, List.length_cons]
      omega
  | ret guard below result stage =>
      simp only [stage, Stage.stepsLeft, Call.stepsLeft, List.length_nil]
      omega
  | _ =>
      simp_all only [Stage.stepsLeft, Crossing.complete]
      omega

end Steps

section Runs

variable {events : List Event} {state next : State} {event : Event}

theorem queued_setLoop (state : State) {loops : Finset LoopId} {loop : LoopId} (among : loop ∈ loops) (eventLoop : EventLoop) :
    (state.setLoop loop eventLoop).queued loops + (state.loops loop).ready.length =
      state.queued loops + eventLoop.ready.length := by
  unfold State.queued
  rw [← Finset.add_sum_erase _ _ among, ← Finset.add_sum_erase loops _ among, State.setLoop_same]
  have others : (loops.erase loop).sum (fun each => ((state.setLoop loop eventLoop).loops each).ready.length) =
      (loops.erase loop).sum (fun each => (state.loops each).ready.length) := by
    apply Finset.sum_congr rfl
    intro each member
    rw [State.setLoop_other state eventLoop (Finset.ne_of_mem_erase member)]
  rw [others]
  omega

theorem usedLoops_set {index : CrossingId} {old new : Crossing} (found : state.crossings[index]? = some old)
    (same : new.loop = old.loop) : (state.setCrossing index new).usedLoops = state.usedLoops := by
  have loops : (state.crossings.set index new).map Crossing.loop = state.crossings.map Crossing.loop := by
    ext1 each
    rw [List.getElem?_map, List.getElem?_map]
    by_cases here : index = each
    · subst here
      rw [List.getElem?_set_self (List.getElem?_eq_some_iff.mp found).1, found]
      exact congrArg some same
    · rw [List.getElem?_set_ne here]
  unfold State.usedLoops
  exact congrArg List.toFinset loops

theorem mem_usedLoops {index : CrossingId} {crossing : Crossing} (found : state.crossings[index]? = some crossing) :
    crossing.loop ∈ state.usedLoops :=
  List.mem_toFinset.mpr (List.mem_map_of_mem (List.mem_of_getElem? found))

theorem step_stepsLeft_lt (ran : machine.run .initial events = some state) (own : event.isOwn = true)
    (stepped : step state event = some next) : next.stepsLeft < state.stepsLeft := by
  unfold State.stepsLeft
  cases event with
  | submit origin site => cases own
  | closeLoop loop => cases own
  | forward index =>
      rcases step_forward stepped with ⟨crossing, guard, nested, outer, below, called, found, stage, foundOuter, rfl⟩
      have apart : outer ≠ index := Nat.ne_of_lt (outer_ne ran found stage)
      let onward : Crossing := { crossing with stage := .delivering ⟨guard, called.handoff :: nested, below, .entered⟩ }
      have foundOn := (State.setCrossing_other state called.emptied apart).trans found
      have outside := sum_map_set Crossing.stepsLeft foundOuter called.emptied
      have inside := sum_map_set Crossing.stepsLeft foundOn onward
      have same : called.emptied.stepsLeft = called.stepsLeft := rfl
      have fewer : onward.stepsLeft < crossing.stepsLeft := by
        simp only [onward, Crossing.stepsLeft, stage, Stage.stepsLeft, Call.stepsLeft, List.length_cons]
        omega
      have loopsOuter : (state.setCrossing outer called.emptied).usedLoops = state.usedLoops :=
        usedLoops_set foundOuter rfl
      have loops : ((state.setCrossing outer called.emptied).setCrossing index onward).usedLoops =
          (state.setCrossing outer called.emptied).usedLoops := usedLoops_set foundOn rfl
      change (((state.crossings.set outer called.emptied).set index onward).map Crossing.stepsLeft).sum +
        state.queued ((state.setCrossing outer called.emptied).setCrossing index onward).usedLoops < _
      change ((state.crossings.set outer called.emptied).map Crossing.stepsLeft).sum + _ = _ at outside
      change (((state.crossings.set outer called.emptied).set index onward).map Crossing.stepsLeft).sum + _ =
        ((state.crossings.set outer called.emptied).map Crossing.stepsLeft).sum + _ at inside
      rw [loops, loopsOuter]
      omega
  | act index action =>
      rcases step_act stepped with ⟨crossing, effect, found, acts, rfl⟩
      have fewer := acts.stepsLeft_lt own (run_shaped ran crossing (List.mem_of_getElem? found))
      have total := sum_map_set Crossing.stepsLeft found effect.crossing
      have queues := queued_setLoop state (mem_usedLoops found) effect.eventLoop
      have loops := usedLoops_set found acts.loop
      change ((state.crossings.set index effect.crossing).map Crossing.stepsLeft).sum +
        (state.setLoop crossing.loop effect.eventLoop).queued (state.setCrossing index effect.crossing).usedLoops < _
      rw [loops]
      omega
  | runCallback loop =>
      rcases step_runCallback stepped with ⟨callback, rest, crossing, queue, found, rfl⟩
      have same := (run_logged ran).known loop callback (EventLoop.mem_log_of_ready queue)
      rcases same with ⟨again, found', rfl, _⟩
      cases found.symm.trans found'
      have total := sum_map_set Crossing.stepsLeft found (crossing.runCallback callback.payload)
      have unchanged : (crossing.runCallback callback.payload).stepsLeft = crossing.stepsLeft := rfl
      have queues := queued_setLoop state (mem_usedLoops found)
        ⟨(state.loops crossing.loop).closed, rest, (state.loops crossing.loop).ran ++ [callback]⟩
      have loops := usedLoops_set found (show (crossing.runCallback callback.payload).loop = crossing.loop from rfl)
      have shorter := congrArg List.length queue
      rw [List.length_cons] at shorter
      dsimp only at queues
      change ((state.crossings.set callback.crossing (crossing.runCallback callback.payload)).map
          Crossing.stepsLeft).sum +
        (state.setLoop crossing.loop ⟨(state.loops crossing.loop).closed, rest,
          (state.loops crossing.loop).ran ++ [callback]⟩).queued
          (state.setCrossing callback.crossing (crossing.runCallback callback.payload)).usedLoops < _
      rw [loops]
      omega

/-! ## Crossings that cannot go on -/

/-- A crossing whose delivery is over is settled. -/
def Crossing.Over (index : CrossingId) (eventLoop : EventLoop) (crossing : Crossing) : Prop :=
  match crossing.stage with
  | .delivering ⟨_, _, _, .returning _⟩ | .finished _ => Settled index crossing eventLoop
  | _ => True

theorem Crossing.Over.change {index : CrossingId} {crossing new : Crossing} {old eventLoop : EventLoop}
    (isOver : crossing.Over index old) (stage : new.stage = crossing.stage)
    (settles : Settled index crossing old -> Settled index new eventLoop) : new.Over index eventLoop := by
  unfold Crossing.Over at isOver ⊢
  rw [stage]
  split at isOver
  · exact settles isOver
  · exact settles isOver
  · trivial

theorem Acts.isOver {count : Int} {submitted : Nat} {eventLoop : EventLoop} {index : CrossingId}
    {crossing : Crossing} {action : Action} {effect : Effect}
    (acts : Acts count submitted eventLoop index crossing action effect)
    (isOver : crossing.Over index eventLoop) : effect.crossing.Over index effect.eventLoop := by
  cases acts with
  | cancel pending => exact isOver.change rfl (fun _ => Or.inr (Or.inr (Or.inl rfl)))
  | abandon stage cancelled => exact Or.inr (Or.inr (Or.inl ((PyFuture.isCancelled_iff _).mp cancelled)))
  | skip stage cancelled => exact Or.inr (Or.inr (Or.inl ((PyFuture.isCancelled_iff _).mp cancelled)))
  | isClosedRaised error guard nested below stage => exact Or.inr (Or.inr (Or.inr rfl))
  | isClosed guard nested below stage =>
      cases closed : eventLoop.closed with
      | true => exact Or.inr (Or.inl closed)
      | false => trivial
  | enqueueRaised error guard nested stage => exact Or.inr (Or.inr (Or.inr rfl))
  | enqueue guard nested payload stage held loopOpen =>
      exact Or.inl ⟨⟨index, payload⟩, by simp [EventLoop.log, EventLoop.callSoon], rfl⟩
  | retNested guard inner nested below result stage =>
      unfold Crossing.Over at isOver
      rw [stage] at isOver
      exact isOver
  | ret guard below result stage =>
      unfold Crossing.Over at isOver
      rw [stage] at isOver
      exact isOver
  | freeProxy stage live => exact isOver.change rfl id
  | _ => trivial

theorem run_over (ran : machine.run .initial events = some state) {index : CrossingId} {crossing : Crossing}
    (found : state.crossings[index]? = some crossing) : crossing.Over index (state.loops crossing.loop) := by
  refine machine.run_invariant_reached
    (fun state => forall index crossing, state.crossings[index]? = some crossing ->
      crossing.Over index (state.loops crossing.loop))
    (fun early state event next before holds stepped index new found => ?_)
    (by intro index new absurd; cases absurd) ran index crossing found
  have grows := fun loop => (step_loopBecomes stepped loop).grows
  cases step_becomes stepped found with
  | submitted origin site loop under _ _ last => trivial
  | kept _ old => exact (holds index new old).change rfl (fun settled => settled.grows (grows new.loop))
  | acted crossing action effect old _ acts after =>
      rw [acts.loop, after]
      exact acts.isOver (holds index crossing old)
  | emptied crossing _ _ _ _ _ old _ _ _ =>
      exact (holds index crossing old).change rfl (fun settled => settled.grows (grows crossing.loop))
  | forwarded => trivial
  | ran crossing loop callback rest _ old _ _ _ =>
      exact (holds index crossing old).change rfl (fun settled =>
        (settled.grows (grows crossing.loop)).later (Crossing.later_runCallback _ _))

/-- Nothing of a crossing is left. -/
structure Crossing.Gone (crossing : Crossing) : Prop where
  stage : crossing.stage = .refused ∨ ∃ delivery, crossing.stage = .finished delivery
  wrapper : crossing.wrapper = .dropped
  proxy : crossing.proxy ≠ .live

theorem Crossing.Shaped.gone {crossing : Crossing} (shaped : crossing.Shaped)
    (stage : crossing.stage = .refused ∨ ∃ delivery, crossing.stage = .finished delivery)
    (freed : crossing.proxy ≠ .live) : crossing.Gone := by
  refine ⟨stage, ?_, freed⟩
  unfold Crossing.Shaped at shaped
  rcases stage with refused | ⟨delivery, finished⟩
  · rw [refused] at shaped
    exact shaped.1
  · rw [finished] at shaped
    exact shaped.1

/-- What is left when no crossing and no loop can go on. -/
structure Rested (state : State) : Prop where
  gone : ∀ crossing ∈ state.crossings, crossing.Gone
  count : state.inFlight.count = 0
  released : state.released = Multiset.range state.registered
  isOver : forall (index : CrossingId) (crossing : Crossing), state.crossings[index]? = some crossing ->
    crossing.future = .pending ->
      (state.loops crossing.loop).closed = true ∨ crossing.raised.isSome = true

/-- A drain waits for the guard in a slot under its own proxy, whose result
nobody delivers. -/
def Pinned (state : State) : Prop :=
  ∃ (drainIndex outer : CrossingId) (drain called : Crossing) (guard : Guard),
    state.crossings[drainIndex]? = some drain ∧ drain.origin = .drain ∧ drain.stage = .polling ∧
      outer ∈ drain.under ∧ state.crossings[outer]? = some called ∧ called.handoff = some guard ∧
        called.future = .cancelled

/-! ## The proxies that one proxy stands over -/

/-- Under a proxy is what was under the proxy that it stands over. -/
theorem run_under (ran : machine.run .initial events = some state) {index outer : CrossingId}
    {crossing : Crossing} {rest : List CrossingId} (found : state.crossings[index]? = some crossing)
    (under : crossing.under = outer :: rest) :
    ∃ called, state.crossings[outer]? = some called ∧ called.under = rest := by
  refine machine.run_invariant_reached
    (fun state => forall index crossing outer rest, state.crossings[index]? = some crossing ->
      crossing.under = outer :: rest -> ∃ called, state.crossings[outer]? = some called ∧ called.under = rest)
    (fun early state event next before holds stepped index new outer rest found under => ?_)
    (by intro index new outer rest absurd; cases absurd) ran index crossing outer rest found under
  -- The one below has stayed what it was.
  have stays : (∃ called, state.crossings[outer]? = some called ∧ called.under = rest) ->
      ∃ called, next.crossings[outer]? = some called ∧ called.under = rest := by
    rintro ⟨called, there, same⟩
    rcases step_later before stepped there with ⟨after, still, later⟩
    exact ⟨after, still, later.under.trans same⟩
  have kept : forall {old}, state.crossings[index]? = some old ->
      ∃ called, next.crossings[outer]? = some called ∧ called.under = rest := by
    intro old here
    rcases step_later before stepped here with ⟨same, there, later⟩
    cases found.symm.trans there
    exact stays (holds index old outer rest here (later.under.symm.trans under))
  cases step_becomes stepped found with
  | submitted origin site loop locals _ current last =>
      rcases currentLocals_cases current with ⟨_, rfl⟩ | ⟨within, crossing, _, there, _, _, rfl⟩
      · cases under
      · cases under
        exact stays ⟨crossing, there, rfl⟩
  | kept _ old => exact kept old
  | acted crossing action effect old _ _ _ => exact kept old
  | emptied crossing _ _ _ _ _ old _ _ _ => exact kept old
  | forwarded crossing _ _ _ _ _ old _ _ _ => exact kept old
  | ran crossing loop callback rest _ old _ _ _ => exact kept old

/-- What is under a proxy that is under another one is under that one too. -/
theorem under_trans (ran : machine.run .initial events = some state) {index inner : CrossingId}
    {crossing between : Crossing} (found : state.crossings[index]? = some crossing)
    (among : inner ∈ crossing.under) (foundInner : state.crossings[inner]? = some between) :
    between.under ⊆ crossing.under := by
  generalize under : crossing.under = proxies at among ⊢
  induction proxies generalizing index crossing with
  | nil => cases among
  | cons outer rest ih =>
      rcases run_under ran found under with ⟨called, foundOuter, below⟩
      rcases List.mem_cons.mp among with rfl | deeper
      · cases foundOuter.symm.trans foundInner
        rw [below]
        exact List.subset_cons_self _ _
      · exact List.Subset.trans (ih foundOuter below deeper) (List.subset_cons_self _ _)

/-! ## Nobody can go on -/

/-- A future that is being submitted is never held up. -/
theorem entered_of_rest (rests : AtRest machine (fun event => event.isOwn = true) state) {index : CrossingId}
    {crossing : Crossing} (found : state.crossings[index]? = some crossing) :
    crossing.stage ≠ .submitting ∧ crossing.stage ≠ .proxied := by
  constructor
  · intro stage
    have stepped := act_step .buildProxy found (by unfold act; rw [stage])
      (fun _ _ => Bool.and_false _)
    cases (rests (.act index .buildProxy) rfl).symm.trans stepped
  · intro stage
    have stepped := act_step .enter found (by unfold act; rw [stage]) (fun _ _ => Bool.and_false _)
    cases (rests (.act index .enter) rfl).symm.trans stepped

/-- The only action that is held up is the freeing of a proxy that another one
stands over. -/
theorem held_up (rests : AtRest machine (fun event => event.isOwn = true) state) {index : CrossingId}
    {crossing : Crossing} (found : state.crossings[index]? = some crossing) (action : Action)
    (own : action.isOwn = true)
    (enabled : (act state.inFlight.count state.crossings.length (state.loops crossing.loop) index crossing
      action).isSome = true) :
    action = .freeProxy ∧ ∃ inner ∈ state.crossings, inner.under.head? = some index ∧ inner.proxy = .live := by
  rcases Option.isSome_iff_exists.mp enabled with ⟨effect, acted⟩
  have waits : ∃ inner ∈ state.crossings, State.waitsFor index action inner = true := by
    by_contra nobody
    push Not at nobody
    have stepped := act_step action found acted (fun inner member => Bool.eq_false_iff.mpr (nobody inner member))
    cases (rests (.act index action) own).symm.trans stepped
  rcases waits with ⟨inner, member, waits⟩
  rcases List.getElem?_of_mem member with ⟨_, foundInner⟩
  have entered := entered_of_rest rests foundInner
  rcases waitsFor_cases waits with ⟨under, ⟨rfl, live⟩ | submitting | proxied⟩
  · exact ⟨rfl, inner, member, under, live⟩
  · exact absurd submitting entered.1
  · exact absurd proxied entered.2

/-- Who cannot go on is over, and freed unless another proxy stands over its own,
or is a drain that waits. -/
theorem rest_cases (ran : machine.run .initial events = some state)
    (rests : AtRest machine (fun event => event.isOwn = true) state) {index : CrossingId}
    {crossing : Crossing} (found : state.crossings[index]? = some crossing) :
    ((crossing.stage = .refused ∨ ∃ delivery, crossing.stage = .finished delivery) ∧
      (crossing.proxy = .live ->
        ∃ inner ∈ state.crossings, inner.under.head? = some index ∧ inner.proxy = .live)) ∨
      (crossing.origin = .drain ∧ crossing.stage = .polling ∧ state.inFlight.count ≠ 0) := by
  have entered := entered_of_rest rests found
  have held := held_up rests found
  cases stage : crossing.stage with
  | submitting => exact absurd stage entered.1
  | proxied => exact absurd stage entered.2
  | refused =>
      refine Or.inl ⟨Or.inl rfl, fun live => ?_⟩
      exact (held .freeProxy rfl (by simp [act, stage, live])).2
  | polling =>
      by_cases drain : crossing.origin = .drain
      · by_cases zero : state.inFlight.count = 0
        · cases (held .drainIdle rfl (by simp [act, stage, drain, zero])).1
        · exact Or.inr ⟨drain, rfl, zero⟩
      · cases (held .panic rfl (by simp [act, stage, drain])).1
  | ready =>
      cases cancelled : crossing.future.isCancelled with
      | true => cases (held .skip rfl (by simp only [act, stage, cancelled]; rfl)).1
      | false => cases (held .commit rfl (by simp only [act, stage, cancelled]; rfl)).1
  | committed => cases (held .take rfl (by simp [act, stage])).1
  | delivering call =>
      rcases call with ⟨guard, nested, below, entered | loopOpen | result⟩
      · cases (held (.isClosed none) rfl (by simp [act, stage])).1
      · cases below with
        | nil => cases (held (.enqueue (some (.runtimeError ""))) rfl (by simp [act, stage])).1
        | cons outer below =>
            have before := outer_ne ran found stage
            have inside := lt_trans before (List.getElem?_eq_some_iff.mp found).1
            have stepped : step state (.forward index) ≠ none := by
              simp only [step, found, Option.bind_eq_bind, Option.bind_some, stage,
                List.getElem?_eq_getElem inside]
              exact Option.some_ne_none _
            exact absurd (rests (.forward index) rfl) stepped
      · cases nested with
        | nil => cases (held .ret rfl (by simp [act, stage])).1
        | cons inner nested => cases (held .ret rfl (by simp [act, stage])).1
  | finished delivery =>
      refine Or.inl ⟨Or.inr ⟨delivery, rfl⟩, fun live => ?_⟩
      exact (held .freeProxy rfl (by simp [act, stage, live])).2

/-- Whoever keeps a proxy alive is a drain that waits, and the proxy is under its own. -/
theorem drain_of_live (ran : machine.run .initial events = some state)
    (rests : AtRest machine (fun event => event.isOwn = true) state) {index : CrossingId}
    {crossing : Crossing} (found : state.crossings[index]? = some crossing) (live : crossing.proxy = .live) :
    ∃ drainIndex drain, state.crossings[drainIndex]? = some drain ∧ drain.origin = .drain ∧
      drain.stage = .polling ∧ state.inFlight.count ≠ 0 ∧ (index = drainIndex ∨ index ∈ drain.under) := by
  -- From each proxy to the one that stands over it, which was built later.
  generalize left : state.crossings.length - index = steps
  induction steps using Nat.strongRecOn generalizing index crossing with
  | ind steps ih =>
      rcases rest_cases ran rests found with ⟨_, pinned⟩ | ⟨drain, polling, busy⟩
      · rcases pinned live with ⟨inner, member, head, innerLive⟩
        rcases List.getElem?_of_mem member with ⟨above, foundInner⟩
        have among : index ∈ inner.under := List.mem_of_mem_head? head
        have later := (run_stands ran foundInner).below index among
        have inside := (List.getElem?_eq_some_iff.mp foundInner).1
        have nearer : state.crossings.length - above < steps :=
          left ▸ Nat.sub_lt_sub_left (lt_trans later inside) later
        rcases ih (state.crossings.length - above) nearer foundInner innerLive rfl with
          ⟨drainIndex, drain, foundDrain, origin, polling, busy, rfl | deeper⟩
        · cases foundDrain.symm.trans foundInner
          exact ⟨_, _, foundDrain, origin, polling, busy, Or.inr among⟩
        · exact ⟨drainIndex, drain, foundDrain, origin, polling, busy,
            Or.inr (under_trans ran foundDrain deeper foundInner among)⟩
      · exact ⟨index, crossing, found, drain, polling, busy, Or.inl rfl⟩

/-- A crossing whose slot is still full when it is over was cancelled. -/
def Crossing.Stranded (crossing : Crossing) : Prop :=
  crossing.Shaped ∧ forall delivery guard, crossing.stage = .finished delivery ->
    crossing.handoff = some guard -> crossing.future = .cancelled

theorem Acts.stranded {count : Int} {submitted : Nat} {eventLoop : EventLoop} {index : CrossingId}
    {crossing : Crossing} {action : Action} {effect : Effect} (stranded : crossing.Stranded)
    (acts : Acts count submitted eventLoop index crossing action effect) : effect.crossing.Stranded := by
  rcases stranded with ⟨shaped, stranded⟩
  refine ⟨acts.shaped shaped, fun delivery guard ended parked => ?_⟩
  unfold Crossing.Shaped at shaped
  cases acts with
  | cancel pending => rfl
  | abandon stage cancelled => exact (PyFuture.isCancelled_iff _).mp cancelled
  | skip stage cancelled => exact (PyFuture.isCancelled_iff _).mp cancelled
  | ret own below result stage =>
      rw [stage] at shaped
      cases shaped.2.1.symm.trans parked
  | freeProxy stage live => cases parked
  | _ => cases ended

theorem run_stranded (ran : machine.run .initial events = some state) {index : CrossingId} {crossing : Crossing}
    (found : state.crossings[index]? = some crossing) : crossing.Stranded :=
  every_crossing Crossing.Stranded (fun _ _ _ _ _ => ⟨⟨rfl, rfl⟩, nofun⟩)
    (fun stranded acts => acts.stranded stranded) (fun _ stranded => ⟨stranded.1.emptied, nofun⟩)
    (fun _ _ _ _ _ _ stranded stage => ⟨stranded.1.forwarded stage _, nofun⟩)
    (fun _ _ stranded => ⟨stranded.1, fun delivery guard ended parked =>
      (PyFuture.settle_eq_cancelled _ _).mpr (stranded.2 delivery guard ended parked)⟩) ran found

/-- The wrapper of a drain never had a guard. -/
theorem unguarded (ran : machine.run .initial events = some state) {index : CrossingId} {crossing : Crossing}
    (found : state.crossings[index]? = some crossing) (untracked : crossing.origin ≠ .tracked) :
    crossing.wrapper.captured = none := by
  refine every_crossing (fun crossing => crossing.origin ≠ .tracked -> crossing.wrapper.captured = none)
    (fun origin loop under guard iff untracked => ?_) (fun holds acts untracked => ?_) (fun _ holds => holds)
    (fun _ _ _ _ _ _ holds _ => holds) (fun _ _ holds => holds) ran found untracked
  · exact Option.not_isSome_iff_eq_none.mp (iff.not.mpr untracked)
  · rw [acts.origin] at untracked
    have empty := holds untracked
    cases acts <;> first | exact empty | rfl

/-- When nobody can go on, no guard is left but for the drains that keep it. -/
theorem idle_or_pinned (ran : machine.run .initial events = some state)
    (rests : AtRest machine (fun event => event.isOwn = true) state) :
    state.inFlight.count = 0 ∨ Pinned state := by
  by_cases nobody : ∀ crossing ∈ state.crossings, crossing.owned = 0
  · rcases run_tracks ran with ⟨ledger, _, tracks⟩
    have empty : state.owners = 0 := by
      apply List.sum_eq_zero
      intro share among
      rcases List.mem_map.mp among with ⟨crossing, member, rfl⟩
      exact nobody crossing member
    refine Or.inl ?_
    rw [tracks.count, ← tracks.owners, empty]
    rfl
  · push Not at nobody
    rcases nobody with ⟨crossing, member, owns⟩
    rcases List.getElem?_of_mem member with ⟨index, found⟩
    rcases Multiset.exists_mem_of_ne_zero owns with ⟨guard, owned⟩
    rcases run_stranded ran found with ⟨shaped, stranded⟩
    have parked : (forall {guard : Guard}, crossing.wrapper.captured ≠ some guard) ->
        crossing.stage.callGuards = [] -> crossing.handoff = some guard := by
      intro noWrapper noCall
      rcases mem_owned.mp owned with inWrapper | inSlot | ⟨frame, inCall⟩
      · exact absurd inWrapper noWrapper
      · exact inSlot
      · rw [noCall] at inCall
        cases inCall
    rcases rest_cases ran rests found with ⟨refused | ⟨delivery, finished⟩, _⟩ | ⟨drain, polling, _⟩
    · unfold Crossing.Shaped at shaped
      rw [refused] at shaped
      cases shaped.2.symm.trans (parked (by rw [shaped.1]; nofun) (by rw [refused]; rfl))
    · have slot := parked (by
        unfold Crossing.Shaped at shaped
        rw [finished] at shaped
        rw [shaped.1]
        nofun) (by rw [finished]; rfl)
      rcases drain_of_live ran rests found (shaped.reachable slot) with
        ⟨drainIndex, drain, foundDrain, origin, polling, _, rfl | among⟩
      · cases found.symm.trans foundDrain
        cases finished.symm.trans polling
      · exact Or.inr ⟨drainIndex, index, drain, crossing, guard, foundDrain, origin, polling, among, found,
          slot, stranded delivery guard finished slot⟩
    · unfold Crossing.Shaped at shaped
      rw [polling] at shaped
      have noWrapper := unguarded ran found (by rw [drain]; nofun)
      cases shaped.1.symm.trans (parked (by rw [noWrapper]; nofun) (by rw [polling]; rfl))

/-- When nobody can go on and the count is zero, nothing is left. -/
theorem all_gone (ran : machine.run .initial events = some state)
    (rests : AtRest machine (fun event => event.isOwn = true) state) (idle : state.inFlight.count = 0) :
    ∀ crossing ∈ state.crossings, crossing.Gone := by
  intro crossing member
  rcases List.getElem?_of_mem member with ⟨index, found⟩
  rcases rest_cases ran rests found with ⟨stage, _⟩ | ⟨_, _, busy⟩
  · refine (run_shaped ran crossing member).gone stage (fun live => ?_)
    rcases drain_of_live ran rests found live with ⟨_, _, _, _, _, busy, _⟩
    exact busy idle
  · exact absurd idle busy

theorem rested (ran : machine.run .initial events = some state)
    (rests : AtRest machine (fun event => event.isOwn = true) state) (idle : state.inFlight.count = 0) :
    Rested state := by
  have gone := all_gone ran rests idle
  rcases run_tracks ran with ⟨ledger, _, tracks⟩
  rcases (accounted tracks (run_shaped ran)).gone
    (fun crossing member => ⟨(gone crossing member).wrapper, (gone crossing member).proxy⟩) with ⟨count, released⟩
  refine ⟨gone, count, released, ?_⟩
  intro index crossing found pending
  have isOver := run_over ran found
  have progress := run_progress ran found
  have logged := run_logged ran
  unfold Crossing.Over at isOver
  unfold Crossing.Progress at progress
  rcases (gone crossing (List.mem_of_getElem? found)).stage with refused | ⟨delivery, finished⟩
  · rw [refused] at progress
    cases pending.symm.trans progress.2.2.2
  · rw [finished] at isOver
    rcases isOver with ⟨callback, member, own⟩ | closed | cancelled | raised
    · rcases List.mem_append.mp member with done | waits
      · exact absurd pending (logged.ran crossing.loop callback done crossing (own.symm ▸ found))
      · rcases ready : (state.loops crossing.loop).ready with _ | ⟨first, rest⟩
        · rw [ready] at waits
          cases waits
        · rcases logged.known crossing.loop first (EventLoop.mem_log_of_ready ready) with ⟨other, there, _⟩
          have runs : step state (.runCallback crossing.loop) ≠ none := by
            unfold step
            simp only [ready, there, Option.bind_eq_bind, Option.bind_some]
            exact nofun
          exact absurd (rests (.runCallback crossing.loop) rfl) runs
    · exact Or.inl closed
    · cases pending.symm.trans cancelled
    · exact Or.inr raised

theorem settling : Settling machine (fun event => event.isOwn = true)
    (fun state => ∃ events, machine.run .initial events = some state) State.stepsLeft where
  keeps := by
    rintro state event next ⟨events, ran⟩ _ stepped
    exact ⟨events ++ [event], machine.run_snoc ran stepped⟩
  decreases := by
    rintro state event next ⟨events, ran⟩ own stepped
    exact step_stepsLeft_lt ran own stepped

/-- Some drain was submitted while another future was polled. -/
def State.HasNestedDrain (state : State) : Prop :=
  ∃ drain ∈ state.crossings, drain.origin = .drain ∧ drain.under ≠ []

theorem Pinned.hasNestedDrain (pinned : Pinned state) : state.HasNestedDrain := by
  rcases pinned with ⟨drainIndex, outer, drain, called, guard, foundDrain, origin, _, among, _⟩
  exact ⟨drain, List.mem_of_getElem? foundDrain, origin, List.ne_nil_of_mem among⟩

/-- Nobody that goes on submits a drain. -/
theorem hasNestedDrain_of_own (ran : machine.run .initial events = some state) (own : event.isOwn = true)
    (stepped : step state event = some next) (nested : next.HasNestedDrain) : state.HasNestedDrain := by
  rcases nested with ⟨drain, member, origin, stands⟩
  rcases List.getElem?_of_mem member with ⟨index, found⟩
  have before : forall {old}, state.crossings[index]? = some old -> state.HasNestedDrain := by
    intro old here
    rcases step_later ran stepped here with ⟨same, there, later⟩
    cases found.symm.trans there
    exact ⟨old, List.mem_of_getElem? here, later.origin.symm.trans origin, later.under ▸ stands⟩
  cases step_becomes stepped found with
  | submitted origin site loop under event_eq _ _ =>
      subst event_eq
      cases own
  | kept _ old => exact before old
  | acted crossing action effect old _ _ _ => exact before old
  | emptied crossing _ _ _ _ _ old _ _ _ => exact before old
  | forwarded crossing _ _ _ _ _ old _ _ _ => exact before old
  | ran crossing loop callback rest _ old _ _ _ => exact before old

/-- Whatever was submitted, cancelled and closed so far: when nothing new is
submitted every crossing comes to its end, in whatever order they go on.  Then
the count is zero, every guard was dropped once, every drain is over, and no
future is pending but for a loop that was closed or raised.  Or a drain that was
submitted while another future was polled waits for the guard of that one. -/
theorem bridge_winds_down (ran : machine.run .initial events = some state) :
    (∃ own final, (∀ event ∈ own, event.isOwn = true) ∧ machine.run state own = some final ∧
      AtRest machine (fun event => event.isOwn = true) final) ∧
    forall own final, (∀ event ∈ own, event.isOwn = true) -> machine.run state own = some final ->
      own.length <= state.stepsLeft ∧
        (AtRest machine (fun event => event.isOwn = true) final ->
          Rested final ∨ (Pinned final ∧ state.HasNestedDrain)) := by
  have reached : ∃ events, machine.run .initial events = some state := ⟨events, ran⟩
  refine ⟨settling.reaches_rest reached, ?_⟩
  intro own final all continued
  have bound := settling.length_le reached all continued
  rcases settling.run_keeps reached all continued with ⟨later, ranOn⟩
  refine ⟨by omega, fun rests => ?_⟩
  rcases idle_or_pinned ranOn rests with idle | pinned
  · exact Or.inl (rested ranOn rests idle)
  · refine Or.inr ⟨pinned, Classical.byContradiction (fun flat => ?_)⟩
    -- The drain that waits is one of the state that the steps started from.
    have keeps : forall {state event next}, (∃ events, machine.run .initial events = some state) ->
        event.isOwn = true -> step state event = some next -> ¬ state.HasNestedDrain -> ¬ next.HasNestedDrain := by
      rintro state event next ⟨events, before⟩ own stepped flat nested
      exact flat (hasNestedDrain_of_own before own stepped nested)
    have stillFlat : ¬ final.HasNestedDrain := settling.run_keeps_fact keeps reached flat all continued
    exact stillFlat pinned.hasNestedDrain

end Runs

/-- Two drains wait for each other's loop and for a future whose result is
stranded: it was cancelled after it had returned. -/
def strandedEvents : List Event :=
  [.submit .tracked (.running 0), .act 0 .buildProxy, .act 0 .enter, .submit .drain (.running 0),
    .act 1 .buildProxy, .act 1 .enter, .submit .drain (.running 1), .act 2 .buildProxy, .act 2 .enter,
    .act 0 (.complete (.ok 7)), .act 0 .cancel, .act 0 .skip]

theorem bridge_winds_down_stranded :
    ∃ state own final, machine.run .initial strandedEvents = some state ∧ state.inFlight.count = 1 ∧
      machine.run state own = some final ∧ final.inFlight.count = 0 := by
  have observed : (machine.run .initial strandedEvents).map
      (fun state => (state.inFlight.count, state.crossings.map Crossing.under)) = some (1, [[], [], []]) := rfl
  rcases Option.map_eq_some_iff.mp observed with ⟨state, ran, same⟩
  rw [Prod.mk.injEq] at same
  rcases (bridge_winds_down ran).1 with ⟨own, final, all, continued, rests⟩
  refine ⟨state, own, final, ran, same.1, continued, ?_⟩
  rcases ((bridge_winds_down ran).2 own final all continued).2 rests with rested | ⟨_, drain, member, _, stands⟩
  · exact rested.count
  · have under := List.mem_map_of_mem (f := Crossing.under) member
    rw [same.2] at under
    exact absurd (by simpa using under) stands

/-- A hook calls `drain_pending` without a timeout, and the future that it was
called for is cancelled after it has returned. -/
def pinnedEvents : List Event :=
  [.submit .tracked (.running 0), .act 0 .buildProxy, .act 0 .enter, .submit .drain (.within 0),
    .act 1 .buildProxy, .act 1 .enter, .act 0 (.complete (.ok 7)), .act 0 .cancel, .act 0 .skip]

/-- Nobody frees the proxy of the future, since that of the drain stands over it,
and the drain waits for the guard in its slot. -/
theorem drain_waits_for_itself :
    ∃ state, machine.run .initial pinnedEvents = some state ∧
      AtRest machine (fun event => event.isOwn = true) state ∧ state.inFlight.count = 1 := by
  have reached : (machine.run .initial pinnedEvents).isSome = true := rfl
  refine ⟨(machine.run .initial pinnedEvents).get reached, (Option.some_get reached).symm, ?_, rfl⟩
  intro event own
  cases event with
  | submit origin site => cases own
  | closeLoop loop => cases own
  | runCallback loop => cases loop <;> rfl
  | forward index =>
      rcases index with _ | _ | index
      · rfl
      · rfl
      · rfl
  | act index action =>
      rcases index with _ | _ | index
      · cases action <;> rfl
      · cases action <;> first | rfl | cases own
      · rfl

end Bridge
end Lkrequest
