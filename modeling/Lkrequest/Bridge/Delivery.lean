import Lkrequest.Bridge.Accounting
import Lkrequest.Foundations.Precedence

namespace Lkrequest
namespace Bridge

open Foundations

/-!
# What an idle count says about deliveries

The guard of a tracked future is released after its result was put in the
loop's queue, so a count of zero means that every result which completed
normally is in its loop's queue, or will never get there.  A drain that reads
the zero is queued after them, and the queue is first in, first out: when
Python sees the drain's True, those results have been delivered already.

Two things break the first step.  A panic unwinds the wrapper together with the
guard before anything was queued, which is why the facts below are about
crossings whose payload is not a panic, one by one.  The panics have their own
module.  And a future that was submitted while another one was polled delivers
through the proxy of that one.  Its call takes the guard that it finds there and
drops it, whether or not that result has been queued.
-/

/-! ## Progress of one crossing -/

/-- The data a crossing has at each stage, its guards apart. -/
def Crossing.Progress (crossing : Crossing) : Prop :=
  match crossing.stage with
  | .submitting | .proxied | .refused =>
      crossing.payload = none ∧ crossing.readZero = none ∧ crossing.raised = none ∧
        crossing.future = .absent
  | .polling =>
      crossing.payload = none ∧ crossing.readZero = none ∧ crossing.raised = none ∧
        crossing.future ≠ .absent
  | .ready | .committed | .delivering ⟨_, _, _, .entered⟩ | .delivering ⟨_, _, _, .loopOpen⟩ =>
      crossing.payload.isSome = true ∧ crossing.raised = none ∧ crossing.future ≠ .absent
  | .delivering ⟨_, _, _, .returning _⟩ | .finished _ => crossing.future ≠ .absent

theorem Acts.progress {count : Int} {submitted : Nat} {eventLoop : EventLoop} {index : CrossingId}
    {crossing : Crossing} {action : Action} {effect : Effect} (progress : crossing.Progress)
    (acts : Acts count submitted eventLoop index crossing action effect) :
    effect.crossing.Progress := by
  cases acts with
  | cancel pending =>
      unfold Crossing.Progress at progress ⊢
      split at progress <;> simp_all
  | isClosed guard nested below stage =>
      cases closed : eventLoop.closed <;> simp_all [Crossing.Progress]
  | freeProxy stage live => exact progress
  | _ => simp_all [Crossing.Progress, Crossing.complete]

theorem Crossing.Progress.runCallback {crossing : Crossing} (payload : Payload)
    (progress : crossing.Progress) : (crossing.runCallback payload).Progress := by
  unfold Crossing.Progress at progress ⊢
  simp only [Crossing.runCallback]
  split at progress <;> simp_all

theorem Crossing.Progress.forwarded {crossing : Crossing} {guard taken : Option Guard}
    {nested : List (Option Guard)} {below rest : List CrossingId} (progress : crossing.Progress)
    (stage : crossing.stage = .delivering ⟨guard, nested, below, .loopOpen⟩) :
    ({ crossing with stage := .delivering ⟨guard, taken :: nested, rest, .entered⟩ } : Crossing).Progress := by
  simpa only [Crossing.Progress, stage] using progress

theorem run_progress {events : List Event} {state : State}
    (ran : machine.run .initial events = some state) {index : CrossingId} {crossing : Crossing}
    (found : state.crossings[index]? = some crossing) : crossing.Progress :=
  every_crossing Crossing.Progress (fun _ _ _ _ _ => ⟨rfl, rfl, rfl, rfl⟩)
    (fun progress acts => acts.progress progress) (fun _ progress => progress)
    (fun _ _ _ _ _ _ progress stage => progress.forwarded stage)
    (fun _ payload progress => progress.runCallback payload) ran found

/-- A payload is decided once. -/
theorem Acts.payload {count : Int} {submitted : Nat} {eventLoop : EventLoop} {index : CrossingId}
    {crossing : Crossing} {action : Action} {effect : Effect} {payload : Payload}
    (progress : crossing.Progress) (held : crossing.payload = some payload)
    (acts : Acts count submitted eventLoop index crossing action effect) :
    effect.crossing.payload = some payload ∧ effect.crossing.readZero = crossing.readZero := by
  cases acts with
  | complete result stage origin => simp [Crossing.Progress, stage, held] at progress
  | drainIdle stage origin zero => simp [Crossing.Progress, stage, held] at progress
  | drainTimeout stage origin => simp [Crossing.Progress, stage, held] at progress
  | panic stage origin => simp [Crossing.Progress, stage, held] at progress
  | _ => exact ⟨held, rfl⟩

theorem Acts.loop {count : Int} {submitted : Nat} {eventLoop : EventLoop} {index : CrossingId}
    {crossing : Crossing} {action : Action} {effect : Effect}
    (acts : Acts count submitted eventLoop index crossing action effect) :
    effect.crossing.loop = crossing.loop := by
  cases acts <;> rfl

/-! ## One crossing over time -/

/-- The wrapper is gone: the future was refused, returned, panicked or was
abandoned. -/
def Stage.beyondPolling : Stage -> Bool
  | .submitting | .proxied | .polling => false
  | _ => true

/-- What stays true of a crossing. -/
structure Crossing.Later (old new : Crossing) : Prop where
  origin : new.origin = old.origin
  loop : new.loop = old.loop
  under : new.under = old.under
  payload : forall payload, old.payload = some payload ->
    new.payload = some payload ∧ new.readZero = old.readZero
  refused : old.stage = .refused -> new.stage = .refused
  beyond : old.stage.beyondPolling = true ->
    new.stage.beyondPolling = true ∧ new.payload = old.payload
  raised : old.raised.isSome = true -> new.raised.isSome = true
  present : old.future ≠ .absent -> new.future ≠ .absent
  isOver : old.future ≠ .absent -> old.future ≠ .pending -> new.future = old.future

theorem Crossing.Later.cancelled {old new : Crossing} (later : old.Later new)
    (cancelled : old.future = .cancelled) : new.future = .cancelled := by
  rw [later.isOver (by rw [cancelled]; nofun) (by rw [cancelled]; nofun), cancelled]

theorem Crossing.later_refl (crossing : Crossing) : crossing.Later crossing :=
  ⟨rfl, rfl, rfl, fun _ held => ⟨held, rfl⟩, id, fun beyond => ⟨beyond, rfl⟩, id, id, fun _ _ => rfl⟩

theorem Acts.later {count : Int} {submitted : Nat} {eventLoop : EventLoop} {index : CrossingId}
    {crossing : Crossing} {action : Action} {effect : Effect} (progress : crossing.Progress)
    (acts : Acts count submitted eventLoop index crossing action effect) :
    crossing.Later effect.crossing where
  origin := acts.origin
  loop := acts.loop
  under := acts.under
  payload := fun _ held => acts.payload progress held
  refused := by
    intro refused
    cases acts <;> simp_all
  beyond := by
    intro beyond
    cases acts <;> simp_all [Stage.beyondPolling]
  raised := by
    intro raised
    cases acts <;> first | exact raised | rfl
  present := by
    intro present
    cases acts <;> first | exact present | nofun
  isOver := by
    intro present isOver
    cases acts with
    | enter stage => simp [Crossing.Progress, stage, present] at progress
    | cancel pending => exact absurd pending isOver
    | _ => rfl

theorem Crossing.later_runCallback (crossing : Crossing) (payload : Payload) :
    crossing.Later (crossing.runCallback payload) where
  origin := rfl
  loop := rfl
  under := rfl
  payload := fun _ held => ⟨held, rfl⟩
  refused := id
  beyond := fun beyond => ⟨beyond, rfl⟩
  raised := id
  present := fun present => (PyFuture.settle_eq_absent _ _).not.mpr present
  isOver := by
    intro _ isOver
    change crossing.future.settle payload = crossing.future
    cases future : crossing.future with
    | pending => exact absurd future isOver
    | _ => rfl

theorem Crossing.later_emptied (crossing : Crossing) : crossing.Later crossing.emptied where
  origin := rfl
  loop := rfl
  under := rfl
  payload := fun _ held => ⟨held, rfl⟩
  refused := id
  beyond := fun beyond => ⟨beyond, rfl⟩
  raised := id
  present := id
  isOver := fun _ _ => rfl

/-- A delivery stays one. -/
theorem Crossing.later_delivering {crossing : Crossing} {call : Call} (stage : crossing.stage = .delivering call)
    (after : Call) : crossing.Later { crossing with stage := .delivering after } where
  origin := rfl
  loop := rfl
  under := rfl
  payload := fun _ held => ⟨held, rfl⟩
  refused := by
    intro refused
    cases stage.symm.trans refused
  beyond := fun _ => ⟨rfl, rfl⟩
  raised := id
  present := id
  isOver := fun _ _ => rfl

theorem step_later {events : List Event} {state next : State} {event : Event}
    (ran : machine.run .initial events = some state) (stepped : step state event = some next)
    {index : CrossingId} {old : Crossing} (found : state.crossings[index]? = some old) :
    ∃ new, next.crossings[index]? = some new ∧ old.Later new := by
  have below := (List.getElem?_eq_some_iff.mp found).1
  have inside : index < next.crossings.length := lt_of_lt_of_le below (step_length stepped)
  rcases (⟨_, List.getElem?_eq_getElem inside⟩ : ∃ new, next.crossings[index]? = some new) with
    ⟨new, present⟩
  refine ⟨new, present, ?_⟩
  cases step_becomes stepped present with
  | submitted origin site loop under _ _ last => exact absurd below (last ▸ lt_irrefl _)
  | kept _ same =>
      rw [Option.some.inj (found.symm.trans same)]
      exact Crossing.later_refl _
  | acted crossing action effect same _ acts _ =>
      cases found.symm.trans same
      exact acts.later (run_progress ran found)
  | emptied crossing caller calling guard nested below same _ _ _ =>
      cases found.symm.trans same
      exact Crossing.later_emptied _
  | forwarded crossing called guard nested outer below same _ stage _ =>
      cases found.symm.trans same
      exact Crossing.later_delivering stage _
  | ran crossing loop callback rest _ same _ _ _ =>
      cases found.symm.trans same
      exact Crossing.later_runCallback _ _

/-- A RustPanic that was not there before comes of a panic. -/
theorem panic_of_payload {start state : State} {events : List Event}
    (ran : machine.run start events = some state) {index : CrossingId} {crossing : Crossing}
    (before : ∀ old ∈ start.crossings[index]?, old.payload ≠ some .rustPanic)
    (found : state.crossings[index]? = some crossing) (panicked : crossing.payload = some .rustPanic) :
    .act index .panic ∈ events := by
  rcases machine.run_turning_point
    (fun state => ∃ crossing, state.crossings[index]? = some crossing ∧ crossing.payload = some .rustPanic)
    (fun ⟨old, there, held⟩ => before old there held) ⟨crossing, found, panicked⟩ ran with
    ⟨early, event, late, middle, next, rfl, _, stepped, before, ⟨new, foundNew, panicked⟩, _⟩
  refine List.mem_append_right _ (List.mem_cons.mpr (Or.inl ?_))
  cases step_becomes stepped foundNew with
  | submitted => cases panicked
  | kept _ old => exact absurd ⟨_, old, panicked⟩ before
  | acted crossing action effect old event_eq acts _ =>
      cases acts with
      | panic stage origin => exact event_eq.symm
      | complete | drainIdle | drainTimeout => cases panicked
      | _ => exact absurd ⟨crossing, old, panicked⟩ before
  | emptied crossing _ _ _ _ _ old _ _ _ => exact absurd ⟨crossing, old, panicked⟩ before
  | forwarded crossing _ _ _ _ _ old _ _ _ => exact absurd ⟨crossing, old, panicked⟩ before
  | ran crossing _ _ _ _ old _ _ _ => exact absurd ⟨crossing, old, panicked⟩ before

/-! ## Results that are settled -/

/-- A callback of the crossing is queued or has run. -/
def EventLoop.Has (eventLoop : EventLoop) (index : CrossingId) : Prop :=
  ∃ callback ∈ eventLoop.log, callback.crossing = index

/-- The result is with the loop, or nothing will be: the loop is closed, the
future was cancelled, or the loop's own method raised. -/
def Settled (index : CrossingId) (crossing : Crossing) (eventLoop : EventLoop) : Prop :=
  eventLoop.Has index ∨ eventLoop.closed = true ∨ crossing.future = .cancelled ∨
    crossing.raised.isSome = true

/-- A loop stays closed, and an open one forgets nothing. -/
structure EventLoop.Grows (old new : EventLoop) : Prop where
  closed : old.closed = true -> new.closed = true
  log : new.closed = true ∨ old.log <+: new.log
  ran : old.ran <+: new.ran

theorem EventLoop.grows_refl (eventLoop : EventLoop) : eventLoop.Grows eventLoop :=
  ⟨id, Or.inr List.prefix_rfl, List.prefix_rfl⟩

theorem EventLoop.grows_callSoon (eventLoop : EventLoop) (callback : Callback) :
    eventLoop.Grows (eventLoop.callSoon callback) :=
  ⟨id, Or.inr ⟨[callback], List.append_assoc ..⟩, List.prefix_rfl⟩

theorem EventLoop.log_ran {eventLoop : EventLoop} {callback : Callback} {rest : List Callback}
    (queue : eventLoop.ready = callback :: rest) :
    ({ eventLoop with ready := rest, ran := eventLoop.ran ++ [callback] } : EventLoop).log =
      eventLoop.log := by
  simp [EventLoop.log, queue]

theorem LoopBecomes.grows {state next : State} {event : Event} {loop : LoopId} {new : EventLoop}
    (becomes : LoopBecomes state next event loop new) : (state.loops loop).Grows new := by
  cases becomes with
  | kept => exact EventLoop.grows_refl _
  | queued => exact EventLoop.grows_callSoon _ _
  | closed => exact ⟨fun _ => rfl, Or.inl rfl, List.prefix_rfl⟩
  | ran callback rest crossing queue after =>
      exact ⟨id, Or.inr (by rw [EventLoop.log_ran queue]), List.prefix_append _ _⟩

theorem Settled.grows {index : CrossingId} {crossing : Crossing} {old new : EventLoop}
    (settled : Settled index crossing old) (grows : old.Grows new) : Settled index crossing new := by
  rcases settled with ⟨callback, member, own⟩ | closed | reason
  · rcases grows.log with closed | longer
    · exact Or.inr (Or.inl closed)
    · exact Or.inl ⟨callback, longer.subset member, own⟩
  · exact Or.inr (Or.inl (grows.closed closed))
  · exact Or.inr (Or.inr reason)

/-- Cancellation and a raised error are for good. -/
theorem Settled.later {index : CrossingId} {old new : Crossing} {eventLoop : EventLoop}
    (settled : Settled index old eventLoop) (later : old.Later new) :
    Settled index new eventLoop := by
  rcases settled with has | closed | cancelled | raised
  · exact Or.inl has
  · exact Or.inr (Or.inl closed)
  · exact Or.inr (Or.inr (Or.inl (later.cancelled cancelled)))
  · exact Or.inr (Or.inr (Or.inr (later.raised raised)))

/-! ## What a crossing carries until it is settled -/

/-- The wrapper of a tracked crossing has its guard as long as it lives. -/
def Crossing.Wrapped (crossing : Crossing) : Prop :=
  crossing.origin = .tracked -> crossing.stage.beyondPolling = false ->
    crossing.wrapper.captured.isSome = true

theorem Acts.wrapped {count : Int} {submitted : Nat} {eventLoop : EventLoop} {index : CrossingId}
    {crossing : Crossing} {action : Action} {effect : Effect} (wrapped : crossing.Wrapped)
    (acts : Acts count submitted eventLoop index crossing action effect) : effect.crossing.Wrapped := by
  intro tracked early
  rw [acts.origin] at tracked
  cases acts with
  | buildProxy stage => exact wrapped tracked (by rw [stage]; rfl)
  | enter stage => exact wrapped tracked (by rw [stage]; rfl)
  | cancel pending => exact wrapped tracked early
  | freeProxy stage live => exact wrapped tracked early
  | _ => cases early

theorem run_wrapped {events : List Event} {state : State}
    (ran : machine.run .initial events = some state) {index : CrossingId} {crossing : Crossing}
    (found : state.crossings[index]? = some crossing) : crossing.Wrapped :=
  every_crossing Crossing.Wrapped (fun _ _ _ _ iff tracked _ => iff.mpr tracked)
    (fun wrapped acts => acts.wrapped wrapped) (fun _ wrapped => wrapped)
    (fun _ _ _ _ _ _ _ _ _ early => nomatch early) (fun _ _ wrapped => wrapped) ran found

/-- A crossing that is not settled still has its guard: in the wrapper, in the
slot, or in the call that is about to queue the result. -/
def Crossing.Carries (index : CrossingId) (eventLoop : EventLoop) (crossing : Crossing) : Prop :=
  match crossing.stage with
  | .submitting | .proxied | .polling => crossing.wrapper.captured.isSome = true
  | .refused => True
  | .ready | .committed => crossing.handoff.isSome = true ∨ Settled index crossing eventLoop
  | .delivering ⟨guard, _, _, .entered⟩ | .delivering ⟨guard, _, _, .loopOpen⟩ =>
      guard.isSome = true ∨ Settled index crossing eventLoop
  | .delivering ⟨_, _, _, .returning _⟩ | .finished _ => Settled index crossing eventLoop

/-- A delivery does not go through the proxy of another crossing while the guard
of a result that is still to be delivered is in its slot. -/
def SparesParked (state : State) (event : Event) : Prop :=
  ∀ index ∈ event.calling, ∀ called ∈ state.called index, called.handoff = none ∨
    (state.loops called.loop).closed = true ∨ called.future = .cancelled

instance (state : State) (event : Event) : Decidable (SparesParked state event) := by
  unfold SparesParked
  infer_instance

/-- The tracked crossings that did not panic. -/
def Crossing.Normal (crossing : Crossing) : Prop :=
  crossing.origin = .tracked ∧ crossing.payload ≠ some .rustPanic

theorem Crossing.Carries.grows {index : CrossingId} {crossing : Crossing} {old new : EventLoop}
    (carries : crossing.Carries index old) (grows : old.Grows new) : crossing.Carries index new := by
  unfold Crossing.Carries at carries ⊢
  split at carries <;> first
    | exact carries
    | exact carries.grows grows
    | exact carries.imp_right (fun settled => settled.grows grows)

/-- The Python future matters only for what is settled. -/
theorem Crossing.Carries.changeFuture {index : CrossingId} {crossing : Crossing}
    {eventLoop : EventLoop} (future : PyFuture)
    (settles : Settled index crossing eventLoop ->
      Settled index { crossing with future := future } eventLoop)
    (carries : crossing.Carries index eventLoop) :
    ({ crossing with future := future } : Crossing).Carries index eventLoop := by
  unfold Crossing.Carries at carries ⊢
  dsimp only
  split at carries <;> first
    | exact carries
    | exact settles carries
    | exact carries.imp_right settles

/-- A crossing is normal later only if it was before. -/
theorem Crossing.Later.normal {old new : Crossing} (later : old.Later new) (normal : new.Normal) :
    old.Normal :=
  ⟨later.origin ▸ normal.1, fun panicked => normal.2 (later.payload _ panicked).1⟩

/-- The last line of the wrapper parks the guard. -/
theorem Crossing.carries_complete {index : CrossingId} {crossing : Crossing} {eventLoop : EventLoop}
    (payload : Payload) (stage : crossing.stage = .polling)
    (carries : crossing.Carries index eventLoop) :
    (crossing.complete payload).Carries index eventLoop := by
  simp only [Crossing.Carries, stage] at carries
  rcases Option.isSome_iff_exists.mp carries with ⟨guard, inside⟩
  simp [Crossing.Carries, Crossing.complete, inside]

theorem Acts.carries {count : Int} {submitted : Nat} {eventLoop : EventLoop} {index : CrossingId}
    {crossing : Crossing} {action : Action} {effect : Effect}
    (acts : Acts count submitted eventLoop index crossing action effect)
    (normal : effect.crossing.Normal) (carries : crossing.Carries index eventLoop) :
    effect.crossing.Carries index effect.eventLoop := by
  cases acts with
  | panic stage origin => exact absurd rfl normal.2
  | buildProxy stage => simpa only [Crossing.Carries, stage] using carries
  | enter stage => simpa only [Crossing.Carries, stage] using carries
  | refuse stage => trivial
  | refuseProxied stage => trivial
  | complete result stage origin => exact Crossing.carries_complete _ stage carries
  | drainIdle stage origin zero => exact Crossing.carries_complete (.drained true) stage carries
  | drainTimeout stage origin => exact Crossing.carries_complete _ stage carries
  | cancel pending =>
      exact carries.changeFuture .cancelled (fun _ => Or.inr (Or.inr (Or.inl rfl)))
  | abandon stage cancelled => exact Or.inr (Or.inr (Or.inl ((PyFuture.isCancelled_iff _).mp cancelled)))
  | skip stage cancelled => exact Or.inr (Or.inr (Or.inl ((PyFuture.isCancelled_iff _).mp cancelled)))
  | commit stage going =>
      simp only [Crossing.Carries, stage] at carries
      exact carries
  | take stage =>
      simp only [Crossing.Carries, stage] at carries
      exact carries
  | isClosedRaised error guard nested below stage => exact Or.inr (Or.inr (Or.inr rfl))
  | isClosed guard nested below stage =>
      simp only [Crossing.Carries, stage] at carries
      cases closed : eventLoop.closed with
      | true => exact Or.inr (Or.inl closed)
      | false => exact carries
  | enqueueRaised error guard nested stage => exact Or.inr (Or.inr (Or.inr rfl))
  | enqueue guard nested payload stage held loopOpen =>
      exact Or.inl ⟨⟨index, payload⟩, by simp [EventLoop.log, EventLoop.callSoon], rfl⟩
  | retNested guard inner nested below result stage =>
      simp only [Crossing.Carries, stage] at carries
      exact carries
  | ret guard below result stage =>
      simp only [Crossing.Carries, stage] at carries
      exact carries
  | freeProxy stage live =>
      rcases stage with refused | ⟨delivery, finished⟩
      · simp only [Crossing.Carries, refused]
      · simp only [Crossing.Carries, finished] at carries ⊢
        exact carries

/-- What a call takes out of a slot is not missed. -/
theorem Crossing.Carries.emptied {index : CrossingId} {crossing : Crossing} {eventLoop : EventLoop}
    (carries : crossing.Carries index eventLoop)
    (spared : crossing.handoff = none ∨ eventLoop.closed = true ∨ crossing.future = .cancelled) :
    crossing.emptied.Carries index eventLoop := by
  have settled : crossing.handoff.isSome = true ∨ Settled index crossing eventLoop ->
      Settled index crossing eventLoop := by
    rintro (parked | settled)
    · rcases spared with empty | closed | cancelled
      · rw [empty] at parked
        cases parked
      · exact Or.inr (Or.inl closed)
      · exact Or.inr (Or.inr (Or.inl cancelled))
    · exact settled
  unfold Crossing.Carries at carries ⊢
  unfold Crossing.emptied
  dsimp only
  split at carries <;> first
    | exact carries
    | exact Or.inr (settled carries)

theorem run_carries {events : List Event} {state : State} (along : machine.Along SparesParked .initial events)
    (ran : machine.run .initial events = some state) {index : CrossingId} {crossing : Crossing}
    (found : state.crossings[index]? = some crossing) (normal : crossing.Normal) :
    crossing.Carries index (state.loops crossing.loop) := by
  refine machine.run_invariant_along SparesParked
    (fun state => forall index crossing, state.crossings[index]? = some crossing ->
      crossing.Normal -> crossing.Carries index (state.loops crossing.loop))
    (fun early state event next _ before holds meets stepped index new found normal => ?_)
    (by intro index new absurd; cases absurd) along ran index crossing found normal
  have grows := fun loop => (step_loopBecomes stepped loop).grows
  cases step_becomes stepped found with
  | submitted origin site loop under _ _ last =>
      have tracked : origin = .tracked := normal.1
      rw [if_pos tracked]
      rfl
  | kept _ old => exact (holds index new old normal).grows (grows new.loop)
  | acted crossing action effect old _ acts after =>
      have later := acts.later (run_progress before old)
      have kept := acts.carries normal (holds index crossing old (later.normal normal))
      rw [acts.loop, after]
      exact kept
  | emptied crossing caller calling guard nested below old event_eq foundCaller stage =>
      subst event_eq
      have spared := meets calling rfl crossing ((called_eq foundCaller stage).trans old)
      exact ((holds index crossing old normal).emptied spared).grows (grows crossing.loop)
  | forwarded crossing called guard nested outer below old _ stage _ =>
      have carries := (holds index crossing old normal).grows (grows crossing.loop)
      simp only [Crossing.Carries, stage] at carries
      exact carries
  | ran crossing loop callback rest _ old _ _ _ =>
      exact ((holds index crossing old normal).grows (grows crossing.loop)).changeFuture _
        (fun settled => settled.later (Crossing.later_runCallback _ _))

/-- Nobody owns a guard while the count is zero. -/
theorem owned_of_idle {events : List Event} {state : State}
    (ran : machine.run .initial events = some state) (idle : state.inFlight.count = 0)
    {index : CrossingId} {crossing : Crossing} (found : state.crossings[index]? = some crossing) :
    crossing.owned = 0 := by
  rcases run_tracks ran with ⟨ledger, _, tracks⟩
  have nobody : ledger.held = 0 := by
    rw [← Multiset.card_eq_zero]
    exact Int.natCast_eq_zero.mp (tracks.count ▸ idle)
  have share : crossing.owned ≤ state.owners := share_le_sum Crossing.owned found
  rw [tracks.owners, nobody] at share
  exact Multiset.le_zero.mp share

/-- A tracked future whose wrapper lives holds the count up. -/
theorem beyondPolling_of_idle {events : List Event} {state : State}
    (ran : machine.run .initial events = some state) (idle : state.inFlight.count = 0)
    {index : CrossingId} {crossing : Crossing} (found : state.crossings[index]? = some crossing)
    (tracked : crossing.origin = .tracked) : crossing.stage.beyondPolling = true := by
  by_contra early
  rcases Option.isSome_iff_exists.mp (run_wrapped ran found tracked (Bool.eq_false_iff.mpr early)) with
    ⟨guard, inside⟩
  have owned := mem_owned.mpr (Or.inl inside)
  rw [owned_of_idle ran idle found] at owned
  exact absurd owned (Multiset.notMem_zero _)

/-- While the count is zero every normal crossing was refused or is settled. -/
theorem settled_of_idle {events : List Event} {state : State}
    (along : machine.Along SparesParked .initial events)
    (ran : machine.run .initial events = some state) (idle : state.inFlight.count = 0)
    {index : CrossingId} {crossing : Crossing} (found : state.crossings[index]? = some crossing)
    (normal : crossing.Normal) :
    crossing.stage = .refused ∨ Settled index crossing (state.loops crossing.loop) := by
  have carries := run_carries along ran found normal
  have unowned : forall guard, guard ∉ crossing.owned := by
    rw [owned_of_idle ran idle found]
    exact Multiset.notMem_zero
  have inWrapper : ¬ crossing.wrapper.captured.isSome = true := by
    intro inside
    rcases Option.isSome_iff_exists.mp inside with ⟨guard, inside⟩
    exact unowned guard (mem_owned.mpr (Or.inl inside))
  have inSlot : ¬ crossing.handoff.isSome = true := by
    intro inside
    rcases Option.isSome_iff_exists.mp inside with ⟨guard, inside⟩
    exact unowned guard (mem_owned.mpr (Or.inr (Or.inl inside)))
  have inCall : forall {guard nested below point}, crossing.stage = .delivering ⟨guard, nested, below, point⟩ ->
      ¬ guard.isSome = true := by
    intro guard nested below point stage inside
    rcases Option.isSome_iff_exists.mp inside with ⟨guard, rfl⟩
    exact unowned guard (mem_owned.mpr (Or.inr (Or.inr ⟨0, by rw [stage]; rfl⟩)))
  unfold Crossing.Carries at carries
  split at carries
  · exact absurd carries inWrapper
  · exact absurd carries inWrapper
  · exact absurd carries inWrapper
  · rename_i refused
    exact Or.inl refused
  · exact Or.inr (carries.resolve_left inSlot)
  · exact Or.inr (carries.resolve_left inSlot)
  · rename_i stage
    exact Or.inr (carries.resolve_left (inCall stage))
  · rename_i stage
    exact Or.inr (carries.resolve_left (inCall stage))
  · exact Or.inr carries
  · exact Or.inr carries

/-! ## The queues -/

/-- What the queues hold, and what they have completed. -/
structure State.Logged (state : State) : Prop where
  known : forall loop, ∀ callback ∈ (state.loops loop).log,
    ∃ crossing, state.crossings[callback.crossing]? = some crossing ∧ crossing.loop = loop ∧
      crossing.payload = some callback.payload ∧ crossing.future ≠ .absent
  ran : forall loop, ∀ callback ∈ (state.loops loop).ran,
    forall crossing, state.crossings[callback.crossing]? = some crossing ->
      crossing.future ≠ .pending
  done : forall index crossing payload, state.crossings[index]? = some crossing ->
    crossing.future = .done payload -> ⟨index, payload⟩ ∈ (state.loops crossing.loop).ran

theorem logged_initial : State.initial.Logged := by
  refine ⟨?_, ?_, ?_⟩
  · intro loop callback member
    cases member
  · intro loop callback member
    cases member
  · intro index crossing payload found
    cases found

theorem Acts.done {count : Int} {submitted : Nat} {eventLoop : EventLoop} {index : CrossingId}
    {crossing : Crossing} {action : Action} {effect : Effect} {payload : Payload}
    (acts : Acts count submitted eventLoop index crossing action effect)
    (done : effect.crossing.future = .done payload) : crossing.future = .done payload := by
  cases acts <;> first | exact done | cases done

theorem EventLoop.mem_log_of_ran {eventLoop : EventLoop} {callback : Callback}
    (member : callback ∈ eventLoop.ran) : callback ∈ eventLoop.log :=
  List.mem_append_left _ member

theorem EventLoop.mem_log_of_ready {eventLoop : EventLoop} {callback : Callback}
    {rest : List Callback} (queue : eventLoop.ready = callback :: rest) :
    callback ∈ eventLoop.log := by
  simp [EventLoop.log, queue]

/-- A callback in the new log was in the old one or has just been queued. -/
theorem LoopBecomes.mem_log {state next : State} {event : Event} {loop : LoopId} {new : EventLoop}
    (becomes : LoopBecomes state next event loop new) {callback : Callback} (member : callback ∈ new.log) :
    callback ∈ (state.loops loop).log ∨
      ∃ crossing guard nested, event = .act callback.crossing (.enqueue none) ∧
        state.crossings[callback.crossing]? = some crossing ∧
        crossing.loop = loop ∧ crossing.payload = some callback.payload ∧
        crossing.stage = .delivering ⟨guard, nested, [], .loopOpen⟩ := by
  cases becomes with
  | kept => exact Or.inl member
  | queued index crossing guard nested payload event_eq found own stage held loopOpen =>
      rw [EventLoop.log, EventLoop.callSoon, ← List.append_assoc] at member
      rcases List.mem_append.mp member with old | added
      · exact Or.inl old
      · cases List.mem_singleton.mp added
        exact Or.inr ⟨crossing, guard, nested, event_eq, found, own, held, stage⟩
  | closed =>
      rw [EventLoop.log, EventLoop.close, List.append_nil] at member
      exact Or.inl (EventLoop.mem_log_of_ran member)
  | ran other rest crossing queue after =>
      rw [EventLoop.log_ran queue] at member
      exact Or.inl member

section Logged

variable {events : List Event} {state next : State} {event : Event}

/-- What a step leaves queued was known before, or is what its crossing delivers. -/
theorem State.Logged.known_step (logged : state.Logged) (ran : machine.run .initial events = some state)
    (stepped : step state event = some next) (loop : LoopId) {callback : Callback}
    (member : callback ∈ (next.loops loop).log) :
    ∃ crossing, next.crossings[callback.crossing]? = some crossing ∧ crossing.loop = loop ∧
      crossing.payload = some callback.payload ∧ crossing.future ≠ .absent := by
  rcases (step_loopBecomes stepped loop).mem_log member with old | fresh
  · rcases logged.known loop callback old with ⟨crossing, found, own, held, present⟩
    rcases step_later ran stepped found with ⟨new, found', later⟩
    exact ⟨new, found', later.loop.trans own, (later.payload _ held).1, later.present present⟩
  · rcases fresh with ⟨crossing, guard, nested, _, found, own, held, stage⟩
    have progress := run_progress ran found
    simp only [Crossing.Progress, stage] at progress
    rcases step_later ran stepped found with ⟨new, found', later⟩
    exact ⟨new, found', later.loop.trans own, (later.payload _ held).1, later.present progress.2.2⟩

/-- A callback that was run has left no future pending, and one that is run leaves none. -/
theorem State.Logged.ran_step (logged : state.Logged) (ran : machine.run .initial events = some state)
    (stepped : step state event = some next) (loop : LoopId) {callback : Callback}
    (member : callback ∈ (next.loops loop).ran) {new : Crossing}
    (found' : next.crossings[callback.crossing]? = some new) : new.future ≠ .pending := by
  have finished : callback ∈ (state.loops loop).ran -> new.future ≠ .pending := by
    intro old
    rcases logged.known loop callback (EventLoop.mem_log_of_ran old) with
      ⟨crossing, found, _, _, present⟩
    have isOver := logged.ran loop callback old crossing found
    rcases step_later ran stepped found with ⟨same, found'', later⟩
    cases found'.symm.trans found''
    exact (later.isOver present isOver).symm ▸ isOver
  generalize becomes : next.loops loop = eventLoop at member
  cases becomes ▸ step_loopBecomes stepped loop with
  | kept => exact finished member
  | queued => exact finished member
  | closed => exact finished member
  | ran other rest crossing queue after =>
      rcases List.mem_append.mp member with old | added
      · exact finished old
      · cases List.mem_singleton.mp added
        cases found'.symm.trans after
        exact PyFuture.settle_ne_pending _ _

/-- Only the callback of a crossing completes its future. -/
theorem State.Logged.done_step (logged : state.Logged) (stepped : step state event = some next)
    {index : CrossingId} {new : Crossing} {payload : Payload} (found' : next.crossings[index]? = some new)
    (done : new.future = .done payload) : ⟨index, payload⟩ ∈ (next.loops new.loop).ran := by
  have grows := (step_loopBecomes stepped new.loop).grows
  cases step_becomes stepped found' with
  | submitted origin site loop under _ _ last => cases done
  | kept _ found => exact grows.ran.subset (logged.done index new payload found done)
  | emptied crossing _ _ _ _ _ found _ _ _ =>
      exact grows.ran.subset (logged.done index crossing payload found done)
  | forwarded crossing _ _ _ _ _ found _ _ _ =>
      exact grows.ran.subset (logged.done index crossing payload found done)
  | acted crossing action effect found _ acts _ =>
      have old := logged.done index crossing payload found (acts.done done)
      rw [← acts.loop] at old
      exact grows.ran.subset old
  | ran crossing loop callback rest _ found queue own after =>
      cases future : crossing.future with
      | absent => simp [Crossing.runCallback, future, PyFuture.settle] at done
      | cancelled => simp [Crossing.runCallback, future, PyFuture.settle] at done
      | done old =>
          simp only [Crossing.runCallback, future, PyFuture.settle] at done
          exact grows.ran.subset (logged.done index crossing payload found (future.trans done))
      | pending =>
          simp only [Crossing.runCallback, future, PyFuture.settle, PyFuture.done.injEq] at done
          rcases logged.known loop callback (EventLoop.mem_log_of_ready queue) with
            ⟨same, found'', home, _, _⟩
          cases (own ▸ found).symm.trans found''
          change _ ∈ (next.loops crossing.loop).ran
          rw [home, after, ← own, ← done]
          exact List.mem_append_right _ (List.mem_singleton_self _)

theorem run_logged (ran : machine.run .initial events = some state) : state.Logged := by
  refine machine.run_invariant_reached State.Logged
    (fun early state event next before logged stepped => ?_) logged_initial ran
  exact ⟨fun loop _ member => logged.known_step before stepped loop member,
    fun loop _ member _ found => logged.ran_step before stepped loop member found,
    fun _ _ _ found done => logged.done_step stepped found done⟩

end Logged

/-- Nothing is queued for a crossing that is still polled. -/
theorem not_has_of_polling {events : List Event} {state : State}
    (ran : machine.run .initial events = some state) {index : CrossingId} {crossing : Crossing}
    (found : state.crossings[index]? = some crossing) (stage : crossing.stage = .polling)
    (loop : LoopId) : ¬ (state.loops loop).Has index := by
  rintro ⟨callback, member, own⟩
  rcases (run_logged ran).known loop callback member with ⟨same, atOwn, _, held, _⟩
  cases (own ▸ atOwn).symm.trans found
  have progress := run_progress ran found
  simp only [Crossing.Progress, stage, held] at progress
  exact absurd progress.1 nofun

end Bridge
end Lkrequest
