import Lkrequest.Bridge.DrainOrder

namespace Lkrequest
namespace Bridge

open Foundations

/-!
# Drains and panics

A panicking inner future takes its guard with it when the wrapper is unwound,
and only then does the supervising task set out to deliver the `RustPanic`.
Between the two the count does not know about the future any more.  A drain
that reads its zero there answers True although the panicked future is still
pending.

The guarantee survives exactly as long as the delivery wins that race: no
drain's True may be queued while the `RustPanic` of a future it promises is
still on its way.  Both directions are proved.  Runs that keep to the condition
have the guarantee in every state, and a step that violates it can be continued,
by nothing but the loop serving its queue, to a state that breaks the guarantee.
-/

/-- Every panicked future that a drain's True speaks for is over. -/
def State.PanicsDone (state : State) : Prop :=
  forall (drainIndex : CrossingId) (drain : Crossing) (seen : Nat) (index : CrossingId)
    (crossing : Crossing), state.crossings[drainIndex]? = some drain ->
      drain.future = .done (.drained true) -> drain.readZero = some seen -> index < seen ->
        state.crossings[index]? = some crossing -> crossing.origin = .tracked ->
          crossing.payload = some .rustPanic -> crossing.loop = drain.loop ->
            crossing.future.isFinished = true

/-- The `RustPanic` of a future is queued, or the future was cancelled. -/
def PanicQueued (state : State) (loop : LoopId) (index : CrossingId) : Prop :=
  ∀ crossing ∈ state.crossings[index]?, crossing.origin = .tracked ->
    crossing.payload = some .rustPanic -> crossing.loop = loop ->
      (state.loops loop).Has index ∨ crossing.future = .cancelled

/-- When the True of a drain that was not cancelled is queued, the `RustPanic`
of every future it promises has been queued before. -/
def QueuesPanics (state : State) : Event -> Prop
  | .act drainIndex (.enqueue none) =>
      ∀ drain ∈ state.crossings[drainIndex]?, drain.future = .pending ->
        ∀ seen ∈ drain.readZero, ∀ index < seen, PanicQueued state drain.loop index
  | _ => True

instance (eventLoop : EventLoop) (index : CrossingId) : Decidable (eventLoop.Has index) :=
  inferInstanceAs (Decidable (∃ callback ∈ eventLoop.log, callback.crossing = index))

instance (state : State) (loop : LoopId) (index : CrossingId) :
    Decidable (PanicQueued state loop index) := by
  unfold PanicQueued
  infer_instance

instance decidableQueuesPanics (state : State) (event : Event) :
    Decidable (QueuesPanics state event) := by
  unfold QueuesPanics
  split <;> infer_instance

/-! ## The condition is enough -/

/-- A panicked crossing that does not spoil the drain's True: one of the two
was cancelled, the drain has nothing in the queue, or the panic is before it. -/
def PanicBehind (drainIndex : CrossingId) (drain : Crossing) (index : CrossingId)
    (crossing : Crossing) (eventLoop : EventLoop) : Prop :=
  drain.future = .cancelled ∨ crossing.future = .cancelled ∨ ¬ eventLoop.Has drainIndex ∨
    Ordered index drainIndex eventLoop

/-- Under the condition a drain enters the queue only behind the panics it
speaks for. -/
theorem panicBehind_step {events : List Event} {state next : State} {event : Event}
    (ran : machine.run .initial events = some state) (meets : QueuesPanics state event)
    (stepped : step state event = some next) {drainIndex index : CrossingId}
    {drain drain' crossing crossing' : Crossing}
    (foundDrain : state.crossings[drainIndex]? = some drain)
    (found : state.crossings[index]? = some crossing) (laterDrain : drain.Later drain')
    (later : crossing.Later crossing') (promised : Promised next drainIndex drain' index crossing')
    (panicked : crossing.payload = some .rustPanic)
    (behind : PanicBehind drainIndex drain index crossing (state.loops drain.loop)) :
    PanicBehind drainIndex drain' index crossing' (next.loops drain'.loop) := by
  rw [laterDrain.loop]
  have becomes := step_loopBecomes stepped drain.loop
  rcases behind with cancelled | cancelled | absent | ordered
  · exact Or.inl (laterDrain.cancelled cancelled)
  · exact Or.inr (Or.inl (later.cancelled cancelled))
  · by_cases present : (next.loops drain.loop).Has drainIndex
    · rcases present with ⟨callback, member, own⟩
      rcases becomes.mem_log member with old | ⟨same, guard, nested, rfl, atOwn, _, held, stage⟩
      · exact absurd ⟨callback, old, own⟩ absent
      · -- The step queues the drain's True, so the condition speaks.
        rw [own] at meets atOwn
        cases atOwn.symm.trans foundDrain
        rcases promised.read with ⟨seen, read, below⟩
        rw [(laterDrain.payload _ held).2] at read
        have queued : drain.future = .pending -> PanicQueued state drain.loop index :=
          fun pending => meets drain foundDrain pending seen read index below
        cases future : drain.future with
        | absent =>
            have progress := run_progress ran foundDrain
            simp only [Crossing.Progress, stage] at progress
            exact absurd future progress.2.2
        | cancelled => exact Or.inl (laterDrain.cancelled future)
        | done payload =>
            have served := (run_logged ran).done drainIndex drain payload foundDrain future
            exact absurd ⟨_, EventLoop.mem_log_of_ran served, rfl⟩ absent
        | pending =>
            have sameLoop : crossing.loop = drain.loop := by
              rw [← later.loop, ← laterDrain.loop]
              exact promised.sameLoop
            rcases queued future crossing found (later.origin ▸ promised.tracked) panicked sameLoop
              with has | cancelled
            · exact Or.inr (Or.inr (Or.inr (becomes.ordered (.of_absent (Or.inr has) absent))))
            · exact Or.inr (Or.inl (later.cancelled cancelled))
    · exact Or.inr (Or.inr (Or.inl present))
  · exact Or.inr (Or.inr (Or.inr (becomes.ordered ordered)))

theorem run_panicBehind {events : List Event} {state : State}
    (along : machine.Along QueuesPanics .initial events)
    (ran : machine.run .initial events = some state) {drainIndex index : CrossingId}
    {drain crossing : Crossing} (promised : Promised state drainIndex drain index crossing)
    (panicked : crossing.payload = some .rustPanic) :
    PanicBehind drainIndex drain index crossing (state.loops drain.loop) := by
  have holds := every_promised QueuesPanics
    (fun state drainIndex drain index crossing => crossing.stage.beyondPolling = true ∧
      (crossing.payload = some .rustPanic ->
        PanicBehind drainIndex drain index crossing (state.loops drain.loop)))
    ?_ ?_ along ran promised
  · exact holds.2 panicked
  · intro events state drainIndex drain index crossing _ ran idle foundDrain stage found tracked _
    refine ⟨beyondPolling_of_idle ran idle found tracked, fun _ => ?_⟩
    exact Or.inr (Or.inr (Or.inl (not_has_of_polling ran foundDrain stage drain.loop)))
  · intro events state event next drainIndex drain drain' index crossing crossing' ran meets stepped
      foundDrain found laterDrain later promised holds
    have unchanged := later.beyond holds.1
    refine ⟨unchanged.1, fun panicked => ?_⟩
    rw [unchanged.2] at panicked
    exact panicBehind_step ran meets stepped foundDrain found laterDrain later promised panicked
      (holds.2 panicked)

/-- Runs that keep to the condition have the guarantee. -/
theorem panicsDone_of_along {events : List Event} {state : State}
    (ran : machine.run .initial events = some state)
    (along : machine.Along QueuesPanics .initial events) : state.PanicsDone := by
  intro drainIndex drain seen index crossing foundDrain answer read below found tracked panicked
    sameLoop
  have logged := run_logged ran
  have promised : Promised state drainIndex drain index crossing :=
    ⟨foundDrain, found, tracked, sameLoop, seen, read, below⟩
  have answered := logged.done drainIndex drain _ foundDrain answer
  rcases run_panicBehind along ran promised panicked with cancelled | cancelled | absent | ordered
  · cases cancelled.symm.trans answer
  · rw [cancelled]
    rfl
  · exact absurd ⟨_, EventLoop.mem_log_of_ran answered, rfl⟩ absent
  · exact ordered.finished logged foundDrain found answer

/-! ## The condition is needed -/

/-- A later state that differs only by callbacks: nothing was cancelled. -/
structure Served (state final : State) : Prop where
  later : forall (index : CrossingId) (crossing : Crossing),
    state.crossings[index]? = some crossing -> ∃ new, final.crossings[index]? = some new ∧
      crossing.Later new ∧ (new.future = .cancelled -> crossing.future = .cancelled)

theorem Crossing.Later.trans {first second third : Crossing} (early : first.Later second)
    (late : second.Later third) : first.Later third where
  origin := late.origin.trans early.origin
  loop := late.loop.trans early.loop
  under := late.under.trans early.under
  payload := by
    intro payload held
    have middle := early.payload payload held
    have last := late.payload payload middle.1
    exact ⟨last.1, last.2.trans middle.2⟩
  refused := late.refused ∘ early.refused
  beyond := by
    intro beyond
    have middle := early.beyond beyond
    have last := late.beyond middle.1
    exact ⟨last.1, last.2.trans middle.2⟩
  raised := late.raised ∘ early.raised
  present := late.present ∘ early.present
  isOver := by
    intro present isOver
    have middle := early.isOver present isOver
    exact (late.isOver (early.present present) (middle ▸ isOver)).trans middle

/-- An open or closed loop can always serve its queue to the end. -/
theorem serve_queue {events : List Event} {state : State}
    (ran : machine.run .initial events = some state) (loop : LoopId) :
    ∃ later final, machine.run state later = some final ∧
      (final.loops loop).ran = (state.loops loop).log ∧ Served state final := by
  generalize waiting : (state.loops loop).ready = queue
  induction queue generalizing events state with
  | nil =>
      refine ⟨[], state, rfl, by simp [EventLoop.log, waiting], ⟨fun index crossing found => ?_⟩⟩
      exact ⟨crossing, found, Crossing.later_refl crossing, id⟩
  | cons callback rest ih =>
      rcases (run_logged ran).known loop callback (EventLoop.mem_log_of_ready waiting) with
        ⟨crossing, found, _⟩
      have stepped : step state (.runCallback loop) = some ((state.setCrossing callback.crossing
          (crossing.runCallback callback.payload)).setLoop loop
          { state.loops loop with ready := rest, ran := (state.loops loop).ran ++ [callback] }) := by
        simp [step, waiting, found]
      generalize served : (state.setCrossing callback.crossing
        (crossing.runCallback callback.payload)).setLoop loop
        { state.loops loop with ready := rest, ran := (state.loops loop).ran ++ [callback] } = next
        at stepped
      have after : next.loops loop =
          { state.loops loop with ready := rest, ran := (state.loops loop).ran ++ [callback] } := by
        rw [← served]
        exact State.setLoop_same ..
      rcases ih (run_step ran stepped) (by rw [after]) with
        ⟨later, final, continued, emptied, rest'⟩
      refine ⟨.runCallback loop :: later, final,
        (machine.run_cons).mpr ⟨next, stepped, continued⟩, ?_, ⟨fun index old here => ?_⟩⟩
      · rw [emptied, after, EventLoop.log_ran waiting]
      · rcases step_later ran stepped here with ⟨middle, there, early⟩
        rcases rest'.later index middle there with ⟨new, last, late, uncancelled⟩
        refine ⟨new, last, early.trans late, fun cancelled => ?_⟩
        have before := uncancelled cancelled
        cases step_becomes stepped there with
        | submitted origin site loop under _ _ last' =>
            exact absurd (List.getElem?_eq_some_iff.mp here).1 (last' ▸ lt_irrefl _)
        | kept _ same =>
            cases here.symm.trans same
            exact before
        | acted _ _ _ _ event_eq _ _ => cases event_eq
        | emptied _ _ _ _ _ _ _ event_eq _ _ => cases event_eq
        | forwarded _ _ _ _ _ _ _ event_eq _ _ => cases event_eq
        | ran same _ _ _ _ atOld _ _ _ =>
            cases here.symm.trans atOld
            exact (PyFuture.settle_eq_cancelled _ _).mp before

/-- Queueing a callback completes nothing. -/
theorem future_of_enqueue {events : List Event} {state next : State} {drainIndex : CrossingId}
    (ran : machine.run .initial events = some state)
    (stepped : step state (.act drainIndex (.enqueue none)) = some next) {index : CrossingId}
    {old : Crossing} (found : state.crossings[index]? = some old) :
    ∃ new, next.crossings[index]? = some new ∧ old.Later new ∧ new.future = old.future := by
  rcases step_later ran stepped found with ⟨new, found', later⟩
  refine ⟨new, found', later, ?_⟩
  cases step_becomes stepped found' with
  | submitted origin site loop under event_eq _ _ => cases event_eq
  | kept _ same =>
      cases found.symm.trans same
      rfl
  | acted crossing action effect same event_eq acts _ =>
      cases found.symm.trans same
      cases event_eq
      cases acts
      rfl
  | emptied crossing caller calling guard nested below _ event_eq _ _ => cases event_eq
  | forwarded crossing called guard nested outer below _ event_eq _ _ => cases event_eq
  | ran crossing loop callback rest event_eq _ _ _ _ => cases event_eq

/-- The payload that a crossing queues is the last in its loop's queue. -/
theorem log_of_enqueue {state next : State} {index : CrossingId} {crossing : Crossing} {payload : Payload}
    (stepped : step state (.act index (.enqueue none)) = some next)
    (found : state.crossings[index]? = some crossing) (held : crossing.payload = some payload) :
    (next.loops crossing.loop).log = (state.loops crossing.loop).log ++ [⟨index, payload⟩] := by
  rcases step_act stepped with ⟨same, effect, atOwn, acts, rfl⟩
  cases found.symm.trans atOwn
  cases acts with
  | enqueue guard nested other stage own loopOpen =>
      cases held.symm.trans own
      rw [State.drop_loops, State.setLoop_same, EventLoop.log, EventLoop.callSoon, EventLoop.log,
        List.append_assoc]

/-- A future whose callback was run holds its payload, unless it was cancelled. -/
theorem State.Logged.done_of_ran {state : State} (logged : state.Logged) {loop : LoopId}
    {index : CrossingId} {payload : Payload} (member : ⟨index, payload⟩ ∈ (state.loops loop).ran)
    {crossing : Crossing} (found : state.crossings[index]? = some crossing)
    (going : crossing.future ≠ .cancelled) : crossing.future = .done payload := by
  rcases logged.known _ _ (EventLoop.mem_log_of_ran member) with ⟨same, atOwn, _, held, present⟩
  cases atOwn.symm.trans found
  cases future : crossing.future with
  | absent => exact absurd future present
  | pending => exact absurd future (logged.ran loop _ member crossing found)
  | cancelled => exact absurd future going
  | done other =>
      have own := logged.done index crossing other found future
      rcases logged.known _ _ (EventLoop.mem_log_of_ran own) with ⟨again, atOwn', _, held', _⟩
      cases atOwn'.symm.trans found
      cases held.symm.trans held'
      rfl

/-- Queue the True of a drain ahead of a `RustPanic` it speaks for, and let the
loop serve its queue: the drain is done and the panicked future is not. -/
theorem panicsDone_fails {events : List Event} {state next : State} {event : Event}
    (ran : machine.run .initial events = some state) (stepped : step state event = some next)
    (violated : ¬ QueuesPanics state event) :
    ∃ later final, machine.run next later = some final ∧ ¬ final.PanicsDone := by
  unfold QueuesPanics PanicQueued at violated
  split at violated
  · rename_i drainIndex
    push Not at violated
    rcases violated with ⟨drain, foundDrain, pending, seen, read, index, below, crossing, found,
      tracked, panicked, sameLoop, absent, alive⟩
    have reached := run_step ran stepped
    rcases serve_queue reached drain.loop with ⟨later, final, continued, emptied, served⟩
    refine ⟨later, final, continued, fun holds => ?_⟩
    have ended := run_logged ((machine.run_append).mpr ⟨next, reached, continued⟩)
    have answer := true_of_readZero ran foundDrain read
    have apart : index ≠ drainIndex := by
      rintro rfl
      cases found.symm.trans foundDrain
      cases panicked.symm.trans answer
    -- The drain's callback is the last one in the queue, and no other was added.
    have queued : (final.loops drain.loop).ran =
        (state.loops drain.loop).log ++ [⟨drainIndex, .drained true⟩] :=
      emptied.trans (log_of_enqueue stepped foundDrain answer)
    rcases future_of_enqueue ran stepped foundDrain with ⟨drain', foundDrain', early, sameFuture⟩
    rcases served.later drainIndex drain' foundDrain' with ⟨answering, last, late, uncancelled⟩
    have laterDrain := early.trans late
    have answered : answering.future = .done (.drained true) := by
      have member : ⟨drainIndex, .drained true⟩ ∈ (final.loops drain.loop).ran := by
        rw [queued]
        exact List.mem_append_right _ (List.mem_singleton_self _)
      refine ended.done_of_ran member last (fun cancelled => ?_)
      cases (pending.symm.trans sameFuture.symm).trans (uncancelled cancelled)
    rcases future_of_enqueue ran stepped found with ⟨crossing', found', early', sameFuture'⟩
    rcases served.later index crossing' found' with ⟨waiting, last', late', uncancelled'⟩
    have later := early'.trans late'
    have home : waiting.loop = drain.loop := later.loop.trans sameLoop
    have finished := holds drainIndex answering seen index waiting last answered
      ((laterDrain.payload _ answer).2.trans read) below last' (later.origin.trans tracked)
      (later.payload _ panicked).1 (home.trans laterDrain.loop.symm)
    cases future : waiting.future with
    | absent | pending =>
        rw [future] at finished
        cases finished
    | cancelled => exact alive (sameFuture'.symm.trans (uncancelled' future))
    | done payload =>
        have own := ended.done index waiting payload last' future
        rw [home, queued] at own
        rcases List.mem_append.mp own with before | itself
        · exact absent ⟨_, before, rfl⟩
        · cases List.mem_singleton.mp itself
          exact apart rfl
  · exact absurd trivial violated

/-- The exact condition under which a drain covers panics. -/
theorem drain_covers_panics {events : List Event} {state : State}
    (ran : machine.run .initial events = some state) :
    (machine.Along QueuesPanics .initial events -> state.PanicsDone) ∧
      forall (event : Event) (next : State), step state event = some next ->
        ¬ QueuesPanics state event ->
          ∃ later final, machine.run next later = some final ∧ ¬ final.PanicsDone :=
  ⟨panicsDone_of_along ran, fun _ _ stepped violated => panicsDone_fails ran stepped violated⟩

/-- A tracked future that panics and a drain on one loop. -/
def panickedPair : List Event :=
  [.submit .tracked (.running 0), .act 0 .buildProxy, .act 0 .enter, .submit .drain (.running 0),
    .act 1 .buildProxy, .act 1 .enter, .act 0 .panic, .act 1 .drainIdle]

def deliver (index : CrossingId) : List Event :=
  [.act index .commit, .act index .take, .act index (.isClosed none), .act index (.enqueue none),
    .act index .ret]

theorem drain_covers_panics_in_order :
    ∃ state, machine.run .initial (panickedPair ++ deliver 0 ++ deliver 1 ++
        [.runCallback 0, .runCallback 0]) = some state ∧
      state.crossings.map (·.future) = [.done .rustPanic, .done (.drained true)] ∧
      state.PanicsDone := by
  have observed : (machine.run .initial (panickedPair ++ deliver 0 ++ deliver 1 ++
      [.runCallback 0, .runCallback 0])).map (fun state => state.crossings.map (·.future)) =
      some [.done .rustPanic, .done (.drained true)] := by decide
  rcases Option.map_eq_some_iff.mp observed with ⟨state, ran, futures⟩
  exact ⟨state, ran, futures, (drain_covers_panics ran).1 (by decide)⟩

/-- Deliver the drain before the panic, and its True is there while the panicked
future is pending. -/
theorem drain_misses_a_panic :
    ¬ forall (events : List Event) (state : State), machine.run .initial events = some state ->
      state.PanicsDone := by
  intro claimed
  let panicked : Crossing :=
    ⟨.tracked, 0, [], .dropped, none, .live, .pending, .ready, some .rustPanic, none, none⟩
  let drain : Crossing :=
    ⟨.drain, 0, [], .dropped, none, .live, .done (.drained true), .finished (some (.ok ())),
      some (.drained true), none, some 2⟩
  have observed : (machine.run .initial (panickedPair ++ deliver 1 ++ [.runCallback 0])).map
      State.crossings = some [panicked, drain] := rfl
  rcases Option.map_eq_some_iff.mp observed with ⟨state, ran, crossings⟩
  have found : state.crossings[0]? = some panicked := by rw [crossings]; rfl
  have foundDrain : state.crossings[1]? = some drain := by rw [crossings]; rfl
  have finished := claimed _ state ran 1 drain 2 0 panicked foundDrain rfl rfl Nat.two_pos found rfl
    rfl rfl
  cases finished

end Bridge
end Lkrequest
