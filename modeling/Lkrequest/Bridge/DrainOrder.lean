import Lkrequest.Bridge.Delivery

namespace Lkrequest
namespace Bridge

open Foundations

/-!
# What Python has seen when it sees a drain's True

A drain reads the zero count on a tokio thread and its True travels to the loop
like every other payload.  By `settled_of_idle` the results it promises were
settled when it read the zero, so they stand in the loop's queue before it; the
loop serves its queue in order, so they are done when it is.
-/

/-! ## Results that never arrive -/

/-- The future is cancelled, or it is not done, nothing is waiting to complete
it, and nothing will be queued for it. -/
def NeverDone (index : CrossingId) (crossing : Crossing) (eventLoop : EventLoop) : Prop :=
  crossing.future = .cancelled ∨
    ((forall payload, crossing.future ≠ .done payload) ∧
      (∀ callback ∈ eventLoop.ready, callback.crossing ≠ index) ∧
      (eventLoop.closed = true ∨ crossing.raised.isSome = true))

/-- What is settled is with the loop or never arrives. -/
theorem Settled.cases {state : State} (logged : state.Logged) {index : CrossingId}
    {crossing : Crossing} (found : state.crossings[index]? = some crossing)
    (settled : Settled index crossing (state.loops crossing.loop)) :
    (state.loops crossing.loop).Has index ∨
      NeverDone index crossing (state.loops crossing.loop) := by
  by_cases has : (state.loops crossing.loop).Has index
  · exact Or.inl has
  · refine Or.inr ?_
    have notDone : forall payload, crossing.future ≠ .done payload := fun payload done =>
      has ⟨_, EventLoop.mem_log_of_ran (logged.done index crossing payload found done), rfl⟩
    have notReady : ∀ callback ∈ (state.loops crossing.loop).ready, callback.crossing ≠ index :=
      fun callback member own => has ⟨callback, List.mem_append_right _ member, own⟩
    rcases settled with present | closed | cancelled | raised
    · exact absurd present has
    · exact Or.inr ⟨notDone, notReady, Or.inl closed⟩
    · exact Or.inl cancelled
    · exact Or.inr ⟨notDone, notReady, Or.inr raised⟩

/-- Nothing but the crossing's own enqueue puts its callback in the queue. -/
theorem LoopBecomes.mem_ready {state next : State} {event : Event} {loop : LoopId} {new : EventLoop}
    (becomes : LoopBecomes state next event loop new) {callback : Callback}
    (member : callback ∈ new.ready) :
    callback ∈ (state.loops loop).ready ∨
      ∃ crossing guard nested, state.crossings[callback.crossing]? = some crossing ∧
        crossing.loop = loop ∧ crossing.stage = .delivering ⟨guard, nested, [], .loopOpen⟩ ∧
        ¬ (state.loops loop).closed = true := by
  cases becomes with
  | kept => exact Or.inl member
  | queued index crossing guard nested payload event_eq found own stage held loopOpen =>
      rcases List.mem_append.mp member with old | added
      · exact Or.inl old
      · cases List.mem_singleton.mp added
        exact Or.inr ⟨crossing, guard, nested, found, own, stage, loopOpen⟩
  | closed => cases member
  | ran other rest crossing queue after => exact Or.inl (queue ▸ List.mem_cons_of_mem _ member)

theorem neverDone_step {events : List Event} {state next : State} {event : Event}
    (ran : machine.run .initial events = some state) (stepped : step state event = some next)
    {index : CrossingId} {old new : Crossing} (found : state.crossings[index]? = some old)
    (found' : next.crossings[index]? = some new)
    (never : NeverDone index old (state.loops old.loop)) :
    NeverDone index new (next.loops new.loop) := by
  rcases step_later ran stepped found with ⟨same, present, later⟩
  cases found'.symm.trans present
  rcases never with cancelled | ⟨notDone, notReady, reason⟩
  · exact Or.inl (later.cancelled cancelled)
  · refine Or.inr ⟨?_, ?_, ?_⟩
    · intro payload done
      cases step_becomes stepped found' with
      | submitted origin site loop under _ _ last => cases done
      | kept _ same | emptied _ _ _ _ _ _ same _ _ _ | forwarded _ _ _ _ _ _ same _ _ _ =>
          cases found.symm.trans same
          exact notDone payload done
      | acted crossing action effect same _ acts _ =>
          cases found.symm.trans same
          exact notDone payload (acts.done done)
      | ran crossing loop callback rest _ same queue own _ =>
          -- The callback would have to wait in the crossing's own loop.
          cases found.symm.trans same
          rcases (run_logged ran).known loop callback (EventLoop.mem_log_of_ready queue) with
            ⟨other, atOwn, home, _, _⟩
          cases (own ▸ found).symm.trans atOwn
          exact notReady callback (home ▸ queue ▸ List.mem_cons_self) own
    · intro callback member own
      rw [later.loop] at member
      rcases (step_loopBecomes stepped old.loop).mem_ready member with waiting | fresh
      · exact notReady callback waiting own
      · rcases fresh with ⟨crossing, guard, nested, atOwn, _, stage, loopOpen⟩
        cases (own ▸ atOwn).symm.trans found
        have progress := run_progress ran found
        simp only [Crossing.Progress, stage] at progress
        rcases reason with closed | raised
        · exact loopOpen closed
        · rw [progress.2.1] at raised
          cases raised
    · rw [later.loop]
      rcases reason with closed | raised
      · exact Or.inl ((step_loopBecomes stepped old.loop).grows.closed closed)
      · exact Or.inr (later.raised raised)

theorem neverDone_run {events later : List Event} {state final : State}
    (ran : machine.run .initial events = some state) (continued : machine.run state later = some final)
    {index : CrossingId} {old new : Crossing} (found : state.crossings[index]? = some old)
    (found' : final.crossings[index]? = some new)
    (never : NeverDone index old (state.loops old.loop)) (payload : Payload) :
    new.future ≠ .done payload := by
  have holds : ∃ crossing, final.crossings[index]? = some crossing ∧
      NeverDone index crossing (final.loops crossing.loop) := by
    refine machine.run_invariant_reached
      (fun state => ∃ crossing, state.crossings[index]? = some crossing ∧
        NeverDone index crossing (state.loops crossing.loop))
      (fun labels state event next before holds stepped => ?_) ⟨old, found, never⟩ continued
    rcases holds with ⟨crossing, here, never⟩
    have reached := (machine.run_append).mpr ⟨_, ran, before⟩
    rcases step_later reached stepped here with ⟨new, there, _⟩
    exact ⟨new, there, neverDone_step reached stepped here there never⟩
  rcases holds with ⟨crossing, same, cancelled | ⟨notDone, _⟩⟩
  · cases found'.symm.trans same
    rw [cancelled]
    nofun
  · cases found'.symm.trans same
    exact notDone payload

/-! ## The drain is queued last -/

/-- The first crossing's callback stands before every callback of the second,
and will if the second is still to be queued. -/
structure Ordered (first second : CrossingId) (eventLoop : EventLoop) : Prop where
  placed : eventLoop.closed = true ∨ eventLoop.Has first
  ahead : Ahead (·.crossing = first) (·.crossing = second) eventLoop.log

theorem Ordered.of_absent {first second : CrossingId} {eventLoop : EventLoop}
    (placed : eventLoop.closed = true ∨ eventLoop.Has first) (absent : ¬ eventLoop.Has second) :
    Ordered first second eventLoop :=
  ⟨placed, ahead_of_absent (fun callback member own => absent ⟨callback, member, own⟩)⟩

/-- First in, first out. -/
theorem LoopBecomes.ordered {state next : State} {event : Event} {loop : LoopId} {new : EventLoop}
    {first second : CrossingId} (becomes : LoopBecomes state next event loop new)
    (ordered : Ordered first second (state.loops loop)) : Ordered first second new := by
  have placed : new.closed = true ∨ new.Has first := by
    have grows := becomes.grows
    rcases ordered.placed with closed | ⟨callback, member, own⟩
    · exact Or.inl (grows.closed closed)
    · rcases grows.log with closed | longer
      · exact Or.inl closed
      · exact Or.inr ⟨callback, longer.subset member, own⟩
  refine ⟨placed, ?_⟩
  cases becomes with
  | kept => exact ordered.ahead
  | queued index crossing guard nested payload event_eq found own stage held loopOpen =>
      rw [EventLoop.log, EventLoop.callSoon, ← List.append_assoc]
      exact ordered.ahead.snoc (ordered.placed.resolve_left loopOpen) _
  | closed =>
      rw [EventLoop.log, EventLoop.close, List.append_nil]
      exact ordered.ahead.of_prefix (List.prefix_append _ _)
  | ran callback rest crossing queue after =>
      rw [EventLoop.log_ran queue]
      exact ordered.ahead

/-- A crossing that a drain has left behind: nobody waits for it, or it is
ordered before the drain. -/
def Behind (drain index : CrossingId) (crossing : Crossing) (eventLoop : EventLoop) : Prop :=
  crossing.stage = .refused ∨ crossing.future = .cancelled ∨ crossing.raised.isSome = true ∨
    Ordered index drain eventLoop

theorem Behind.later {state next : State} {event : Event} {drain index : CrossingId} {old new : Crossing}
    {loop : LoopId} {eventLoop : EventLoop} (behind : Behind drain index old (state.loops loop))
    (later : old.Later new) (becomes : LoopBecomes state next event loop eventLoop) :
    Behind drain index new eventLoop := by
  rcases behind with refused | cancelled | raised | ordered
  · exact Or.inl (later.refused refused)
  · exact Or.inr (Or.inl (later.cancelled cancelled))
  · exact Or.inr (Or.inr (Or.inl (later.raised raised)))
  · exact Or.inr (Or.inr (Or.inr (becomes.ordered ordered)))

/-! ## Reading the zero -/

/-- A drain learns how much was submitted only by reading the zero. -/
theorem Acts.readZero {count : Int} {submitted : Nat} {eventLoop : EventLoop} {index : CrossingId}
    {crossing : Crossing} {action : Action} {effect : Effect} {seen : Nat}
    (acts : Acts count submitted eventLoop index crossing action effect)
    (read : effect.crossing.readZero = some seen) :
    crossing.readZero = some seen ∨
      (seen = submitted ∧ count = 0 ∧ crossing.stage = .polling) := by
  cases acts with
  | drainIdle stage origin zero => exact Or.inr ⟨(Option.some.inj read).symm, zero, stage⟩
  | _ => exact Or.inl read

theorem run_readZero {events : List Event} {state : State}
    (ran : machine.run .initial events = some state) {index : CrossingId} {crossing : Crossing}
    {seen : Nat} (found : state.crossings[index]? = some crossing)
    (read : crossing.readZero = some seen) : seen ≤ state.crossings.length := by
  refine machine.run_invariant
    (fun state => forall index (crossing : Crossing) seen, state.crossings[index]? = some crossing ->
      crossing.readZero = some seen -> seen ≤ state.crossings.length)
    (fun state event next holds stepped index new seen found read => ?_)
    (by intro index crossing seen found; cases found) ran index crossing seen found read
  refine le_trans ?_ (step_length stepped)
  cases step_becomes stepped found with
  | submitted origin site loop under _ _ last => cases read
  | kept _ old => exact holds index new seen old read
  | acted crossing action effect old _ acts _ =>
      rcases acts.readZero read with before | ⟨rfl, _, _⟩
      · exact holds index crossing seen old before
      · exact le_rfl
  | emptied crossing _ _ _ _ _ old _ _ _ | forwarded crossing _ _ _ _ _ old _ _ _ =>
      exact holds index crossing seen old read
  | ran crossing loop callback rest _ old _ _ _ => exact holds index crossing seen old read

/-- A drain that read the zero answers True. -/
theorem true_of_readZero {events : List Event} {state : State}
    (ran : machine.run .initial events = some state) {index : CrossingId} {crossing : Crossing}
    {seen : Nat} (found : state.crossings[index]? = some crossing)
    (read : crossing.readZero = some seen) : crossing.payload = some (.drained true) := by
  have holds := every_crossing
    (fun crossing => crossing.Progress ∧
      (crossing.readZero.isSome = true -> crossing.payload = some (.drained true)))
    (fun _ _ _ _ _ => ⟨⟨rfl, rfl, rfl, rfl⟩, nofun⟩) (fun holds acts => ⟨acts.progress holds.1, ?_⟩)
    (fun _ holds => holds) (fun _ _ _ _ _ _ holds stage => ⟨holds.1.forwarded stage, holds.2⟩)
    (fun _ payload holds => ⟨holds.1.runCallback payload, holds.2⟩) ran found
  · exact holds.2 (by rw [read]; rfl)
  · rcases holds with ⟨progress, answers⟩
    cases acts with
    | complete result stage origin => simp_all [Crossing.Progress, Crossing.complete]
    | drainIdle stage origin zero => exact fun _ => rfl
    | drainTimeout stage origin => simp_all [Crossing.Progress, Crossing.complete]
    | panic stage origin => simp_all [Crossing.Progress]
    | _ => exact answers

/-- True comes from nothing but the zero. -/
theorem readZero_of_true {events : List Event} {state : State}
    (ran : machine.run .initial events = some state) {index : CrossingId} {crossing : Crossing}
    (found : state.crossings[index]? = some crossing)
    (answer : crossing.payload = some (.drained true)) : ∃ seen, crossing.readZero = some seen := by
  refine every_crossing
    (fun crossing => crossing.payload = some (.drained true) -> ∃ seen, crossing.readZero = some seen)
    (fun _ _ _ _ _ => nofun) (fun holds acts => ?_) (fun _ holds => holds)
    (fun _ _ _ _ _ _ holds _ => holds) (fun _ _ holds => holds) ran found answer
  cases acts with
  | complete result stage origin => nofun
  | drainIdle stage origin zero => exact fun _ => ⟨_, rfl⟩
  | drainTimeout stage origin => nofun
  | panic stage origin => nofun
  | _ => exact holds

/-- The drain read the zero when the tracked crossing, on the same loop, had
been submitted. -/
structure Promised (state : State) (drainIndex : CrossingId) (drain : Crossing)
    (index : CrossingId) (crossing : Crossing) : Prop where
  foundDrain : state.crossings[drainIndex]? = some drain
  found : state.crossings[index]? = some crossing
  tracked : crossing.origin = .tracked
  sameLoop : crossing.loop = drain.loop
  read : ∃ seen, drain.readZero = some seen ∧ index < seen

/-- What holds of a tracked crossing and a drain on one loop when the drain is
polled at a count of zero, and is kept by every step, holds of everything that
was promised. -/
theorem every_promised (ok : State -> Event -> Prop)
    (Inv : State -> CrossingId -> Crossing -> CrossingId -> Crossing -> Prop)
    (reads : forall {events state drainIndex drain index crossing},
      machine.Along ok .initial events -> machine.run .initial events = some state ->
        state.inFlight.count = 0 -> state.crossings[drainIndex]? = some drain ->
          drain.stage = .polling -> state.crossings[index]? = some crossing ->
            crossing.origin = .tracked -> crossing.loop = drain.loop ->
              Inv state drainIndex drain index crossing)
    (keeps : forall {events state event next drainIndex drain drain' index crossing crossing'},
      machine.run .initial events = some state -> ok state event -> step state event = some next ->
        state.crossings[drainIndex]? = some drain -> state.crossings[index]? = some crossing ->
          drain.Later drain' -> crossing.Later crossing' ->
            Promised next drainIndex drain' index crossing' ->
              Inv state drainIndex drain index crossing ->
                Inv next drainIndex drain' index crossing')
    {events : List Event} {state : State} (along : machine.Along ok .initial events)
    (ran : machine.run .initial events = some state) {drainIndex : CrossingId} {drain : Crossing}
    {index : CrossingId} {crossing : Crossing}
    (promised : Promised state drainIndex drain index crossing) :
    Inv state drainIndex drain index crossing := by
  refine machine.run_invariant_along ok
    (fun state => forall {drainIndex drain index crossing},
      Promised state drainIndex drain index crossing -> Inv state drainIndex drain index crossing)
    (fun early state event next met before holds meets stepped drainIndex drain' index crossing' promised
      => ?_) (fun promised => by cases promised.found) along ran promised
  rcases promised.read with ⟨seen, read, below⟩
  -- Either the drain had read the zero before, or it is polled at a count of zero.
  have history : ∃ drain, state.crossings[drainIndex]? = some drain ∧
      index < state.crossings.length ∧ (drain.readZero = some seen ∨
        (state.inFlight.count = 0 ∧ drain.stage = .polling)) := by
    cases step_becomes stepped promised.foundDrain with
    | submitted origin site loop under _ _ last => cases read
    | kept _ old => exact ⟨_, old, lt_of_lt_of_le below (run_readZero before old read), Or.inl read⟩
    | acted drain action effect old _ acts _ =>
        rcases acts.readZero read with earlier | ⟨rfl, idle, stage⟩
        · exact ⟨_, old, lt_of_lt_of_le below (run_readZero before old earlier), Or.inl earlier⟩
        · exact ⟨_, old, below, Or.inr ⟨idle, stage⟩⟩
    | emptied drain _ _ _ _ _ old _ _ _ | forwarded drain _ _ _ _ _ old _ _ _ =>
        exact ⟨_, old, lt_of_lt_of_le below (run_readZero before old read), Or.inl read⟩
    | ran drain loop callback rest _ old _ _ _ =>
        exact ⟨_, old, lt_of_lt_of_le below (run_readZero before old read), Or.inl read⟩
  rcases history with ⟨drain, foundDrain, inside, reading⟩
  rcases (⟨_, List.getElem?_eq_getElem inside⟩ : ∃ old, state.crossings[index]? = some old) with
    ⟨crossing, found⟩
  rcases step_later before stepped foundDrain with ⟨_, sameDrain, laterDrain⟩
  cases promised.foundDrain.symm.trans sameDrain
  rcases step_later before stepped found with ⟨_, same, later⟩
  cases promised.found.symm.trans same
  have tracked := later.origin ▸ promised.tracked
  have sameLoop : crossing.loop = drain.loop := by
    rw [← later.loop, ← laterDrain.loop]
    exact promised.sameLoop
  refine keeps before meets stepped foundDrain found laterDrain later promised ?_
  rcases reading with earlier | ⟨idle, stage⟩
  · exact holds ⟨foundDrain, found, tracked, sameLoop, seen, earlier, below⟩
  · exact reads met before idle foundDrain stage found tracked sameLoop

/-- At the moment of the reading the drain is not in the queue yet. -/
theorem behind_of_idle {events : List Event} {state : State}
    (along : machine.Along SparesParked .initial events)
    (ran : machine.run .initial events = some state) (idle : state.inFlight.count = 0)
    {drainIndex index : CrossingId} {drain crossing : Crossing}
    (foundDrain : state.crossings[drainIndex]? = some drain) (stage : drain.stage = .polling)
    (found : state.crossings[index]? = some crossing) (normal : crossing.Normal) :
    Behind drainIndex index crossing (state.loops crossing.loop) := by
  have absent := not_has_of_polling ran foundDrain stage crossing.loop
  rcases settled_of_idle along ran idle found normal with refused | has | closed | cancelled | raised
  · exact Or.inl refused
  · exact Or.inr (Or.inr (Or.inr (.of_absent (Or.inr has) absent)))
  · exact Or.inr (Or.inr (Or.inr (.of_absent (Or.inl closed) absent)))
  · exact Or.inr (Or.inl cancelled)
  · exact Or.inr (Or.inr (Or.inl raised))

/-- A drain that read the zero has left every normal crossing of its loop
behind that was submitted before. -/
theorem run_behind {events : List Event} {state : State}
    (along : machine.Along SparesParked .initial events)
    (ran : machine.run .initial events = some state) {drainIndex index : CrossingId}
    {drain crossing : Crossing} (promised : Promised state drainIndex drain index crossing)
    (normal : crossing.payload ≠ some .rustPanic) :
    Behind drainIndex index crossing (state.loops drain.loop) := by
  refine every_promised SparesParked
    (fun state drainIndex drain index crossing => crossing.payload ≠ some .rustPanic ->
      Behind drainIndex index crossing (state.loops drain.loop))
    ?_ ?_ along ran promised normal
  · intro events state drainIndex drain index crossing along ran idle foundDrain stage found tracked
      sameLoop normal
    exact sameLoop ▸ behind_of_idle along ran idle foundDrain stage found ⟨tracked, normal⟩
  · intro events state event next drainIndex drain drain' index crossing crossing' ran _ stepped _ _
      laterDrain later promised holds normal
    have earlier := holds (fun panicked => normal (later.payload _ panicked).1)
    rw [laterDrain.loop]
    exact earlier.later later (step_loopBecomes stepped drain.loop)

/-! ## The guarantee -/

/-- Done or cancelled. -/
def PyFuture.isFinished : PyFuture -> Bool
  | .done _ | .cancelled => true
  | _ => false

theorem PyFuture.isFinished_of {future : PyFuture} (present : future ≠ .absent)
    (isOver : future ≠ .pending) : future.isFinished = true := by
  cases future with
  | absent => exact absurd rfl present
  | pending => exact absurd rfl isOver
  | _ => rfl

/-- What is ordered before a drain is done when the drain is. -/
theorem Ordered.finished {state : State} (logged : state.Logged) {drainIndex index : CrossingId}
    {drain crossing : Crossing} {payload : Payload}
    (foundDrain : state.crossings[drainIndex]? = some drain)
    (found : state.crossings[index]? = some crossing) (answer : drain.future = .done payload)
    (ordered : Ordered index drainIndex (state.loops drain.loop)) :
    crossing.future.isFinished = true := by
  have answered := logged.done drainIndex drain payload foundDrain answer
  rcases ordered.ahead.served (List.prefix_append _ _) ⟨_, answered, rfl⟩ with
    ⟨callback, member, own⟩
  rcases logged.known drain.loop callback (EventLoop.mem_log_of_ran member) with
    ⟨same, atOwn, _, _, present⟩
  cases (own ▸ atOwn).symm.trans found
  exact PyFuture.isFinished_of present
    (logged.ran drain.loop callback member crossing (own.symm ▸ found))

/-- While the count is zero, every normal result is in its loop's queue or has
been run, or is settled for a reason that keeps it from ever being delivered. -/
def State.ResultsQueued (state : State) : Prop :=
  state.inFlight.count = 0 -> forall (index : CrossingId) (crossing : Crossing),
    state.crossings[index]? = some crossing -> crossing.Normal -> crossing.stage ≠ .refused ->
      (state.loops crossing.loop).Has index ∨
        (((state.loops crossing.loop).closed = true ∨ crossing.future = .cancelled ∨
            crossing.raised.isSome = true) ∧
          forall later final (new : Crossing) payload, machine.run state later = some final ->
            final.crossings[index]? = some new -> new.future ≠ .done payload)

/-- When the future of a drain holds True, every normal future of its loop that
was submitted before the drain read the zero is over, unless it was refused or
the loop's own method raised. -/
def State.DrainCovers (state : State) : Prop :=
  forall (drainIndex : CrossingId) (drain : Crossing),
    state.crossings[drainIndex]? = some drain -> drain.future = .done (.drained true) ->
      ∃ seen, drain.readZero = some seen ∧
        forall (index : CrossingId) (crossing : Crossing), index < seen ->
          state.crossings[index]? = some crossing -> crossing.Normal -> crossing.loop = drain.loop ->
            crossing.stage = .refused ∨ crossing.raised.isSome = true ∨
              crossing.future.isFinished = true

/-- A tracked future, one that is submitted while it is polled and delivered
through its proxy, and a drain, up to the callback of the drain. -/
def deliveredEvents : List Event :=
  [.submit .tracked (.running 0), .act 0 .buildProxy, .act 0 .enter, .submit .tracked (.within 0),
    .act 1 .buildProxy, .act 1 .enter, .submit .drain (.running 0), .act 2 .buildProxy, .act 2 .enter,
    .act 1 (.complete (.ok 8)), .act 1 .commit, .act 1 .take, .act 1 (.isClosed none), .forward 1,
    .act 1 (.isClosed none), .act 1 (.enqueue none), .act 1 .ret, .act 1 .ret,
    .act 0 (.complete (.ok 7)), .act 0 .commit, .act 0 .take, .act 0 (.isClosed none),
    .act 0 (.enqueue none), .act 0 .ret, .act 2 .drainIdle, .act 2 .commit, .act 2 .take,
    .act 2 (.isClosed none), .act 2 (.enqueue none), .act 2 .ret, .runCallback 0, .runCallback 0,
    .runCallback 0]

/-- A hook of future 0 submits future 1, and both return.  The delivery of 1
takes the guard of 0 from its slot and drops it.  The drain reads a zero then,
and its True is there before the result of 0 is in any queue. -/
def takenEvents : List Event :=
  [.submit .tracked (.running 0), .act 0 .buildProxy, .act 0 .enter, .submit .tracked (.within 0),
    .act 1 .buildProxy, .act 1 .enter, .submit .drain (.running 0), .act 2 .buildProxy, .act 2 .enter,
    .act 0 (.complete (.ok 7)), .act 1 (.complete (.ok 8)), .act 1 .commit, .act 1 .take,
    .act 1 (.isClosed none), .forward 1, .act 1 (.isClosed none), .act 1 (.enqueue none), .act 1 .ret,
    .act 1 .ret, .act 2 .drainIdle, .act 2 .commit, .act 2 .take, .act 2 (.isClosed none),
    .act 2 (.enqueue none), .act 2 .ret, .runCallback 0, .runCallback 0]

end Bridge
end Lkrequest
