import Lkrequest.Bridge.WindDown
import Lkrequest.Session.InFlight

namespace Lkrequest
namespace Session
namespace InFlight

open Foundations

/-!
# Closing the sessions, and draining

A shutdown must not depend on the server.  Once the sessions of the requests in
flight are closed, each of those requests ends at its next polls, so that the
bridge winds down and a drain returns, even when no answer ever comes.  The work
of a request may also end by itself, with a result or a panic, before its poll
looks at the channel.  Crossings that are no requests are taken to come to an end
by themselves.
-/

/-! ## What is left to do -/

/-- The parts of a poll, and its end. -/
def isPoll : GuardEvent PyObject -> Bool
  | .poll _ _ | .pollWork _ _ | .pollClosed _ | .drop _ => true
  | _ => false

/-- Everything but a new future or session, a cancellation, and the timeout of a
drain.  Whether the work of a request ever comes to an end is open. -/
def isOwn : Event -> Bool
  | .first event => event.isOwn
  | .second polled => isPoll polled
  | .both (.act _ _) polled => isPoll polled
  | .both _ _ => false

/-- Each live request belongs to a session that was closed. -/
def AllClosed (guards : Guards PyObject) : Prop :=
  ∀ guard ∈ guards.guards, guard.stage.isLive = true -> guards.IsClosed guard.session

/-- A poll that is under way has some of its branches to come. -/
def Begun (guards : Guards PyObject) : Prop :=
  ∀ guard ∈ guards.guards, forall remaining, guard.stage = .polling remaining ->
    remaining ≠ [] ∧ ∃ order : Order, remaining <:+ order.branches

/-- The polls before a future on a closed session is resolved, and one more for a
poll that has looked at the channel already. -/
def pollsLeft : GuardStage PyObject -> Nat
  | .captured | .pending => 4
  | .polling [.work] => 5
  | .polling remaining => remaining.length + 1
  | .resolved _ _ | .dropped => 0

def World.stepsLeft (world : World) : Nat :=
  world.first.stepsLeft + (world.second.guards.map (fun guard => pollsLeft guard.stage)).sum

section Polls

variable {guards after : Guards PyObject} {polled : GuardEvent PyObject}

theorem begun_next {remaining : List Branch} {order : Order} (suffix : remaining <:+ order.branches)
    {later : List Branch} (stage : (GuardStage.next remaining : GuardStage PyObject) = .polling later) :
    later ≠ [] ∧ ∃ order : Order, later <:+ order.branches := by
  cases remaining with
  | nil => cases stage
  | cons branch rest =>
      cases stage
      exact ⟨List.cons_ne_nil _ _, order, suffix⟩

theorem Begun.step (begun : Begun guards) (stepped : guardStep guards polled = some after) : Begun after := by
  intro guard among remaining stage
  rcases List.getElem?_of_mem among with ⟨index, found⟩
  rcases Guards.guard_step stepped found with same | ⟨_, new, _⟩ | ⟨old, found', _, moved⟩
  · exact begun guard (List.mem_of_getElem? same) remaining stage
  · cases new.symm.trans stage
  · have before := begun old (List.mem_of_getElem? found')
    generalize guard.stage = now at moved stage
    cases moved with
    | poll order idle =>
        cases stage
        exact ⟨by cases order <;> exact List.cons_ne_nil _ _, order, List.suffix_refl _⟩
    | workReady => cases stage
    | workPending rest was =>
        rcases before _ was with ⟨_, order, suffix⟩
        exact begun_next ((List.suffix_cons _ rest).trans suffix) stage
    | closedReady => cases stage
    | closedPending shared rest session was waiting =>
        rcases before _ was with ⟨_, order, suffix⟩
        exact begun_next ((List.suffix_cons _ rest).trans suffix) stage
    | drop => cases stage

theorem run_begun {past : List (GuardEvent PyObject)}
    (ran : (guardMachine PyObject).run .initial past = some guards) : Begun guards := by
  refine (guardMachine PyObject).run_invariant Begun (fun _ _ _ begun stepped => begun.step stepped) ?_ ran
  intro guard among
  cases among

theorem AllClosed.step (closed : AllClosed guards) (stepped : guardStep guards polled = some after)
    (notClosing : forall session, polled ≠ .closing session) : AllClosed after := by
  intro guard among live
  rcases List.getElem?_of_mem among with ⟨index, found⟩
  have before : ∃ old ∈ guards.guards, guard.session = old.session ∧ old.stage.isLive = true := by
    rcases Guards.guard_step stepped found with same | ⟨_, _, session, closing⟩ | ⟨old, found', session, moved⟩
    · exact ⟨guard, List.mem_of_getElem? same, rfl, live⟩
    · exact absurd closing (notClosing session)
    · refine ⟨old, List.mem_of_getElem? found', session, ?_⟩
      generalize guard.stage = now at moved live
      cases moved with
      | poll order idle => exact idle.isLive
      | workReady => cases live
      | workPending rest was =>
          rw [was]
          rfl
      | closedReady => cases live
      | closedPending shared rest _ was waiting =>
          rw [was]
          rfl
      | drop => cases live
  rcases before with ⟨old, among, session, live⟩
  rw [session]
  exact (Guards.isClosed_step stepped _).mpr (Or.inl (closed old among live))

theorem waitedFor_of_closed {session : SessionId} {shared : Shared} (closed : guards.IsClosed session)
    (found : guards.sessions[session]? = some shared) : shared.channel.waitedFor = true := by
  rcases closed with ⟨same, found', value⟩
  cases found.symm.trans found'
  unfold Channel.waitedFor
  rw [value]
  rfl

theorem pollsLeft_setGuard {index : Nat} {old new : Guard PyObject} (found : guards.guards[index]? = some old)
    (less : pollsLeft new.stage < pollsLeft old.stage) :
    ((guards.guards.set index new).map (fun guard => pollsLeft guard.stage)).sum <
      (guards.guards.map (fun guard => pollsLeft guard.stage)).sum := by
  have share := sum_map_set (fun guard : Guard PyObject => pollsLeft guard.stage) found new
  omega

theorem workLast_or_closedLast {remaining : List Branch} {order : Order}
    (suffix : .work :: remaining <:+ order.branches) : remaining = [] ∨ remaining = [.closed] := by
  cases order with
  | workFirst =>
      rw [Order.branches, List.suffix_cons_iff, List.suffix_cons_iff, List.suffix_nil] at suffix
      rcases suffix with same | same | same <;> cases same
      exact Or.inr rfl
  | closedFirst =>
      rw [Order.branches, List.suffix_cons_iff, List.suffix_cons_iff, List.suffix_nil] at suffix
      rcases suffix with same | same | same <;> cases same
      exact Or.inl rfl

/-- On closed sessions each part of a poll brings the future nearer to its end,
and the end nearer still. -/
theorem pollsLeft_less (stepped : guardStep guards polled = some after) (begun : Begun guards)
    (closed : AllClosed guards) (polls : isPoll polled = true) :
    (after.guards.map (fun guard => pollsLeft guard.stage)).sum <
      (guards.guards.map (fun guard => pollsLeft guard.stage)).sum := by
  cases guardStep_steps stepped with
  | session | cloneHandle | dropHandle | ensureOpen | closing | close => cases polls
  | poll index order guard found idle =>
      refine pollsLeft_setGuard found ?_
      rcases idle with stage | stage <;> rw [stage] <;> cases order <;> exact Nat.lt_succ_self 3
  | workReady index guard result shared remaining found session stage =>
      refine pollsLeft_setGuard found ?_
      rw [stage]
      cases remaining <;> exact Nat.succ_pos _
  | workPending index guard remaining found stage =>
      refine pollsLeft_setGuard found ?_
      rcases begun guard (List.mem_of_getElem? found) _ stage with ⟨_, order, suffix⟩
      rw [stage]
      rcases workLast_or_closedLast suffix with rfl | rfl
      · exact Nat.lt_succ_self 4
      · exact Nat.lt_succ_self 2
  | closedReady index guard shared remaining found session stage ready =>
      refine pollsLeft_setGuard found ?_
      rw [stage]
      exact Nat.succ_pos _
  | closedPending index guard shared remaining found session stage waiting =>
      have live : guard.stage.isLive = true := by rw [stage]; rfl
      exact absurd (waitedFor_of_closed (closed guard (List.mem_of_getElem? found) live) session) waiting
  | drop index guard shared found session idle =>
      refine pollsLeft_setGuard found ?_
      rcases idle with stage | stage <;> rw [stage] <;> exact Nat.succ_pos _

end Polls

/-! ## The shutdown -/

section Progress

variable {world next final : World} {event : Event} {events : List Event}

/-- A reached world in which the sessions of all requests in flight were closed. -/
def Quitting (world : World) : Prop :=
  (∃ past, coupling.machine.run initial past = some world) ∧ AllClosed world.second

theorem Quitting.begun (quitting : Quitting world) : Begun world.second := by
  rcases quitting with ⟨⟨past, ran⟩, _⟩
  exact run_begun (Coupling.run_second ran)

theorem own_of_drops {id : Bridge.CrossingId} {action : Bridge.Action} (drops : dropsInner action = true) :
    (Bridge.Event.act id action).isOwn = true := by
  cases action <;> first | rfl | cases drops

theorem Meets.own {id : Bridge.CrossingId} {action : Bridge.Action} {polled : GuardEvent PyObject}
    (meets : Meets world (.act id action) polled) : (Bridge.Event.act id action).isOwn = true := by
  cases meets with
  | returned | closed => rfl
  | dropped linked drops => exact own_of_drops drops

theorem Quitting.step (quitting : Quitting world) (own : isOwn event = true)
    (stepped : coupling.step world event = some next) : Quitting next ∧ next.link = world.link := by
  rcases quitting with ⟨⟨past, ran⟩, closed⟩
  have reached : ∃ past, coupling.machine.run initial past = some next :=
    ⟨past ++ [event], coupling.machine.run_snoc ran stepped⟩
  cases step_happens stepped with
  | bridge allowed moved => exact ⟨⟨reached, closed⟩, rfl⟩
  | guards allowed moved => exact ⟨⟨reached, closed.step moved (allows_second allowed).1⟩, rfl⟩
  | request moved too => cases own
  | together meets moved too =>
      exact ⟨⟨reached, closed.step too meets.notClosing⟩, rfl⟩

theorem Quitting.less (quitting : Quitting world) (own : isOwn event = true)
    (stepped : coupling.step world event = some next) : next.stepsLeft < world.stepsLeft := by
  have begun := quitting.begun
  rcases quitting with ⟨⟨past, ran⟩, closed⟩
  have before := Coupling.run_first ran
  unfold World.stepsLeft
  cases step_happens stepped with
  | bridge allowed moved => exact Nat.add_lt_add_right (Bridge.step_stepsLeft_lt before own moved) _
  | guards allowed moved => exact Nat.add_lt_add_left (pollsLeft_less moved begun closed own) _
  | request moved too => cases own
  | together meets moved too =>
      exact Nat.add_lt_add (Bridge.step_stepsLeft_lt before meets.own moved) (pollsLeft_less too begun closed own)

theorem settling : Settling coupling.machine (fun event => isOwn event = true) Quitting World.stepsLeft where
  keeps := fun quitting own stepped => (quitting.step own stepped).1
  decreases := fun quitting own stepped => quitting.less own stepped

/-! ### Nobody is stuck -/

theorem first_enabled {moved : Bridge.Event} (allowed : allows world (.first moved) = true)
    (enabled : Bridge.step world.first moved ≠ none) : coupling.step world (.first moved) ≠ none := by
  rcases Option.ne_none_iff_exists'.mp enabled with ⟨first, stepped⟩
  rw [(coupling.step_eq_some).mpr (.first allowed stepped)]
  exact Option.some_ne_none _

theorem second_enabled {polled : GuardEvent PyObject} (allowed : allows world (.second polled) = true)
    (enabled : guardStep world.second polled ≠ none) : coupling.step world (.second polled) ≠ none := by
  rcases Option.ne_none_iff_exists'.mp enabled with ⟨second, stepped⟩
  rw [(coupling.step_eq_some).mpr (.second allowed stepped)]
  exact Option.some_ne_none _

theorem both_enabled {moved : Bridge.Event} {polled : GuardEvent PyObject}
    (allowed : allows world (.both moved polled) = true) (enabled : Bridge.step world.first moved ≠ none)
    (too : guardStep world.second polled ≠ none) : coupling.step world (.both moved polled) ≠ none := by
  rcases Option.ne_none_iff_exists'.mp enabled with ⟨first, stepped⟩
  rcases Option.ne_none_iff_exists'.mp too with ⟨second, also⟩
  rw [(coupling.step_eq_some).mpr (.both allowed stepped also)]
  exact Option.some_ne_none _

theorem allows_gentle {id : Bridge.CrossingId} {action : Bridge.Action} (gentle : endsInner action = false) :
    allows world (.first (.act id action)) = true := by
  change (!(world.link.contains id && endsInner action)) = true
  rw [gentle, Bool.and_false]
  rfl

/-- A future that is being submitted is never held up. -/
theorem entered_of_rests (rests : AtRest coupling.machine (fun event => isOwn event = true) world)
    {id : Bridge.CrossingId} {crossing : Bridge.Crossing} (found : world.first.crossings[id]? = some crossing) :
    crossing.stage ≠ .submitting ∧ crossing.stage ≠ .proxied := by
  have still : forall action, endsInner action = false -> Bridge.Event.isOwn (.act id action) = true ->
      Bridge.step world.first (.act id action) = none := by
    intro action gentle own
    by_contra enabled
    exact first_enabled (allows_gentle gentle) enabled (rests (.first (.act id action)) own)
  constructor
  · intro stage
    have stepped := Bridge.act_step .buildProxy found (by unfold Bridge.act; rw [stage])
      (fun _ _ => Bool.and_false _)
    cases (still .buildProxy rfl rfl).symm.trans stepped
  · intro stage
    have stepped := Bridge.act_step .enter found (by unfold Bridge.act; rw [stage])
      (fun _ _ => Bool.and_false _)
    cases (still .enter rfl rfl).symm.trans stepped

/-- No submission is under way, so the wrapper of a future that is polled can return. -/
theorem complete_enabled (rests : AtRest coupling.machine (fun event => isOwn event = true) world)
    {id : Bridge.CrossingId} {crossing : Bridge.Crossing} (found : world.first.crossings[id]? = some crossing)
    (tracked : crossing.origin = .tracked) (stage : crossing.stage = .polling) (result : Except PyErr PyObject) :
    Bridge.step world.first (.act id (.complete result)) ≠ none := by
  have free : ∀ inner ∈ world.first.crossings,
      Bridge.State.waitsFor id (.complete result) inner = false := by
    intro inner member
    rcases List.getElem?_of_mem member with ⟨_, foundInner⟩
    have entered := entered_of_rests rests foundInner
    refine Bool.eq_false_iff.mpr (fun waits => ?_)
    rcases (Bridge.waitsFor_cases waits).2 with ⟨absurd, _⟩ | submitting | proxied
    · cases absurd
    · exact entered.1 submitting
    · exact entered.2 proxied
  have acted : (Bridge.act world.first.inFlight.count world.first.crossings.length
      (world.first.loops crossing.loop) id crossing (.complete result)).isSome = true := by
    simp [Bridge.act, stage, tracked]
  rcases Option.isSome_iff_exists.mp acted with ⟨effect, acted⟩
  rw [Bridge.act_step _ found acted free]
  exact Option.some_ne_none _

/-- On a closed session a future that is polled goes on, and ends with its wrapper. -/
theorem future_enabled {past : List (GuardEvent PyObject)}
    (rests : AtRest coupling.machine (fun event => isOwn event = true) world)
    (ran : (guardMachine PyObject).run .initial past = some world.second) (begun : Begun world.second)
    (closed : AllClosed world.second) {index : Nat} {id : Bridge.CrossingId}
    (linkedTo : world.link[index]? = some id) {crossing : Bridge.Crossing}
    (found : world.first.crossings[id]? = some crossing) {guard : Guard PyObject}
    (foundGuard : world.second.guards[index]? = some guard) (polled : isPolled world index = true)
    (stage : crossing.stage = .polling) (paired : Paired crossing guard) :
    ∃ event, isOwn event = true ∧ coupling.step world event ≠ none := by
  have live : guard.stage.isLive = true := by
    rw [paired.alive, stage]
    rfl
  have among := List.mem_of_getElem? foundGuard
  have session := List.getElem?_eq_getElem ((Guards.Counted.run ran).placed guard among)
  cases at' : guard.stage with
  | captured =>
      refine ⟨.second (.poll index .workFirst), rfl, second_enabled polled ?_⟩
      simp [guardStep, foundGuard, at']
  | pending =>
      refine ⟨.second (.poll index .workFirst), rfl, second_enabled polled ?_⟩
      simp [guardStep, foundGuard, at']
  | polling remaining =>
      rcases remaining with _ | ⟨_ | _, rest⟩
      · exact absurd rfl (begun guard among [] at').1
      · refine ⟨.second (.pollWork index none), rfl, second_enabled polled ?_⟩
        simp [guardStep, foundGuard, session, at']
      · have ready := waitedFor_of_closed (closed guard among live) session
        refine ⟨.both (.act id (.complete (.error closedInFlight))) (.pollClosed index), rfl,
          both_enabled ?_ ?_ ?_⟩
        · exact (Bool.and_eq_true_iff).mpr
            ⟨decide_eq_true ⟨linkedTo, rfl⟩, (answers_eq foundGuard session).trans ready⟩
        · exact complete_enabled rests found paired.origin stage _
        · simp [guardStep, foundGuard, session, at', ready]
  | resolved branch result =>
      rw [at'] at live
      cases live
  | dropped =>
      rw [at'] at live
      cases live

/-- A request whose wrapper is still there goes on, whatever the server does. -/
theorem request_enabled (quitting : Quitting world)
    (rests : AtRest coupling.machine (fun event => isOwn event = true) world) {index : Nat}
    {id : Bridge.CrossingId} (linkedTo : world.link[index]? = some id) {crossing : Bridge.Crossing}
    (found : world.first.crossings[id]? = some crossing) (early : crossing.stage.beyondPolling = false) :
    ∃ event, isOwn event = true ∧ coupling.step world event ≠ none := by
  have begun := quitting.begun
  have entered := entered_of_rests rests found
  rcases quitting with ⟨⟨past, ran⟩, closed⟩
  rcases (run_linked ran).paired index id linkedTo with ⟨_, guard, found', foundGuard, paired⟩
  cases found.symm.trans found'
  cases stage : crossing.stage with
  | submitting => exact absurd stage entered.1
  | proxied => exact absurd stage entered.2
  | polling =>
      have polled : isPolled world index = true := by
        unfold isPolled
        rw [linkedTo]
        dsimp only
        rw [found]
        dsimp only
        rw [stage]
      exact future_enabled rests (Coupling.run_second ran) begun closed linkedTo found foundGuard polled stage paired
  | _ =>
      rw [stage] at early
      cases early

theorem early_of_ends {count : Int} {submitted : Nat} {eventLoop : Bridge.EventLoop} {id : Bridge.CrossingId}
    {crossing : Bridge.Crossing} {action : Bridge.Action} {effect : Bridge.Effect}
    (acts : Bridge.Acts count submitted eventLoop id crossing action effect) (ends : endsInner action = true) :
    crossing.stage.beyondPolling = false := by
  cases acts with
  | complete result stage origin | panic stage origin | abandon stage cancelled | refuse stage | refuseProxied stage =>
      rw [stage]
      rfl
  | _ => cases ends

/-- When nobody can go on together, the bridge cannot go on alone. -/
theorem bridge_rests (quitting : Quitting world)
    (rests : AtRest coupling.machine (fun event => isOwn event = true) world) :
    AtRest Bridge.machine (fun event => event.isOwn = true) world.first := by
  intro event own
  by_contra enabled
  have alone : allows world (.first event) = true -> False := fun allowed =>
    first_enabled allowed enabled (rests (.first event) own)
  cases event with
  | submit origin site => cases own
  | closeLoop loop => cases own
  | forward index => exact alone rfl
  | runCallback loop => exact alone rfl
  | act id action =>
      cases ends : endsInner action with
      | false => exact alone (allows_gentle ends)
      | true =>
          by_cases request : id ∈ world.link
          · rcases List.getElem?_of_mem request with ⟨index, linkedTo⟩
            rcases Option.ne_none_iff_exists'.mp enabled with ⟨first, stepped⟩
            rcases Bridge.step_act stepped with ⟨crossing, effect, found, acts, _⟩
            rcases request_enabled quitting rests linkedTo found (early_of_ends acts ends) with ⟨event, mine, goesOn⟩
            exact goesOn (rests event mine)
          · refine alone ?_
            change (!(world.link.contains id && endsInner action)) = true
            rw [List.contains_eq_mem, decide_eq_false request]
            rfl

/-! ### What the callers get -/

/-- A drain that has not read the count yet reads zero or does not return. -/
def Draining (id : Bridge.CrossingId) (state : Bridge.State) : Prop :=
  ∃ crossing, state.crossings[id]? = some crossing ∧ crossing.origin = .drain ∧
    (crossing.payload = none ∨ crossing.payload = some (.drained true))

theorem Draining.step {past : List Bridge.Event} {state after : Bridge.State} {moved : Bridge.Event}
    {id : Bridge.CrossingId} (draining : Draining id state) (own : moved.isOwn = true)
    (ran : Bridge.machine.run .initial past = some state) (stepped : Bridge.step state moved = some after) :
    Draining id after := by
  rcases draining with ⟨crossing, found, origin, payload⟩
  rcases Bridge.step_later ran stepped found with ⟨new, found', later⟩
  refine ⟨new, found', later.origin.trans origin, ?_⟩
  cases Bridge.step_becomes stepped found' with
  | submitted _ _ _ _ _ _ last => exact absurd (List.getElem?_eq_some_iff.mp found).1 (last ▸ lt_irrefl _)
  | kept _ old | emptied _ _ _ _ _ _ old _ _ _ | forwarded _ _ _ _ _ _ old _ _ _ =>
      cases found.symm.trans old
      exact payload
  | ran _ loop callback rest _ old _ _ _ =>
      cases found.symm.trans old
      exact payload
  | acted _ action effect old event_eq acts _ =>
      cases found.symm.trans old
      cases acts with
      | complete result stage tracked => exact absurd origin tracked
      | panic stage tracked => exact absurd origin tracked
      | drainTimeout stage _ =>
          rw [event_eq] at own
          cases own
      | drainIdle stage _ zero => exact Or.inr rfl
      | _ => exact payload

/-! Each fact is kept by the steps of the shutdown. -/

theorem link_step (link : List Bridge.CrossingId) (quitting : Quitting world) (own : isOwn event = true)
    (stepped : coupling.step world event = some next) (same : world.link = link) : next.link = link :=
  (quitting.step own stepped).2.trans same

theorem flat_step (quitting : Quitting world) (own : isOwn event = true)
    (stepped : coupling.step world event = some next) (flat : ¬ world.first.HasNestedDrain) :
    ¬ next.first.HasNestedDrain := by
  rcases quitting with ⟨⟨past, ran⟩, _⟩
  have before := Coupling.run_first ran
  cases step_happens stepped with
  | bridge allowed moved => exact fun nested => flat (Bridge.hasNestedDrain_of_own before own moved nested)
  | guards allowed moved => exact flat
  | request moved too => cases own
  | together meets moved too =>
      exact fun nested => flat (Bridge.hasNestedDrain_of_own before meets.own moved nested)

theorem draining_step {id : Bridge.CrossingId} (quitting : Quitting world) (own : isOwn event = true)
    (stepped : coupling.step world event = some next) (draining : Draining id world.first) :
    Draining id next.first := by
  rcases quitting with ⟨⟨past, ran⟩, _⟩
  have before := Coupling.run_first ran
  cases step_happens stepped with
  | bridge allowed moved => exact draining.step own before moved
  | guards allowed moved => exact draining
  | request moved too => cases own
  | together meets moved too => exact draining.step meets.own before moved

/-- A shutdown by these steps is complete: nothing is left in the bridge, unless a
drain that was submitted while another future was polled waits for the guard of
that one; a request gives its caller that its session was closed, or what its own
work came to at one of the steps; and a drain that was waiting gives its caller
nothing but true. -/
structure Complete (world final : World) (own : List Event) : Prop where
  rested : Bridge.Rested final.first ∨ (Bridge.Pinned final.first ∧ world.first.HasNestedDrain)
  requests : forall (index : Nat) (id : Bridge.CrossingId) (guard : Guard PyObject),
    world.link[index]? = some id -> world.second.guards[index]? = some guard -> guard.stage.isLive = true ->
      ∃ crossing : Bridge.Crossing, final.first.crossings[id]? = some crossing ∧
        forall payload, crossing.future = .done payload ->
          payload = .returned (.error closedInFlight) ∨
          (∃ result, payload = .returned result ∧ .pollWork index (some result) ∈ own.filterMap Joint.onSecond) ∨
          (payload = .rustPanic ∧ .act id .panic ∈ own.filterMap Joint.onFirst)
  drains : forall (id : Bridge.CrossingId) (old : Bridge.Crossing), world.first.crossings[id]? = some old ->
    old.origin = .drain -> old.payload = none ->
      ∃ crossing : Bridge.Crossing, final.first.crossings[id]? = some crossing ∧
        forall payload, crossing.future = .done payload -> payload = .drained true

/-- What a request that is in flight comes to. -/
theorem Quitting.request (quitting : Quitting world) (own : ∀ event ∈ events, isOwn event = true)
    (continued : coupling.machine.run world events = some final) {index : Nat} {id : Bridge.CrossingId}
    {guard : Guard PyObject} (linkedTo : world.link[index]? = some id)
    (foundGuard : world.second.guards[index]? = some guard) (live : guard.stage.isLive = true) :
    ∃ crossing : Bridge.Crossing, final.first.crossings[id]? = some crossing ∧
      forall payload, crossing.future = .done payload ->
        payload = .returned (.error closedInFlight) ∨
        (∃ result, payload = .returned result ∧ .pollWork index (some result) ∈ events.filterMap Joint.onSecond) ∨
        (payload = .rustPanic ∧ .act id .panic ∈ events.filterMap Joint.onFirst) := by
  have link := settling.run_keeps_fact (link_step world.link) quitting rfl own continued
  rcases settling.run_keeps quitting own continued with ⟨⟨past', ran'⟩, _⟩
  rcases quitting with ⟨⟨past, ran⟩, _⟩
  rcases (run_linked ran).paired index id linkedTo with ⟨old, same, foundOld, foundSame, pairedOld⟩
  cases foundGuard.symm.trans foundSame
  rw [← link] at linkedTo
  rcases (run_linked ran').paired index id linkedTo with ⟨crossing, after, found, foundAfter, paired⟩
  refine ⟨crossing, found, fun payload done => ?_⟩
  have held := payload_of_done (Coupling.run_first ran') found done
  rcases paired.payload with same | ⟨_, panicked⟩
  · have held := held.symm.trans same
    cases stage : after.stage with
    | resolved branch result =>
        rw [stage] at held
        have moved : world.second.guards[index]? ≠ some after := by
          intro still
          cases foundGuard.symm.trans still
          rw [stage] at live
          cases live
        rcases Guards.resolved_run (Guards.Counted.run (Coupling.run_second ran)) (Coupling.run_second continued)
          moved foundAfter stage with ⟨_, polled⟩ | ⟨_, error, _⟩
        · exact Or.inr (Or.inl ⟨result, Option.some.inj held, polled⟩)
        · exact Or.inl (error ▸ Option.some.inj held)
    | captured | polling | pending | dropped =>
        rw [stage] at held
        cases held
  · cases held.symm.trans panicked
    have calm : ∀ before ∈ world.first.crossings[id]?, before.payload ≠ some .rustPanic := by
      intro before there
      cases foundOld.symm.trans there
      rw [pairedOld.empty live]
      nofun
    exact Or.inr (Or.inr ⟨rfl, Bridge.panic_of_payload (Coupling.run_first continued) calm found panicked⟩)

theorem complete (quitting : Quitting world) (own : ∀ event ∈ events, isOwn event = true)
    (continued : coupling.machine.run world events = some final)
    (rests : AtRest coupling.machine (fun event => isOwn event = true) final) : Complete world final events := by
  have later := settling.run_keeps quitting own continued
  have still := bridge_rests later rests
  rcases later with ⟨⟨past, ran⟩, closed⟩
  have before := Coupling.run_first ran
  refine ⟨?_, fun index id guard => quitting.request own continued, ?_⟩
  · rcases Bridge.idle_or_pinned before still with idle | pinned
    · exact Or.inl (Bridge.rested before still idle)
    · refine Or.inr ⟨pinned, Classical.byContradiction (fun flat => ?_)⟩
      exact settling.run_keeps_fact flat_step quitting flat own continued pinned.hasNestedDrain
  · intro id old found origin empty
    have waits : Draining id world.first := ⟨old, found, origin, Or.inl empty⟩
    rcases settling.run_keeps_fact draining_step quitting waits own continued with ⟨crossing, found, _, payload⟩
    refine ⟨crossing, found, ?_⟩
    intro payload' done
    have held := payload_of_done before found done
    rcases payload with none | drained
    · cases none.symm.trans held
    · exact (Option.some.inj (drained.symm.trans held)).symm

/-- Whatever the server does or fails to do: once the sessions of the requests in
flight are closed, the bridge comes to rest, in whatever order the tasks go on;
those requests end with the error of the close or with what their own work came
to, and a drain returns true. -/
theorem closed_sessions_wind_down {past : List Event} (ran : coupling.machine.run initial past = some world)
    (closed : AllClosed world.second) :
    (∃ own final, (∀ event ∈ own, isOwn event = true) ∧ coupling.machine.run world own = some final ∧
      AtRest coupling.machine (fun event => isOwn event = true) final) ∧
    forall own final, (∀ event ∈ own, isOwn event = true) -> coupling.machine.run world own = some final ->
      own.length <= world.stepsLeft ∧
        (AtRest coupling.machine (fun event => isOwn event = true) final -> Complete world final own) := by
  have quitting : Quitting world := ⟨⟨past, ran⟩, closed⟩
  refine ⟨settling.reaches_rest quitting, ?_⟩
  intro own final all continued
  have bound := settling.length_le quitting all continued
  exact ⟨by omega, complete quitting all continued⟩

end Progress

/-- A request waits for a server that does not answer, and a drain for the
request; the session is closed while the request is polled, after the poll has
looked at the channel. -/
def silentServer : List Event :=
  [.second .session, .both (.submit .tracked (.running 0)) (.closing 0), .first (.act 0 .buildProxy),
    .first (.act 0 .enter), .first (.submit .drain (.running 0)), .first (.act 1 .buildProxy),
    .first (.act 1 .enter), .second (.poll 0 .closedFirst), .second (.pollClosed 0), .second (.close 0)]

theorem closed_sessions_wind_down_silent :
    ∃ world own final, coupling.machine.run initial silentServer = some world ∧ world.first.inFlight.count = 1 ∧
      coupling.machine.run world own = some final ∧ final.first.inFlight.count = 0 ∧
      ∃ crossing : Bridge.Crossing, final.first.crossings[1]? = some crossing ∧
        forall payload, crossing.future = .done payload -> payload = .drained true := by
  have observed : (coupling.machine.run initial silentServer).map (fun world => (world.first.inFlight.count,
      world.second, world.first.crossings.map (fun each => (each.origin, each.payload, each.under)))) =
      some (1, ⟨[⟨⟨true, 2⟩, 1⟩], [⟨0, .polling [.work]⟩]⟩, [(.tracked, none, []), (.drain, none, [])]) := rfl
  rcases Option.map_eq_some_iff.mp observed with ⟨world, ran, seen⟩
  rcases Prod.mk.inj seen with ⟨count, rest⟩
  rcases Prod.mk.inj rest with ⟨guards, crossings⟩
  have waits := congrArg (fun each => each[1]?) crossings
  rw [List.getElem?_map] at waits
  rcases Option.map_eq_some_iff.mp waits with ⟨drain, found, waiting⟩
  simp only [Prod.mk.injEq] at waiting
  have closed : AllClosed world.second := by
    rw [guards]
    intro guard among _
    rw [List.mem_singleton.mp among]
    exact ⟨_, rfl, rfl⟩
  have flat : ¬ world.first.HasNestedDrain := by
    rintro ⟨each, member, _, stands⟩
    have among := List.mem_map_of_mem (f := fun each => (each.origin, each.payload, each.under)) member
    rw [crossings] at among
    exact stands (by simp only [List.mem_cons, List.not_mem_nil, Prod.mk.injEq] at among; tauto)
  rcases (closed_sessions_wind_down ran closed).1 with ⟨own, final, all, continued, rests⟩
  have complete := ((closed_sessions_wind_down ran closed).2 own final all continued).2 rests
  rcases complete.rested with rested | ⟨_, nested⟩
  · exact ⟨world, own, final, ran, count, continued, rested.count,
      complete.drains 1 drain found waiting.1 waiting.2.1⟩
  · exact absurd nested flat

end InFlight
end Session
end Lkrequest
