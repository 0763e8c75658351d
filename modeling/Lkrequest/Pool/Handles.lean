import Lkrequest.Pool.Tenancy
import Lkrequest.Session.Guarded

namespace Lkrequest
namespace Pool

open Foundations
open Session (World StateId)

/-!
# The handles of one lease

A guard that is asked twice gives out two handles, each with a `SessionState` of
its own.  They agree on being closed and on their hooks only as long as there is
nothing to agree on: once a guard has given out two handles, closing one or
registering a hook on one makes them differ, and so does asking for another
handle when there is one that was closed or has hooks.
-/

/-! ## Agreement -/

/-- A request in flight through the session, which owns a sender of its
channel, is abandoned when it is polled. -/
def Abandons (world : World) (id : StateId) : Prop :=
  forall senders, (⟨(world.states id).closed, senders + 1⟩ : Session.Channel).waitedFor = true

namespace State

/-- Handles of one guard behave as one session. -/
structure Agree (state : State) : Prop where
  closed : ∀ handle ∈ state.handles, ∀ other ∈ state.handles, handle.guard = other.guard ->
    (state.world.states handle.state).closed = true -> (state.world.states other.state).closed = true
  refuses : ∀ handle ∈ state.handles, ∀ other ∈ state.handles, handle.guard = other.guard ->
    (state.world.states handle.state).closed = true -> state.world.Refuses other.state
  abandons : ∀ handle ∈ state.handles, ∀ other ∈ state.handles, handle.guard = other.guard ->
    (state.world.states handle.state).closed = true -> Abandons state.world other.state
  requestHooks : ∀ handle ∈ state.handles, ∀ other ∈ state.handles, handle.guard = other.guard ->
    ∀ hook ∈ (state.world.states handle.state).hooks.requestHooks,
      hook ∈ (state.world.states other.state).hooks.requestHooks
  responseHooks : ∀ handle ∈ state.handles, ∀ other ∈ state.handles, handle.guard = other.guard ->
    ∀ hook ∈ (state.world.states handle.state).hooks.responseHooks,
      hook ∈ (state.world.states other.state).hooks.responseHooks

/-- `close()` and the registration of hooks go through the only handle of a
guard, and a guard that gives out a handle has given out none that was closed
or has hooks. -/
structure Alone (state : State) (event : Event) : Prop where
  spoils : forall inner, event = .session inner -> ∀ handle ∈ state.handles,
    inner.Spoils handle.state -> ∀ other ∈ state.handles, other.guard = handle.guard -> other = handle
  gives : forall id op guard, state.Asks event id op -> op.Reads ->
    state.guards[id]? = some guard -> guard.lease ≠ none ->
      ∀ handle ∈ state.handles, handle.guard = id -> state.world.Pristine handle.state

/-- The session states of handles are their own, and of two handles of one
guard both are open and without hooks. -/
structure Apart (state : State) : Prop where
  created : ∀ handle ∈ state.handles, handle.state < state.world.created
  distinct : (state.handles.map Handle.state).Nodup
  siblings : ∀ handle ∈ state.handles, ∀ other ∈ state.handles, handle.guard = other.guard ->
    handle ≠ other -> state.world.Pristine handle.state

/-! ## From the condition to agreement -/

theorem Apart.agree {state : State} (apart : state.Apart) : state.Agree := by
  have open' : ∀ handle ∈ state.handles, ∀ other ∈ state.handles, handle.guard = other.guard ->
      (state.world.states handle.state).closed = true -> handle = other := by
    intro handle member other member' same closed
    by_cases here : handle = other
    · exact here
    · have pristine := apart.siblings handle member other member' same here
      rw [pristine.1] at closed
      cases closed
  constructor
  · intro handle member other member' same closed
    exact open' handle member other member' same closed ▸ closed
  · intro handle member other member' same closed
    cases open' handle member other member' same closed
    exact fun call opens => Session.call_closed closed opens
  · intro handle member other member' same closed senders
    cases open' handle member other member' same closed
    rw [closed]
    rfl
  · intro handle member other member' same hook registered
    by_cases here : handle = other
    · exact here ▸ registered
    · rw [(apart.siblings handle member other member' same here).2] at registered
      cases registered
  · intro handle member other member' same hook registered
    by_cases here : handle = other
    · exact here ▸ registered
    · rw [(apart.siblings handle member other member' same here).2] at registered
      cases registered

/-- What `SessionState::default()` adds to the world. -/
theorem session_created {world next : World}
    (stepped : Session.step world (.session [] none none) = some next) :
    next.created = world.created + 1 ∧ next.states world.created = .default ∧
      forall id, id ≠ world.created -> next.states id = world.states id := by
  cases stepped
  exact ⟨rfl, World.setState_same .., fun id different => World.setState_other world _ different⟩

theorem Apart.step {state next : State} {event : Event} (apart : state.Apart)
    (alone : state.Alone event) (stepped : state.step event = some next) : next.Apart := by
  cases step_moves stepped with
  | still handles world =>
      constructor
      · rw [handles, world]
        exact apart.created
      · rw [handles]
        exact apart.distinct
      · rw [handles, world]
        exact apart.siblings
  | session inner made handles world =>
      constructor
      · rw [handles]
        intro handle member
        exact Nat.lt_of_lt_of_le (apart.created handle member) (Session.step_extends world).created
      · rw [handles]
        exact apart.distinct
      · rw [handles]
        intro handle member other member' same different
        apply Session.pristine_step (apart.created handle member) world
        · intro spoils
          exact different (alone.spoils inner made handle member spoils other member' same.symm).symm
        · exact apart.siblings handle member other member' same different
  | handle id op guard rust asked reads found lease handles world =>
      rcases session_created world with ⟨created, fresh, others⟩
      have kept : ∀ handle ∈ state.handles, state.world.Pristine handle.state ->
          next.world.Pristine handle.state := by
        intro handle member pristine
        rw [World.Pristine, others _ (Nat.ne_of_lt (apart.created handle member))]
        exact pristine
      constructor
      · rw [handles, created]
        intro handle member
        rcases List.mem_append.mp member with present | given
        · exact Nat.lt_succ_of_lt (apart.created handle present)
        · cases List.mem_singleton.mp given
          exact Nat.lt_succ_self _
      · rw [handles, List.map_append, List.map_singleton]
        apply List.Nodup.append apart.distinct (List.nodup_singleton _)
        intro each member given
        rcases List.mem_map.mp member with ⟨handle, present, rfl⟩
        exact Nat.ne_of_lt (apart.created handle present) (List.mem_singleton.mp given)
      · rw [handles]
        intro handle member other member' same different
        rcases List.mem_append.mp member with present | given
        · rcases List.mem_append.mp member' with present' | given'
          · exact kept handle present (apart.siblings handle present other present' same different)
          · apply kept handle present
            apply alone.gives id op guard asked reads found ?_ handle present
            · rw [same, List.mem_singleton.mp given']
            · rw [lease]
              exact Option.some_ne_none rust
        · rw [List.mem_singleton.mp given, World.Pristine, fresh]
          exact ⟨rfl, rfl⟩

/-! ## From agreement to the condition -/

/-- A guard with a lease that is asked gives out a handle. -/
theorem step_asked {state next : State} {event : Event} {id : GuardId} {op : GuardOp}
    {guard : SessionGuard} {rust : RustId} (asked : state.Asks event id op) (reads : op.Reads)
    (found : state.guards[id]? = some guard) (lease : guard.lease = some rust)
    (stepped : state.step event = some next) :
    next.handles = state.handles ++ [⟨rust, id, state.world.created⟩] ∧
      Session.step state.world (.session [] none none) = some next.world := by
  have locked : forall middle, state.locked id guard op = some middle ->
      middle.handles = state.handles ++ [⟨rust, id, state.world.created⟩] ∧
        Session.step state.world (.session [] none none) = some middle.world := by
    intro middle taken
    rcases reads with rfl | rfl
    · simp only [State.locked, lease] at taken
      cases taken
      exact ⟨rfl, rfl⟩
    · simp only [State.locked, lease] at taken
      cases taken
      exact ⟨rfl, rfl⟩
  rcases asked with rfl | ⟨index, future, rfl, foundFuture, rfl, rfl⟩
  · simp only [State.step, found, Option.bind_eq_bind, Option.bind_some] at stepped
    split at stepped
    · exact locked next stepped
    · cases stepped
  · simp only [State.step, foundFuture, found, Option.bind_eq_bind, Option.bind_some] at stepped
    split at stepped
    · rcases Option.bind_eq_some_iff.mp stepped with ⟨middle, taken, ended⟩
      rcases endFuture_same ended with ⟨handles, world⟩
      rw [handles, world]
      exact locked middle taken
    · cases stepped

/-- Spoiling one of two sessions that are open and without hooks. -/
theorem spoils_differ {world next : World} {inner : Session.Event} {id other : StateId}
    (pristine : world.Pristine id) (pristine' : world.Pristine other) (different : other ≠ id)
    (spoils : inner.Spoils id) (stepped : Session.step world inner = some next) :
    ((next.states id).closed = true ∧ (next.states other).closed = false) ∨
      (∃ hook ∈ (next.states id).hooks.requestHooks, hook ∉ (next.states other).hooks.requestHooks) ∨
      ∃ hook ∈ (next.states id).hooks.responseHooks,
        hook ∉ (next.states other).hooks.responseHooks := by
  cases Session.step_steps stepped with
  | session => exact spoils.elim
  | finishStreaming found => exact spoils.elim
  | advance found advanced => exact spoils.elim
  | close inside =>
      cases spoils
      left
      change ((world.setState id _).states id).closed = true ∧
        ((world.setState id _).states other).closed = false
      rw [World.setState_same, World.setState_other world _ different]
      exact ⟨rfl, pristine'.1⟩
  | @call called call inside =>
      rcases spoils with ⟨rfl, registers⟩
      have untouched := (Session.keeps_call called call world).others other different
      cases call with
      | onRequest callback =>
          right
          left
          have registered : ((after (Session.onRequest called callback) world).states called).hooks =
              ⟨[callback], []⟩ := by
            simp [after, Session.onRequest, pristine.1, pristine.2]
          refine ⟨callback, ?_, ?_⟩
          · change callback ∈ ((after (Session.onRequest called callback) world).states
              called).hooks.requestHooks
            rw [registered]
            exact List.mem_singleton_self _
          · rw [untouched, pristine'.2]
            exact List.not_mem_nil
      | onResponse callback =>
          right
          right
          have registered : ((after (Session.onResponse called callback) world).states called).hooks =
              ⟨[], [callback]⟩ := by
            simp [after, Session.onResponse, pristine.1, pristine.2]
          refine ⟨callback, ?_, ?_⟩
          · change callback ∈ ((after (Session.onResponse called callback) world).states
              called).hooks.responseHooks
            rw [registered]
            exact List.mem_singleton_self _
          · rw [untouched, pristine'.2]
            exact List.not_mem_nil
      | _ => exact registers.elim

/-- Any other event makes two handles of one guard differ. -/
theorem Apart.breaks {state next : State} {event : Event} (apart : state.Apart)
    (fails : ¬ state.Alone event) (stepped : state.step event = some next) : ¬ next.Agree := by
  intro agree
  apply fails
  constructor
  · rintro inner rfl handle member spoils other member' same
    by_cases here : other = handle
    · exact here
    · have pristine := apart.siblings handle member other member' same.symm (Ne.symm here)
      have pristine' := apart.siblings other member' handle member same here
      have states : other.state ≠ handle.state := fun equal =>
        here (List.inj_on_of_nodup_map apart.distinct member' member equal)
      cases step_moves stepped with
      | still _ _ excluded => exact absurd rfl (excluded inner)
      | handle _ _ _ _ _ _ _ _ _ _ excluded => exact absurd rfl (excluded inner)
      | session same' made handles world =>
          cases made
          have now : handle ∈ next.handles := handles ▸ member
          have now' : other ∈ next.handles := handles ▸ member'
          rcases spoils_differ pristine pristine' states spoils world with
            ⟨closed, opened⟩ | ⟨hook, registered, missing⟩ | ⟨hook, registered, missing⟩
          · have both := agree.closed handle now other now' same.symm closed
            rw [opened] at both
            cases both
          · exact absurd (agree.requestHooks handle now other now' same.symm hook registered) missing
          · exact absurd (agree.responseHooks handle now other now' same.symm hook registered) missing
  · intro id op guard asked reads found leased handle member here
    rcases Option.ne_none_iff_exists'.mp leased with ⟨rust, lease⟩
    rcases step_asked asked reads found lease stepped with ⟨handles, world⟩
    rcases session_created world with ⟨_, fresh, others⟩
    have now : handle ∈ next.handles := handles ▸ List.mem_append_left _ member
    have given : (⟨rust, id, state.world.created⟩ : Handle) ∈ next.handles :=
      handles ▸ List.mem_append_right _ (List.mem_singleton_self _)
    have same := others _ (Nat.ne_of_lt (apart.created handle member))
    have fresh' : next.world.states state.world.created = .default := fresh
    have closed := agree.closed handle now _ given here
    have requestHooks := agree.requestHooks handle now _ given here
    have responseHooks := agree.responseHooks handle now _ given here
    rw [fresh', same] at closed requestHooks responseHooks
    constructor
    · cases flag : (state.world.states handle.state).closed with
      | false => rfl
      | true => exact absurd (closed flag) Bool.false_ne_true
    · rcases hooks : (state.world.states handle.state).hooks with ⟨requests, responses⟩
      rw [hooks] at requestHooks responseHooks
      have noRequests : requests = [] := List.eq_nil_iff_forall_not_mem.mpr
        (fun hook registered => List.not_mem_nil (requestHooks hook registered))
      have noResponses : responses = [] := List.eq_nil_iff_forall_not_mem.mpr
        (fun hook registered => List.not_mem_nil (responseHooks hook registered))
      rw [noRequests, noResponses]

theorem apart_initial : initial.Apart where
  created := fun _ member => nomatch member
  distinct := List.nodup_nil
  siblings := fun _ member => nomatch member

end State

/-! ## The contract -/

/-- The handles of one guard behave as one session in every state of a run if
and only if every step of it closes or hooks only handles that are alone, and
gives out a handle only next to handles that are open and without hooks. -/
theorem handles_of_lease_agree_iff {events : List Event} {state : State}
    (ran : pool.run .initial events = some state) :
    pool.Along State.Alone .initial events <->
      forall early late middle, events = early ++ late -> pool.run .initial early = some middle ->
        middle.Agree :=
  pool.along_iff_holds State.Alone State.Apart State.Agree (fun _ apart => apart.agree)
    (fun _ _ _ apart alone stepped => apart.step alone stepped)
    (fun _ _ _ apart fails stepped => apart.breaks fails stepped) State.apart_initial ran

/-- Two reads of `guard.session`, and `close()` on the first handle. -/
def closeOneOfTwo : List Event :=
  [.acquire 7, .submit 0 .session, .run 0, .submit 0 .session, .run 1, .session (.close 0)]

/-- The second handle of the lease is open, and starts requests. -/
theorem closed_handle_leaves_sibling_open :
    ∃ state next, pool.run .initial closeOneOfTwo = some state ∧
      state.handles = [⟨7, 0, 0⟩, ⟨7, 0, 1⟩] ∧ (state.world.states 0).closed = true ∧
      (state.world.states 1).closed = false ∧
      pool.step state (.session (.call 1 .get)) = some next ∧
      state.world.effects = [] ∧ next.world.effects = [(1, .starts (.buffered "GET"))] ∧
      ¬ state.Agree := by
  have observed : (pool.run .initial closeOneOfTwo).map (fun state => (state.handles,
      (state.world.states 0).closed, (state.world.states 1).closed, state.world.effects)) =
        some ([⟨7, 0, 0⟩, ⟨7, 0, 1⟩], true, false, []) := by decide
  have goesOn : (pool.run .initial (closeOneOfTwo ++ [.session (.call 1 .get)])).map
      (fun state => state.world.effects) = some [(1, .starts (.buffered "GET"))] := by decide
  rcases Option.map_eq_some_iff.mp observed with ⟨state, ran, seen⟩
  rcases Option.map_eq_some_iff.mp goesOn with ⟨next, ranNext, effects⟩
  have stepped := pool.step_of_run_snoc ran ranNext
  simp only [Prod.mk.injEq] at seen
  rcases seen with ⟨handles, closed, opened, silent⟩
  refine ⟨state, next, ran, handles, closed, opened, stepped, silent, effects, ?_⟩
  intro agree
  have both := agree.closed ⟨7, 0, 0⟩ (by simp [handles]) ⟨7, 0, 1⟩ (by simp [handles]) rfl closed
  rw [opened] at both
  cases both

/-- So this run has a step that does not meet the condition. -/
theorem handles_of_lease_agree_iff_close_one_of_two :
    ∃ state, pool.run .initial closeOneOfTwo = some state ∧
      ¬ pool.Along State.Alone .initial closeOneOfTwo := by
  have observed : (pool.run .initial closeOneOfTwo).map (fun state => (state.handles,
      (state.world.states 0).closed, (state.world.states 1).closed)) =
        some ([⟨7, 0, 0⟩, ⟨7, 0, 1⟩], true, false) := by decide
  rcases Option.map_eq_some_iff.mp observed with ⟨state, ran, seen⟩
  simp only [Prod.mk.injEq] at seen
  rcases seen with ⟨handles, closed, opened⟩
  refine ⟨state, ran, fun along => ?_⟩
  have agree := (handles_of_lease_agree_iff ran).mp along closeOneOfTwo [] state
    (List.append_nil _).symm ran
  have both := agree.closed ⟨7, 0, 0⟩ (by simp [handles]) ⟨7, 0, 1⟩ (by simp [handles]) rfl closed
  rw [opened] at both
  cases both

end Pool
end Lkrequest
