import Lkrequest.Session.Lifecycle

namespace Lkrequest
namespace Session

open Foundations

/-!
# What the operations leave alone

Only `close` writes the closed flag, only `on_request` and `on_response` put
anything into a hook list, and an event on one session does nothing to the
flag and the hooks of another.
-/

/-! ## The closed flag -/

/-- No session is closed or opened. -/
def SameFlags (old new : World) : Prop :=
  new.created = old.created ∧ forall id, (new.states id).closed = (old.states id).closed

theorem sameFlags_refl (world : World) : SameFlags world world := ⟨rfl, fun _ => rfl⟩

theorem SameFlags.trans {first second third : World} (early : SameFlags first second)
    (late : SameFlags second third) : SameFlags first third :=
  ⟨late.1.trans early.1, fun id => (late.2 id).trans (early.2 id)⟩

theorem sameFlags_setState {world : World} {id : StateId} {state : SessionState}
    (same : state.closed = (world.states id).closed) : SameFlags world (world.setState id state) := by
  refine ⟨rfl, fun other => ?_⟩
  by_cases here : other = id
  · subst here
    rw [World.setState_same, same]
  · rw [World.setState_other world state here]

section Flags

variable {id : StateId}

theorem flags_ensureOpen : Within SameFlags (ensureOpen id) :=
  within_read sameFlags_refl (after_ensureOpen id)

theorem flags_orRaise {Value : Type} (result : Except PyErr Value) :
    Within SameFlags (orRaise result) := within_read sameFlags_refl (after_orRaise result)

theorem flags_start (operation : Operation) : Within SameFlags (start id operation) :=
  within_modify (fun _ => ⟨rfl, fun _ => rfl⟩)

theorem flags_finishStreaming (method : String) (args : BodyArgs) :
    Within SameFlags (finishStreaming id method args) :=
  within_bind (flags_orRaise _) (fun _ => within_bind (flags_orRaise _) (fun _ => flags_start _)
    SameFlags.trans) SameFlags.trans

theorem flags_makeRequest (method : String) (args : BodyArgs) :
    Within SameFlags (makeRequest id method args) :=
  within_bind (flags_orRaise _) (fun _ => within_bind (flags_orRaise _) (fun _ =>
    within_bind flags_ensureOpen (fun _ => flags_start _) SameFlags.trans) SameFlags.trans)
    SameFlags.trans

theorem flags_startChecked (operation : Operation) : Within SameFlags (startChecked id operation) :=
  within_bind flags_ensureOpen (fun _ => flags_start operation) SameFlags.trans

theorem flags_emptyRequestHooks : Within SameFlags (emptyRequestHooks id) :=
  within_modify (fun _ => sameFlags_setState rfl)

theorem flags_emptyResponseHooks : Within SameFlags (emptyResponseHooks id) :=
  within_modify (fun _ => sameFlags_setState rfl)

end Flags

theorem flags_call (id : StateId) (call : Call) : Within SameFlags (call.perform id) := by
  cases call with
  | get | head | options => exact flags_makeRequest _ _
  | post | put | patch | delete | request => exact flags_makeRequest _ _
  | sendStreaming method args =>
      exact within_bind flags_ensureOpen
        (fun _ => within_modify (fun _ => ⟨rfl, fun _ => rfl⟩)) SameFlags.trans
  | wsConnect | preconnect | preconnectMany | prefetch => exact flags_startChecked _
  | enter => exact flags_ensureOpen
  | onRequest callback | onResponse callback =>
      exact within_bind flags_ensureOpen
        (fun _ => within_modify (fun _ => sameFlags_setState rfl)) SameFlags.trans
  | emptyRequestHooks => exact flags_emptyRequestHooks
  | emptyResponseHooks => exact flags_emptyResponseHooks
  | clearForGc =>
      exact within_bind flags_emptyRequestHooks (fun _ => flags_emptyResponseHooks) SameFlags.trans

theorem CloseCall.sameFlags {closing : CloseCall} {world next : World} {point : ClosePoint}
    (advanced : closing.advance world = some (next, point)) : SameFlags world next := by
  unfold CloseCall.advance at advanced
  split at advanced
  · cases advanced
    exact flags_emptyRequestHooks world
  · cases advanced
    exact flags_emptyResponseHooks world
  · split at advanced
    · cases advanced
      exact sameFlags_setState rfl
    · cases advanced
      exact sameFlags_refl world
  · cases advanced
    exact sameFlags_setState rfl
  · cases advanced
    exact ⟨rfl, fun _ => rfl⟩
  · cases advanced

/-- What there is no session for yet is open. -/
def World.OpenBeyond (world : World) : Prop :=
  forall id, world.created ≤ id -> (world.states id).closed = false

/-- A session is closed by the calls of `close` on it and by nothing else. -/
theorem closed_step {world next : World} {event : Event} (beyond : world.OpenBeyond)
    (stepped : step world event = some next) :
    next.OpenBeyond ∧ forall id, (next.states id).closed = true <->
      (world.states id).closed = true ∨ event = .close id := by
  have quiet : SameFlags world next -> (forall id, event ≠ .close id) ->
      next.OpenBeyond ∧ forall id, (next.states id).closed = true <->
        (world.states id).closed = true ∨ event = .close id := by
    intro same other
    constructor
    · intro id outside
      rw [same.2 id]
      exact beyond id (same.1 ▸ outside)
    · intro id
      rw [same.2 id]
      exact ⟨Or.inl, fun either => either.resolve_right (other id)⟩
  cases step_steps stepped with
  | session =>
      constructor
      · intro id outside
        change ((world.setState world.created _).states id).closed = false
        rw [World.setState_other world _ (Nat.ne_of_gt outside)]
        exact beyond id (Nat.le_of_succ_le outside)
      · intro id
        simp only [reduceCtorEq, or_false]
        by_cases here : id = world.created
        · subst here
          rw [World.setState_same, beyond _ (Nat.le_refl _)]
          rfl
        · rw [World.setState_other world _ here]
  | @call id call inside => exact quiet (flags_call id call world) (fun _ same => nomatch same)
  | @finishStreaming index streaming found =>
      apply quiet
      · have waiting : SameFlags world { world with streaming := world.streaming.eraseIdx index } :=
          ⟨rfl, fun _ => rfl⟩
        exact waiting.trans (flags_finishStreaming _ _ _)
      · exact fun _ same => nomatch same
  | @close closed inside =>
      constructor
      · intro id outside
        change ((world.setState closed _).states id).closed = false
        rw [World.setState_other world _ (Nat.ne_of_gt (Nat.lt_of_lt_of_le inside outside))]
        exact beyond id outside
      · intro id
        change ((world.setState closed _).states id).closed = true <-> _
        by_cases here : id = closed
        · subst here
          rw [World.setState_same]
          exact ⟨fun _ => Or.inr rfl, fun _ => rfl⟩
        · rw [World.setState_other world _ here]
          have apart : ¬ Event.close closed = Event.close id :=
            fun same => here (Event.close.inj same).symm
          simp only [apart, or_false]
  | advance found advanced =>
      have same := CloseCall.sameFlags advanced
      exact quiet ⟨same.1, same.2⟩ (fun _ same => nomatch same)

/-! ## Open sessions without hooks -/

/-- The session is open and has no hooks. -/
def World.Pristine (world : World) (id : StateId) : Prop :=
  (world.states id).closed = false ∧ (world.states id).hooks = ⟨[], []⟩

/-- A hook is registered. -/
def Call.Registers : Call -> Prop
  | .onRequest _ | .onResponse _ => True
  | _ => False

/-- What is pristine stays so. -/
def KeepsPristine (id : StateId) (old new : World) : Prop := old.Pristine id -> new.Pristine id

section Pristine

variable {id : StateId}

theorem keepsPristine_refl (world : World) : KeepsPristine id world world := fun pristine => pristine

theorem KeepsPristine.trans {first second third : World} (early : KeepsPristine id first second)
    (late : KeepsPristine id second third) : KeepsPristine id first third := fun pristine =>
  late (early pristine)

theorem keepsPristine_of_same {old new : World} (same : new.states = old.states) :
    KeepsPristine id old new := by
  intro pristine
  rw [World.Pristine, same]
  exact pristine

theorem keepsPristine_setState {world : World} {other : StateId} {state : SessionState}
    (same : state.closed = (world.states other).closed)
    (hooks : (world.states other).hooks = ⟨[], []⟩ -> state.hooks = ⟨[], []⟩) :
    KeepsPristine id world (world.setState other state) := by
  intro pristine
  by_cases here : id = other
  · subst here
    rw [World.Pristine, World.setState_same]
    exact ⟨same.trans pristine.1, hooks pristine.2⟩
  · rw [World.Pristine, World.setState_other world state here]
    exact pristine

variable {other : StateId}

theorem pristine_ensureOpen : Within (KeepsPristine id) (ensureOpen other) :=
  within_read keepsPristine_refl (after_ensureOpen other)

theorem pristine_orRaise {Value : Type} (result : Except PyErr Value) :
    Within (KeepsPristine id) (orRaise result) :=
  within_read keepsPristine_refl (after_orRaise result)

theorem pristine_start (operation : Operation) : Within (KeepsPristine id) (start other operation) :=
  within_modify (fun _ => keepsPristine_of_same rfl)

theorem pristine_finishStreaming (method : String) (args : BodyArgs) :
    Within (KeepsPristine id) (finishStreaming other method args) :=
  within_bind (pristine_orRaise _) (fun _ => within_bind (pristine_orRaise _)
    (fun _ => pristine_start _) KeepsPristine.trans) KeepsPristine.trans

theorem pristine_makeRequest (method : String) (args : BodyArgs) :
    Within (KeepsPristine id) (makeRequest other method args) :=
  within_bind (pristine_orRaise _) (fun _ => within_bind (pristine_orRaise _) (fun _ =>
    within_bind pristine_ensureOpen (fun _ => pristine_start _) KeepsPristine.trans)
    KeepsPristine.trans) KeepsPristine.trans

theorem pristine_startChecked (operation : Operation) :
    Within (KeepsPristine id) (startChecked other operation) :=
  within_bind pristine_ensureOpen (fun _ => pristine_start operation) KeepsPristine.trans

theorem pristine_emptyRequestHooks : Within (KeepsPristine id) (emptyRequestHooks other) :=
  within_modify (fun _ => keepsPristine_setState rfl (fun empty => by rw [empty]))

theorem pristine_emptyResponseHooks : Within (KeepsPristine id) (emptyResponseHooks other) :=
  within_modify (fun _ => keepsPristine_setState rfl (fun empty => by rw [empty]))

theorem pristine_call {call : Call} (silent : ¬ call.Registers) :
    Within (KeepsPristine id) (call.perform other) := by
  cases call with
  | get | head | options => exact pristine_makeRequest _ _
  | post | put | patch | delete | request => exact pristine_makeRequest _ _
  | sendStreaming method args =>
      exact within_bind pristine_ensureOpen
        (fun _ => within_modify (fun _ => keepsPristine_of_same rfl)) KeepsPristine.trans
  | wsConnect | preconnect | preconnectMany | prefetch => exact pristine_startChecked _
  | enter => exact pristine_ensureOpen
  | onRequest callback | onResponse callback => exact absurd trivial silent
  | emptyRequestHooks => exact pristine_emptyRequestHooks
  | emptyResponseHooks => exact pristine_emptyResponseHooks
  | clearForGc =>
      exact within_bind pristine_emptyRequestHooks (fun _ => pristine_emptyResponseHooks)
        KeepsPristine.trans

theorem CloseCall.keepsPristine {closing : CloseCall} {world next : World} {point : ClosePoint}
    (advanced : closing.advance world = some (next, point)) : KeepsPristine id world next := by
  unfold CloseCall.advance at advanced
  split at advanced
  · cases advanced
    exact pristine_emptyRequestHooks world
  · cases advanced
    exact pristine_emptyResponseHooks world
  · split at advanced
    · cases advanced
      exact keepsPristine_setState rfl (fun empty => empty)
    · cases advanced
      exact keepsPristine_refl world
  · cases advanced
    exact keepsPristine_setState rfl (fun empty => empty)
  · cases advanced
    exact keepsPristine_of_same rfl
  · cases advanced

end Pristine

/-- The event closes the session or registers a hook on it. -/
def Event.Spoils (id : StateId) : Event -> Prop
  | .close other => other = id
  | .call other made => other = id ∧ made.Registers
  | _ => False

/-- Any event on the session but these, and any event on another session,
leaves it pristine. -/
theorem pristine_step {world next : World} {event : Event} {id : StateId} (inside : id < world.created)
    (stepped : step world event = some next) (harmless : ¬ event.Spoils id) :
    KeepsPristine id world next := by
  cases step_steps stepped with
  | session =>
      intro pristine
      change ((world.setState world.created _).states id).closed = false ∧
        ((world.setState world.created _).states id).hooks = ⟨[], []⟩
      rw [World.setState_other world _ (Nat.ne_of_lt inside)]
      exact pristine
  | @call other call present =>
      by_cases here : other = id
      · exact pristine_call (fun registers => harmless ⟨here, registers⟩) world
      · intro pristine
        rw [World.Pristine, (keeps_call other call world).others id (Ne.symm here)]
        exact pristine
  | @finishStreaming index streaming found =>
      have waiting : KeepsPristine id world
          { world with streaming := world.streaming.eraseIdx index } := keepsPristine_of_same rfl
      exact waiting.trans (pristine_finishStreaming _ _ _)
  | @close other present =>
      intro pristine
      change ((world.setState other _).states id).closed = false ∧
        ((world.setState other _).states id).hooks = ⟨[], []⟩
      rw [World.setState_other world _ (fun same => harmless same.symm)]
      exact pristine
  | advance found advanced =>
      have kept : KeepsPristine id world _ := CloseCall.keepsPristine advanced
      exact kept

end Session
end Lkrequest
