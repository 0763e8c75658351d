import Lkrequest.Foundations.Reclamation
import Lkrequest.Session.Collection
import Mathlib.Data.Set.Finite.List

namespace Lkrequest
namespace Session
namespace Collection

open Foundations

/-!
# What a collection gives back

`__traverse__` and `__clear__` of a handle are there so that a cycle through its
hooks is no leak: the owner of a session, the session, and a hook that refers to
the owner.  The callbacks of a middleware are out of sight of the collector, and
a cycle through one of them lasts until the session is closed.
-/

/-! ## The heap after a collection -/

section Collect

variable {heap other : Heap} {inFlight : List EventHooks} {dead : List Ref} {id : Nat}

theorem held_collect (heap : Heap) (inFlight : List EventHooks) (dead : List Ref) :
    (heap.collect inFlight dead).held = heap.held := by
  refine sweep_keeps (fun (other : Heap) ref (same : other.held = heap.held) => ?_) rfl dead
  by_cases there : ref ∈ other.tracked
  · rcases turn_there there with ⟨left, _, turned⟩
    rw [turned, ← same]
    cases ref with
    | list list => rfl
    | object object =>
        unfold Heap.clear
        dsimp only
        split <;> rfl
  · rw [turn_gone there, same]

/-- Clearing it empties an object that is no handle. -/
def Resets (heap : Heap) (id : Nat) (ref : Ref) : Prop :=
  ref = .object id ∧ ∃ refs, heap.objects id = .other refs

theorem objects_clear {other : Heap} (same : SameHandles heap other) (id : Nat) (ref : Ref) :
    (Resets heap id ref -> (other.clear ref).objects id = .other []) ∧
      (¬ Resets heap id ref -> (other.clear ref).objects id = other.objects id) := by
  cases ref with
  | list list =>
      constructor
      · rintro ⟨absurd, _⟩
        cases absurd
      · intro _
        rfl
  | object object =>
      cases found : other.objects object with
      | session state =>
          have handle := (same object state).mp found
          constructor
          · rintro ⟨here, refs, noHandle⟩
            cases here
            cases handle.symm.trans noHandle
          · intro _
            simp only [Heap.clear, found]
            rfl
      | other refs =>
          simp only [Heap.clear, found, Function.update_apply]
          constructor
          · rintro ⟨here, _⟩
            cases here
            rw [if_pos rfl]
          · intro keeps
            rw [if_neg]
            rintro rfl
            apply keeps
            refine ⟨rfl, ?_⟩
            cases original : heap.objects id with
            | session state =>
                rw [(same id state).mpr original] at found
                cases found
            | other refs => exact ⟨refs, rfl⟩

/-- A collection empties the objects that it comes to clear, handles apart. -/
theorem objects_collect (heap : Heap) (inFlight : List EventHooks) (dead : List Ref) (id : Nat) :
    ((∃ ref, heap.Called inFlight dead ref ∧ Resets heap id ref) ->
        (heap.collect inFlight dead).objects id = .other []) ∧
      (¬ (∃ ref, heap.Called inFlight dead ref ∧ Resets heap id ref) ->
        (heap.collect inFlight dead).objects id = heap.objects id) := by
  rw [← someTurn_iff]
  refine @sweep_value Heap Ref Object (Heap.turn inFlight) (fun each => each.objects id) (.other [])
    (SameHandles heap) _ (fun _ _ same => same.turn) ?_ ?_ heap (fun _ _ => Iff.rfl) dead
  · rintro other ref same ⟨there, resets⟩
    rcases turn_there there with ⟨left, _, turned⟩
    rw [turned]
    exact (objects_clear same id ref).1 resets
  · intro other ref same idle
    by_cases there : ref ∈ other.tracked
    · rcases turn_there there with ⟨left, _, turned⟩
      rw [turned]
      exact (objects_clear same id ref).2 (fun resets => idle ⟨there, resets⟩)
    · rw [turn_gone there]

theorem traverse_of_mem {ref held : Ref} (reported : held ∈ heap.traverse ref) :
    ref ∈ heap.tracked ∧ held ∈ heap.refs ref := by
  unfold Heap.traverse at reported
  split at reported
  · rename_i there
    exact ⟨there, reported⟩
  · cases reported

/-- What is reported afterwards was reported before, and by an object that the
collector did not come to clear, or by a handle: it keeps its two lists. -/
theorem traverse_collect {holder held : Ref}
    (reported : held ∈ (heap.collect inFlight dead).traverse holder) :
    held ∈ heap.traverse holder ∧ holder ∈ (heap.collect inFlight dead).tracked ∧
      (holder ∈ dead -> ∃ id state, holder = .object id ∧ heap.objects id = .session state) := by
  rcases traverse_of_mem reported with ⟨kept, refers⟩
  have before : forall {ref : Ref}, ref ∈ heap.refs holder -> ref ∈ heap.traverse holder := by
    intro ref refers
    have there : holder ∈ heap.tracked := tracked_collect heap inFlight [] dead kept
    unfold Heap.traverse
    rw [if_pos there]
    exact refers
  cases holder with
  | list list =>
      change held ∈ (heap.collect inFlight dead).lists list at refers
      by_cases cleared : ∃ ref, heap.Called inFlight dead ref ∧ Empties heap list ref
      · rw [(lists_collect heap inFlight dead list).1 cleared] at refers
        cases refers
      · rw [(lists_collect heap inFlight dead list).2 cleared] at refers
        exact ⟨before refers, kept, fun among => absurd ⟨_, called_of_kept among kept, rfl⟩ cleared⟩
  | object object =>
      change held ∈ ((heap.collect inFlight dead).objects object).refs at refers
      by_cases resets : ∃ ref, heap.Called inFlight dead ref ∧ Resets heap object ref
      · rw [(objects_collect heap inFlight dead object).1 resets] at refers
        cases refers
      · rw [(objects_collect heap inFlight dead object).2 resets] at refers
        refine ⟨before refers, kept, fun among => ?_⟩
        cases found : heap.objects object with
        | session state => exact ⟨object, state, rfl, found⟩
        | other refs => exact absurd ⟨_, called_of_kept among kept, rfl, refs, found⟩ resets

end Collect

/-! ## Cycles through hooks -/

/-- What a collection goes through: garbage, and of it at least the handles and
their lists.  Which other objects can be cleared is up to their types. -/
structure Clears (heap : Heap) (inFlight : List EventHooks) (dead : List Ref) : Prop where
  garbage : ∀ ref ∈ dead, heap.Garbage inFlight ref
  handles : forall id state, heap.objects id = .session state -> heap.Garbage inFlight (.object id) ->
    .object id ∈ dead
  lists : forall id state, heap.objects id = .session state -> heap.Garbage inFlight (.object id) ->
    forall list, .list list ∈ state.traverse -> heap.Garbage inFlight (.list list) -> .list list ∈ dead

/-- A handle that is garbage, one of its lists, or another object that is cleared. -/
def Breaks (heap : Heap) (inFlight : List EventHooks) (dead : List Ref) : Ref -> Prop
  | .list id => .list id ∈ dead ∨
      ∃ object state, heap.objects object = .session state ∧ heap.Garbage inFlight (.object object) ∧
        .list id ∈ state.traverse
  | .object id => .object id ∈ dead ∨ ∃ state, heap.objects id = .session state

/-- A reference that the collection leaves. -/
def Left (heap : Heap) (inFlight : List EventHooks) (dead : List Ref) (holder held : Ref) : Prop :=
  held ∈ heap.traverse holder ∧ ¬ Breaks heap inFlight dead holder

section Reclaim

variable {heap : Heap} {inFlight : List EventHooks} {dead : List Ref}

theorem Heap.Garbage.outside {ref : Ref} (garbage : heap.Garbage inFlight ref) :
    (heap.references inFlight).outside ref = 0 := by
  rcases Nat.eq_zero_or_pos ((heap.references inFlight).outside ref) with none | some
  · exact none
  · exact absurd (References.reachable_root some) garbage.2

/-- Only garbage refers to garbage. -/
theorem Heap.Garbage.holder {holder held : Ref} (garbage : heap.Garbage inFlight held)
    (reported : held ∈ heap.traverse holder) : heap.Garbage inFlight holder := by
  refine ⟨(traverse_of_mem reported).1, fun reachable => ?_⟩
  exact garbage.2 (reachable.report reported)

theorem Heap.Garbage.path {holder held : Ref} (garbage : heap.Garbage inFlight held)
    (path : Relation.ReflTransGen (fun holder held => held ∈ (heap.collect inFlight dead).traverse holder)
      holder held) : heap.Garbage inFlight holder := by
  induction path using Relation.ReflTransGen.head_induction_on with
  | refl => exact garbage
  | head edge _ ih => exact ih.holder (traverse_collect edge).1

/-- A handle that is left after its turn has empty lists. -/
theorem Clears.emptied (clears : Clears heap inFlight dead) {id : Nat} {state : EventHooks} {list : ListId}
    (handle : heap.objects id = .session state) (garbage : heap.Garbage inFlight (.object id))
    (kept : .object id ∈ (heap.collect inFlight dead).tracked) (listed : .list list ∈ state.traverse) :
    (heap.collect inFlight dead).lists list = [] :=
  (lists_collect heap inFlight dead list).1
    ⟨.object id, called_of_kept (clears.handles id state handle garbage) kept, state, handle, listed⟩

/-- A cycle of garbage that is left goes through no object that breaks it. -/
theorem Clears.left_of_cycle (clears : Clears heap inFlight dead) {holder held : Ref}
    (garbage : heap.Garbage inFlight holder) (reported : held ∈ (heap.collect inFlight dead).traverse holder)
    (back : Relation.ReflTransGen (fun holder held => held ∈ (heap.collect inFlight dead).traverse holder)
      held holder) : Left heap inFlight dead holder held := by
  rcases traverse_collect reported with ⟨before, kept, cleared⟩
  refine ⟨before, fun breaks => ?_⟩
  cases holder with
  | list list =>
      have inDead : .list list ∈ dead := by
        rcases breaks with among | ⟨id, state, handle, holds, listed⟩
        · exact among
        · exact clears.lists id state handle holds list listed garbage
      rcases cleared inDead with ⟨_, _, same, _⟩
      cases same
  | object id =>
      have handle : ∃ state, heap.objects id = .session state := by
        rcases breaks with among | handle
        · rcases cleared among with ⟨_, state, same, handle⟩
          cases same
          exact ⟨state, handle⟩
        · exact handle
      rcases handle with ⟨state, handle⟩
      have listed : held ∈ state.traverse := by
        have refers := (traverse_of_mem before).2
        change held ∈ (heap.objects id).refs at refers
        rw [handle] at refers
        exact refers
      have list : ∃ list, held = .list list := by
        simp only [EventHooks.traverse, List.mem_cons, List.not_mem_nil, or_false] at listed
        rcases listed with rfl | rfl
        · exact ⟨_, rfl⟩
        · exact ⟨_, rfl⟩
      rcases list with ⟨list, rfl⟩
      have empty := clears.emptied handle garbage kept listed
      rcases back.cases_head with same | ⟨item, here, _⟩
      · cases same
      · have refers := (traverse_of_mem here).2
        change item ∈ (heap.collect inFlight dead).lists list at refers
        rw [empty] at refers
        cases refers

theorem finite_garbage (heap : Heap) (inFlight : List EventHooks) : Finite { ref // heap.Garbage inFlight ref } :=
  Set.Finite.to_subtype (Set.Finite.subset (List.finite_toSet heap.tracked) (fun _ garbage => garbage.1))

/-- Every object that is there is referred to. -/
def Heap.Referred (heap : Heap) (inFlight : List EventHooks) : Prop :=
  ∀ ref ∈ heap.tracked, 0 < heap.refCount inFlight ref

theorem reap_referred {fuel : Nat} (heap : Heap) (enough : heap.tracked.length ≤ fuel) :
    (heap.reap inFlight fuel).Referred inFlight := by
  induction fuel generalizing heap with
  | zero =>
      intro ref there
      have none : heap.tracked = [] := List.length_eq_zero_iff.mp (Nat.le_zero.mp enough)
      change ref ∈ heap.tracked at there
      rw [none] at there
      cases there
  | succ fuel ih =>
      unfold Heap.reap
      split
      · rename_i none
        intro ref there
        exact Nat.pos_of_ne_zero (of_decide_eq_false (Bool.eq_false_iff.mpr (List.find?_eq_none.mp none ref there)))
      · rename_i freed found
        apply ih
        have there := List.mem_of_find?_eq_some found
        have shorter : (heap.tracked.filter (fun ref => decide (ref ≠ freed))).length < heap.tracked.length :=
          List.length_filter_lt_length_iff_exists.mpr ⟨freed, there, by simp⟩
        exact Nat.le_of_lt_succ (Nat.lt_of_lt_of_le shorter enough)

theorem collect_referred (dead : List Ref) (referred : heap.Referred inFlight) :
    (heap.collect inFlight dead).Referred inFlight := by
  refine sweep_keeps (fun (other : Heap) ref (before : other.Referred inFlight) => ?_) referred dead
  unfold Heap.turn
  split
  · apply reap_referred
    rw [tracked_clear]
  · exact before

theorem referred_by {ref : Ref} (referred : heap.Referred inFlight) (there : ref ∈ heap.tracked) :
    0 < (heap.references inFlight).outside ref ∨ ∃ holder ∈ heap.tracked, ref ∈ heap.traverse holder := by
  rcases Nat.add_pos_iff_pos_or_pos.mp (referred ref there) with outside | reported
  · exact Or.inl outside
  · refine Or.inr (Classical.byContradiction fun nobody => Nat.ne_of_gt reported ?_)
    rw [List.sum_eq_zero_iff_forall_eq_nat]
    intro count among
    rcases List.mem_map.mp among with ⟨holder, holds, rfl⟩
    exact List.count_eq_zero.mpr (fun reports => nobody ⟨holder, holds, reports⟩)

/-- What a collection finds to be garbage has its reference counts fall to zero
if every cycle of it goes through the hooks of a handle or another object that
can be cleared, and is gone afterwards. -/
theorem collection_frees_garbage (heap : Heap) (inFlight : List EventHooks) (dead : List Ref)
    (clears : Clears heap inFlight dead)
    (acyclic : forall ref, heap.Garbage inFlight ref ->
      ¬ Relation.TransGen (Left heap inFlight dead) ref ref)
    (ref : Ref) (garbage : heap.Garbage inFlight ref) :
    ((heap.collect inFlight dead).references inFlight).Freed ref ∧
      (heap.Referred inFlight -> ref ∉ (heap.collect inFlight dead).tracked) := by
  have freed : ((heap.collect inFlight dead).references inFlight).Freed ref := by
    refine References.freed_of_acyclic (finite_garbage heap inFlight) ?_ ?_ ?_ garbage
    · intro each garbage
      have outside := garbage.outside
      unfold Heap.references at outside ⊢
      rw [held_collect]
      exact outside
    · intro holder held garbage reported
      exact garbage.holder (traverse_collect reported).1
    · intro each garbage cycle
      apply acyclic each garbage
      refine cycle_restrict (fun holder held reported on back => ?_) cycle .refl
      have inside := garbage.path on
      exact clears.left_of_cycle (inside.holder (traverse_collect reported).1) reported (on.trans back)
  exact ⟨freed, fun referred => freed.gone (fun each there => referred_by (collect_referred dead referred) there)⟩

end Reclaim

/-- An owner that refers to its session, whose response hook is a method of the owner. -/
def hookCycle : Heap where
  tracked := [.object 0, .object 1, .object 2, .list 0, .list 1]
  objects := fun
    | 0 => .other [.object 1]
    | 1 => .session ⟨0, 1⟩
    | 2 => .other [.object 0]
    | _ => .other []
  lists := fun id => if id = 1 then [.object 2] else []
  held := fun _ => 0

theorem traverse_hookCycle (ref : Ref) (reports : hookCycle.traverse ref ≠ []) :
    ref ∈ [Ref.object 0, .object 1, .object 2, .list 1] := by
  rcases List.exists_mem_of_ne_nil _ reports with ⟨held, among⟩
  have tracked := (traverse_of_mem among).1
  simp only [hookCycle, List.mem_cons, List.not_mem_nil, or_false] at tracked
  rcases tracked with rfl | rfl | rfl | rfl | rfl
  · decide
  · decide
  · decide
  · exact absurd rfl reports
  · decide

/-- How far an object is from what the collection breaks. -/
def hookCycleRank : Ref -> Nat
  | .object 2 => 2
  | .object 0 => 1
  | _ => 0

theorem left_hookCycle {holder held : Ref}
    (left : Left hookCycle [] [.object 1, .list 0, .list 1] holder held) :
    hookCycleRank held < hookCycleRank holder := by
  have holders := traverse_hookCycle holder (List.ne_nil_of_mem left.1)
  simp only [List.mem_cons, List.not_mem_nil, or_false] at holders
  rcases holders with rfl | rfl | rfl | rfl
  · cases List.mem_singleton.mp left.1
    decide
  · exact absurd (Or.inl List.mem_cons_self) left.2
  · cases List.mem_singleton.mp left.1
    decide
  · exact absurd (Or.inl (by decide)) left.2

theorem hookCycle_garbage {ref : Ref} (tracked : ref ∈ hookCycle.tracked) : hookCycle.Garbage [] ref :=
  ⟨tracked, References.unreachable_of_closed (fun _ _ => rfl) (fun _ _ _ _ => trivial) trivial⟩

/-- Nothing but the handle and its lists is cleared, and all of the cycle is freed. -/
theorem hookCycle_freed :
    ((hookCycle.collect [] [.object 1, .list 0, .list 1]).references []).Freed (.object 0) ∧
      ((hookCycle.collect [] [.object 1, .list 0, .list 1]).references []).Freed (.object 1) ∧
      ((hookCycle.collect [] [.object 1, .list 0, .list 1]).references []).Freed (.object 2) ∧
      (hookCycle.collect [] [.object 1, .list 0, .list 1]).tracked = [] := by
  have lower : forall {first last : Ref},
      Relation.TransGen (Left hookCycle [] [.object 1, .list 0, .list 1]) first last ->
      hookCycleRank last < hookCycleRank first := by
    intro first last path
    induction path with
    | single left => exact left_hookCycle left
    | tail _ left ih => exact Nat.lt_trans (left_hookCycle left) ih
  have clears : Clears hookCycle [] [.object 1, .list 0, .list 1] := by
    constructor
    case garbage =>
      intro each among
      exact hookCycle_garbage ((by decide : [Ref.object 1, .list 0, .list 1] ⊆ hookCycle.tracked) among)
    case handles =>
      intro id state handle _
      rcases id with _ | _ | _ | id
      · cases handle
      · exact List.mem_cons_self
      · cases handle
      · cases handle
    case lists =>
      intro id state _ _ list _ garbage
      have tracked := garbage.1
      simp only [hookCycle, List.mem_cons, List.not_mem_nil, or_false, reduceCtorEq, false_or] at tracked
      rcases tracked with same | same
      · rw [same]
        decide
      · rw [same]
        decide
  have referred : hookCycle.Referred [] := by
    change ∀ ref ∈ hookCycle.tracked, 0 < hookCycle.refCount [] ref
    decide
  have freed : forall ref, ref ∈ hookCycle.tracked ->
      ((hookCycle.collect [] [.object 1, .list 0, .list 1]).references []).Freed ref ∧
        ref ∉ (hookCycle.collect [] [.object 1, .list 0, .list 1]).tracked := by
    intro ref tracked
    rcases collection_frees_garbage hookCycle [] _ clears
      (fun each _ cycle => Nat.lt_irrefl _ (lower cycle)) ref (hookCycle_garbage tracked) with ⟨freed, gone⟩
    exact ⟨freed, gone referred⟩
  refine ⟨(freed _ (by decide)).1, (freed _ (by decide)).1, (freed _ (by decide)).1, ?_⟩
  rw [List.eq_nil_iff_forall_not_mem]
  intro ref left
  exact (freed ref (tracked_collect hookCycle [] [] _ left)).2 left

/-! ## Callbacks of middleware -/

/-- `MiddlewareSlots`: the callbacks of one middleware, in the Rust heap. -/
structure Slots where
  onRequest : Option Ref
  onResponse : Option Ref

namespace Slots

def callbacks (slots : Slots) : List Ref := slots.onRequest.toList ++ slots.onResponse.toList

def release (_ : Slots) : Slots := ⟨none, none⟩

end Slots

/-- What the handles of a session share. -/
structure SessionState where
  hooks : EventHooks
  middleware : List Slots

def SessionState.callbacks (state : SessionState) : List Ref := state.middleware.flatMap Slots.callbacks

/-- A heap with the sessions that are alive. -/
structure World where
  heap : Heap
  sessions : List SessionState

namespace World

def callbacks (sessions : List SessionState) : List Ref := sessions.flatMap SessionState.callbacks

/-- The collector sees that there are references to the callbacks, and not whose they are. -/
def visible (world : World) : Heap :=
  { world.heap with held := fun ref => world.heap.held ref + (callbacks world.sessions).count ref }

/-- `close`. -/
def close (world : World) (index : Nat) (state : SessionState) : World where
  heap := world.heap.clearHooks state.hooks
  sessions := world.sessions.set index { state with middleware := state.middleware.map Slots.release }

end World

/-- A group of objects that only the middleware of one session refers to. -/
structure Owns (world : World) (inFlight : List EventHooks) (index : Nat) (group : Ref -> Prop) : Prop where
  tracked : forall ref, group ref -> ref ∈ world.heap.tracked
  holders : forall holder held, group held -> held ∈ world.heap.traverse holder -> group holder
  held : forall ref, group ref -> world.heap.held ref = 0
  requests : ∀ hooks ∈ inFlight, forall ref, group ref -> ref ∉ hooks.traverse
  foreign : forall (other : Nat) (state : SessionState), other ≠ index -> world.sessions[other]? = some state ->
    forall ref, group ref -> ref ∉ state.callbacks

section Middleware

variable {world : World} {inFlight : List EventHooks} {index : Nat} {state : SessionState}

theorem callbacks_release (state : SessionState) :
    ({ state with middleware := state.middleware.map Slots.release } : SessionState).callbacks = [] := by
  unfold SessionState.callbacks
  rw [List.flatMap_eq_nil_iff]
  intro slots among
  rcases List.mem_map.mp among with ⟨_, _, rfl⟩
  rfl

theorem traverse_clearHooks {hooks : EventHooks} {holder held : Ref} {heap : Heap}
    (reported : held ∈ (heap.clearHooks hooks).traverse holder) : held ∈ heap.traverse holder := by
  rcases traverse_of_mem reported with ⟨there, refers⟩
  unfold Heap.traverse
  rw [if_pos (show holder ∈ heap.tracked from there)]
  cases holder with
  | list list =>
      change held ∈ (heap.clearHooks hooks).lists list at refers
      rw [lists_clearHooks] at refers
      split at refers
      · cases refers
      · exact refers
  | object object => exact refers

/-- As long as the session is open, whatever a callback of its middleware refers
back to is in use.  When it has been closed, a group that nobody else refers to
is garbage. -/
theorem close_ends_middleware_cycles (world : World) (inFlight : List EventHooks) (index : Nat)
    (state : SessionState) (group : Ref -> Prop) (found : world.sessions[index]? = some state)
    (owns : Owns world inFlight index group) :
    (∀ callback ∈ state.callbacks, forall ref,
      Relation.ReflTransGen (fun holder held => held ∈ world.heap.traverse holder) callback ref ->
        ¬ world.visible.Garbage inFlight ref) ∧
      forall ref, group ref -> (world.close index state).visible.Garbage inFlight ref := by
  constructor
  · rintro callback among ref path ⟨_, unreachable⟩
    apply unreachable
    have counted : 0 < (World.callbacks world.sessions).count callback :=
      List.count_pos_iff.mpr (List.mem_flatMap.mpr ⟨state, List.mem_of_getElem? found, among⟩)
    have root : (world.visible.references inFlight).Reachable callback := by
      apply References.reachable_root
      change 0 < world.heap.held callback + (World.callbacks world.sessions).count callback + _
      omega
    exact root.path path
  · intro ref inside
    refine ⟨owns.tracked ref inside, References.unreachable_of_closed ?_ ?_ inside⟩
    · intro each member
      have none : each ∉ World.callbacks (world.close index state).sessions := by
        intro among
        rcases List.mem_flatMap.mp among with ⟨other, present, called⟩
        rcases List.mem_iff_getElem?.mp present with ⟨place, there⟩
        by_cases same : index = place
        · subst same
          have here := (List.getElem?_set_self (List.getElem?_eq_some_iff.mp found).1).symm.trans there
          cases Option.some.inj here
          rw [callbacks_release] at called
          cases called
        · have before := (List.getElem?_set_ne same).symm.trans there
          exact owns.foreign place other (Ne.symm same) before each member called
      have idle : (inFlight.map (fun hooks => hooks.traverse.count each)).sum = 0 := by
        apply List.sum_eq_zero
        intro count among
        rcases List.mem_map.mp among with ⟨hooks, present, rfl⟩
        exact List.count_eq_zero.mpr (owns.requests hooks present each member)
      change world.heap.held each + (World.callbacks (world.close index state).sessions).count each + _ = 0
      rw [owns.held each member, List.count_eq_zero.mpr none, idle]
    · intro holder held member reported
      exact owns.holders holder held member (traverse_clearHooks reported)

end Middleware

/-- The session of `hookCycle` with a middleware whose callback is a method of the owner. -/
def callbackCycle : World where
  heap := hookCycle
  sessions := [⟨⟨0, 1⟩, [⟨some (.object 2), none⟩]⟩]

theorem callbackCycle_garbage :
    ¬ callbackCycle.visible.Garbage [] (.object 1) ∧
      forall ref, ref ∈ hookCycle.tracked ->
        (callbackCycle.close 0 ⟨⟨0, 1⟩, [⟨some (.object 2), none⟩]⟩).visible.Garbage [] ref := by
  have tracked : [Ref.object 0, .object 1, .object 2, .list 1] ⊆ hookCycle.tracked := by decide
  have owns : Owns callbackCycle [] 0 (fun ref => ref ∈ hookCycle.tracked) := by
    refine ⟨fun _ => id, fun holder held _ reported => ?_, fun _ _ => rfl, fun _ absurd => ?_, ?_⟩
    · exact tracked (traverse_hookCycle holder (List.ne_nil_of_mem reported))
    · cases absurd
    · intro other state foreign there
      rcases other with _ | other
      · exact absurd rfl foreign
      · cases there
  rcases close_ends_middleware_cycles callbackCycle [] 0 _ _ rfl owns with ⟨pinned, garbage⟩
  refine ⟨pinned (.object 2) (by decide) (.object 1) ?_, garbage⟩
  have owner : Ref.object 0 ∈ callbackCycle.heap.traverse (.object 2) := by decide
  have handle : Ref.object 1 ∈ callbackCycle.heap.traverse (.object 0) := by decide
  exact .tail (.single owner) handle

end Collection
end Session
end Lkrequest
