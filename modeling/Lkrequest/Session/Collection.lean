import Lkrequest.Foundations.Collector
import Mathlib.Algebra.GroupWithZero.Nat
import Mathlib.Algebra.Order.BigOperators.Group.List
import Mathlib.Algebra.Order.Group.Nat

namespace Lkrequest
namespace Session
namespace Collection

open Foundations

/-!
# Hook lists and the cycle collector

The hooks of a session are in two Python lists.  A handle reports the lists
from `__traverse__`, and a list reports its items.  A request in flight holds
references to the same lists, which nobody reports, so the lists of a live
request are always in use.  The handle need not be: when the collector finds it
in a cycle of garbage it calls `__clear__`, and that empties the lists in place.
Only a handle that has lost its last reference before its turn comes goes without
that, and drops its references.
-/

/-! ## The heap -/

abbrev ListId := Nat

inductive Ref
  | object (id : Nat)
  | list (id : ListId)
deriving DecidableEq

/-- The hooks of a session, as references to two lists. -/
structure EventHooks where
  requestHooks : ListId
  responseHooks : ListId
deriving DecidableEq

/-- A session handle, or any other object by what it reports. -/
inductive Object
  | session (hooks : EventHooks)
  | other (refs : List Ref)

/-- `tracked` are the objects that are there and that the collector knows.
`held` counts the references to an object that nobody reports, those of requests
in flight apart: a local variable, a module, native code. -/
structure Heap where
  tracked : List Ref
  objects : Nat -> Object
  lists : ListId -> List Ref
  held : Ref -> Nat

namespace EventHooks

/-- `traverse`. -/
def traverse (hooks : EventHooks) : List Ref := [.list hooks.requestHooks, .list hooks.responseHooks]

/-- `fire_response`: the snapshot that it calls. -/
def fireResponse (hooks : EventHooks) (heap : Heap) : List Ref := heap.lists hooks.responseHooks

end EventHooks

def Object.refs : Object -> List Ref
  | .session hooks => hooks.traverse
  | .other refs => refs

namespace Heap

/-- What an object refers to. -/
def refs (heap : Heap) : Ref -> List Ref
  | .list id => heap.lists id
  | .object id => (heap.objects id).refs

/-- `__traverse__`, `list_traverse` and the like.  An object that was freed
refers to nothing. -/
def traverse (heap : Heap) (ref : Ref) : List Ref := if ref ∈ heap.tracked then heap.refs ref else []

/-- `empty`: the list loses its items in place. -/
def empty (heap : Heap) (id : ListId) : Heap :=
  { heap with lists := Function.update heap.lists id [] }

/-- `EventHooks::clear`. -/
def clearHooks (heap : Heap) (hooks : EventHooks) : Heap :=
  (heap.empty hooks.requestHooks).empty hooks.responseHooks

/-- `tp_clear`, which is `clear_for_gc` for a handle. -/
def clear (heap : Heap) : Ref -> Heap
  | .list id => heap.empty id
  | .object id =>
      match heap.objects id with
      | .session hooks => heap.clearHooks hooks
      | .other _ => { heap with objects := Function.update heap.objects id (.other []) }

/-- What other code does to a hook list before it is fired: `on_response`, or
the `empty` of a `close()`. -/
inductive HookEvent
  | push (id : ListId) (callback : Ref)
  | empty (id : ListId)

def hookStep (heap : Heap) : HookEvent -> Heap
  | .push id callback =>
      { heap with lists := Function.update heap.lists id (heap.lists id ++ [callback]) }
  | .empty id => heap.empty id

/-- The heap some such events later. -/
def after (heap : Heap) (events : List HookEvent) : Heap := events.foldl hookStep heap

/-- What the collector sees while requests are in flight, each with its clone
of the `EventHooks`. -/
def references (heap : Heap) (inFlight : List EventHooks) : References Ref where
  reports := heap.traverse
  outside := fun ref =>
    heap.held ref + (inFlight.map (fun hooks => hooks.traverse.count ref)).sum

/-- What the collector finds to be unreachable. -/
def Garbage (heap : Heap) (inFlight : List EventHooks) (ref : Ref) : Prop :=
  ref ∈ heap.tracked ∧ ¬ (heap.references inFlight).Reachable ref

/-- `Py_REFCNT`. -/
def refCount (heap : Heap) (inFlight : List EventHooks) (ref : Ref) : Nat :=
  (heap.references inFlight).outside ref +
    (heap.tracked.map (fun holder => (heap.traverse holder).count ref)).sum

/-- `tp_dealloc` of the objects whose count has fallen to zero, one of them at a
time, and of those that only they referred to. -/
def reap (inFlight : List EventHooks) : Nat -> Heap -> Heap
  | 0, heap => heap
  | fuel + 1, heap =>
      match heap.tracked.find? (fun ref => decide (heap.refCount inFlight ref = 0)) with
      | none => heap
      | some freed =>
          reap inFlight fuel { heap with tracked := heap.tracked.filter (fun ref => decide (ref ≠ freed)) }

/-- A turn of `delete_garbage`: the object is cleared, unless it is gone. -/
def turn (inFlight : List EventHooks) (heap : Heap) (ref : Ref) : Heap :=
  if ref ∈ heap.tracked then (heap.clear ref).reap inFlight heap.tracked.length else heap

/-- The collector goes through the garbage, in some order. -/
def collect (heap : Heap) (inFlight : List EventHooks) (dead : List Ref) : Heap :=
  sweep (turn inFlight) heap dead

/-- The collector comes to clear the object: it has not been freed when its turn comes. -/
def Called (heap : Heap) (inFlight : List EventHooks) (dead : List Ref) (ref : Ref) : Prop :=
  ∃ early late, dead = early ++ ref :: late ∧ ref ∈ (heap.collect inFlight early).tracked

end Heap

/-! ## What is in use -/

section Reachable

variable {heap : Heap} {inFlight : List EventHooks} {hooks : EventHooks}

/-- Both lists of a request in flight are in use. -/
theorem lists_reachable (member : hooks ∈ inFlight) {ref : Ref} (listed : ref ∈ hooks.traverse) :
    (heap.references inFlight).Reachable ref := by
  apply References.reachable_root
  have counted : 0 < hooks.traverse.count ref := List.count_pos_iff.mpr listed
  have share : hooks.traverse.count ref ≤ (inFlight.map (fun each => each.traverse.count ref)).sum :=
    List.le_sum_of_mem (List.mem_map_of_mem member)
  change 0 < heap.held ref + (inFlight.map (fun each => each.traverse.count ref)).sum
  omega

/-- A handle that one of the hooks refers back to stays in use while the
request is in flight: the usual cycle of an owner, its session and a bound
method is no garbage yet. -/
theorem handle_reachable (member : hooks ∈ inFlight) (there : .list hooks.responseHooks ∈ heap.tracked)
    {hook : Ref} {id : Nat} (registered : hook ∈ hooks.fireResponse heap)
    (back : Relation.ReflTransGen (fun holder held => held ∈ heap.traverse holder) hook (.object id)) :
    ¬ heap.Garbage inFlight (.object id) := by
  rintro ⟨_, unreachable⟩
  apply unreachable
  have list : (heap.references inFlight).Reachable (.list hooks.responseHooks) :=
    lists_reachable member (by simp [EventHooks.traverse])
  have reported : hook ∈ heap.traverse (.list hooks.responseHooks) := by
    unfold Heap.traverse
    rw [if_pos there]
    exact registered
  exact (list.report reported).path back

end Reachable

/-! ## What a collection does to a list -/

/-- Clearing it empties the list. -/
def Empties (heap : Heap) (id : ListId) : Ref -> Prop
  | .list other => other = id
  | .object object => ∃ state, heap.objects object = .session state ∧ .list id ∈ state.traverse

/-- The handles of a heap are those of another. -/
def SameHandles (heap other : Heap) : Prop :=
  forall id state, other.objects id = .session state <-> heap.objects id = .session state

section Collect

variable {heap other : Heap} {inFlight : List EventHooks} {dead : List Ref} {ref : Ref}

/-- Nothing but the objects that are there changes when some are freed. -/
theorem reap_only (fuel : Nat) (heap : Heap) :
    ∃ left, left ⊆ heap.tracked ∧ heap.reap inFlight fuel = { heap with tracked := left } := by
  induction fuel generalizing heap with
  | zero => exact ⟨heap.tracked, List.Subset.refl _, rfl⟩
  | succ fuel ih =>
      unfold Heap.reap
      split
      · exact ⟨heap.tracked, List.Subset.refl _, rfl⟩
      · rename_i freed _
        rcases ih { heap with tracked := heap.tracked.filter (fun ref => decide (ref ≠ freed)) } with
          ⟨left, subset, same⟩
        exact ⟨left, List.Subset.trans subset (List.filter_subset_self _), same⟩

theorem tracked_clear (heap : Heap) (ref : Ref) : (heap.clear ref).tracked = heap.tracked := by
  cases ref with
  | list list => rfl
  | object object =>
      unfold Heap.clear
      dsimp only
      split <;> rfl

/-- In its turn an object is cleared, and some objects are freed. -/
theorem turn_there (there : ref ∈ heap.tracked) :
    ∃ left, left ⊆ heap.tracked ∧ heap.turn inFlight ref = { heap.clear ref with tracked := left } := by
  unfold Heap.turn
  rw [if_pos there]
  rcases reap_only heap.tracked.length (heap.clear ref) with ⟨left, subset, same⟩
  rw [tracked_clear] at subset
  exact ⟨left, subset, same⟩

theorem turn_gone (gone : ref ∉ heap.tracked) : heap.turn inFlight ref = heap := if_neg gone

theorem tracked_turn (heap : Heap) (ref : Ref) : (heap.turn inFlight ref).tracked ⊆ heap.tracked := by
  by_cases there : ref ∈ heap.tracked
  · rcases turn_there there with ⟨left, subset, same⟩
    rw [same]
    exact subset
  · rw [turn_gone there]
    exact List.Subset.refl _

theorem SameHandles.clear (same : SameHandles heap other) : SameHandles heap (other.clear ref) := by
  intro id state
  rw [← same id state]
  cases ref with
  | list list => rfl
  | object object =>
      cases found : other.objects object with
      | session hooks => simp only [Heap.clear, found, Heap.clearHooks, Heap.empty]
      | other refs =>
          simp only [Heap.clear, found, Function.update_apply]
          split
          · rename_i here
            rw [here, found]
            simp only [reduceCtorEq]
          · rfl

theorem SameHandles.turn (same : SameHandles heap other) : SameHandles heap (other.turn inFlight ref) := by
  by_cases there : ref ∈ other.tracked
  · rcases turn_there there with ⟨left, _, turned⟩
    rw [turned]
    exact same.clear
  · rw [turn_gone there]
    exact same

/-- A collection only frees objects that are there. -/
theorem tracked_collect (heap : Heap) (inFlight : List EventHooks) (early late : List Ref) :
    (heap.collect inFlight (early ++ late)).tracked ⊆ (heap.collect inFlight early).tracked := by
  unfold Heap.collect sweep
  rw [List.foldl_append]
  exact sweep_keeps (fun (other : Heap) ref subset => List.Subset.trans (tracked_turn other ref) subset)
    (List.Subset.refl _) late

/-- An object that is still there afterwards was cleared. -/
theorem called_of_kept (inDead : ref ∈ dead) (kept : ref ∈ (heap.collect inFlight dead).tracked) :
    heap.Called inFlight dead ref := by
  rcases List.append_of_mem inDead with ⟨early, late, rfl⟩
  exact ⟨early, late, rfl, tracked_collect heap inFlight early _ kept⟩

/-- What is reset by those objects that the collector comes to clear. -/
theorem someTurn_iff {resets : Ref -> Prop} :
    SomeTurn (Heap.turn inFlight) heap dead (fun other ref => ref ∈ other.tracked ∧ resets ref) <->
      ∃ ref, heap.Called inFlight dead ref ∧ resets ref := by
  constructor
  · rintro ⟨early, ref, late, split, there, resetting⟩
    exact ⟨ref, ⟨early, late, split, there⟩, resetting⟩
  · rintro ⟨ref, ⟨early, late, split, there⟩, resetting⟩
    exact ⟨early, ref, late, split, there, resetting⟩

theorem lists_empty (id list : ListId) :
    (heap.empty list).lists id = if id = list then [] else heap.lists id :=
  Function.update_apply heap.lists list [] id

theorem lists_clearHooks (id : ListId) (hooks : EventHooks) :
    (heap.clearHooks hooks).lists id =
      if Ref.list id ∈ hooks.traverse then [] else heap.lists id := by
  rw [Heap.clearHooks, lists_empty, lists_empty]
  by_cases response : id = hooks.responseHooks <;> by_cases request : id = hooks.requestHooks <;>
    simp [EventHooks.traverse, response, request]

/-- Clearing an object empties the lists it stands for, and no others. -/
theorem lists_clear (same : SameHandles heap other) (id : ListId) (ref : Ref) :
    (Empties heap id ref -> (other.clear ref).lists id = []) ∧
      (¬ Empties heap id ref -> (other.clear ref).lists id = other.lists id) := by
  cases ref with
  | list list =>
      simp only [Heap.clear, lists_empty, Empties]
      constructor
      · intro here
        rw [if_pos here.symm]
      · intro different
        rw [if_neg (fun here => different here.symm)]
  | object object =>
      cases found : other.objects object with
      | session state =>
          have handle := (same object state).mp found
          simp only [Heap.clear, found, lists_clearHooks, Empties, handle, Object.session.injEq,
            exists_eq_left']
          constructor
          · intro reports
            rw [if_pos reports]
          · intro apart
            rw [if_neg apart]
      | other refs =>
          have noHandle : ¬ Empties heap id (.object object) := by
            rintro ⟨state, handle, _⟩
            rw [(same object state).mpr handle] at found
            cases found
          simp only [Heap.clear, found]
          constructor
          · intro empties
            exact absurd empties noHandle
          · intro _
            trivial

/-- A list is empty after a collection that comes to clear a handle with it, or
the list itself, and what it was otherwise. -/
theorem lists_collect (heap : Heap) (inFlight : List EventHooks) (dead : List Ref) (id : ListId) :
    ((∃ ref, heap.Called inFlight dead ref ∧ Empties heap id ref) ->
        (heap.collect inFlight dead).lists id = []) ∧
      (¬ (∃ ref, heap.Called inFlight dead ref ∧ Empties heap id ref) ->
        (heap.collect inFlight dead).lists id = heap.lists id) := by
  rw [← someTurn_iff]
  refine @sweep_value Heap Ref (List Ref) (Heap.turn inFlight) (fun each => each.lists id) []
    (SameHandles heap) _ (fun _ _ same => same.turn) ?_ ?_ heap (fun _ _ => Iff.rfl) dead
  · rintro other ref same ⟨there, empties⟩
    rcases turn_there there with ⟨left, _, turned⟩
    rw [turned]
    exact (lists_clear same id ref).1 empties
  · intro other ref same idle
    by_cases there : ref ∈ other.tracked
    · rcases turn_there there with ⟨left, _, turned⟩
      rw [turned]
      exact (lists_clear same id ref).2 (fun empties => idle ⟨there, empties⟩)
    · rw [turn_gone there]

end Collect

/-- What happens to a list afterwards depends on its items only. -/
theorem lists_after {heap other : Heap} {id : ListId} (same : other.lists id = heap.lists id)
    (events : List Heap.HookEvent) : (other.after events).lists id = (heap.after events).lists id := by
  induction events generalizing heap other with
  | nil => exact same
  | cons event rest ih =>
      apply ih
      cases event with
      | push changed callback =>
          simp only [Heap.hookStep, Function.update_apply]
          split
          · rename_i here
            rw [← here, same]
          · exact same
      | empty changed =>
          simp only [Heap.hookStep, lists_empty]
          split
          · rfl
          · exact same

/-! ## The contract -/

/-- An owner that refers to itself and to its session, which has one response
hook.  `back` is what the hook refers to. -/
def ownerCycle (back : List Ref) : Heap where
  tracked := [.object 0, .object 1, .object 2, .list 0, .list 1]
  objects := fun
    | 0 => .other [.object 0, .object 1]
    | 1 => .session ⟨0, 1⟩
    | 2 => .other back
    | _ => .other []
  lists := fun id => if id = 1 then [.object 2] else []
  held := fun _ => 0

/-- An owner that is older than its session takes the handle with it, and the hook stays. -/
example : (⟨0, 1⟩ : EventHooks).fireResponse ((ownerCycle []).collect [⟨0, 1⟩] [.object 0, .object 1]) =
    [.object 2] ∧ .object 1 ∉ ((ownerCycle []).collect [⟨0, 1⟩] [.object 0]).tracked := by
  decide

end Collection
end Session
end Lkrequest
