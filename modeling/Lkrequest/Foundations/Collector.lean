import Mathlib.Data.List.Basic
import Mathlib.Data.List.Induction
import Mathlib.Logic.Relation

namespace Foundations

universe u v w

/-!
# Tracing collection

A collector over reference counts sees what every object reports, and knows an
object to be in use when it has a reference that no report accounts for.  What
cannot be reached from those objects along reports is cleared, one object after
the other and in no particular order.

Clearing an object may change more than the object, and may free objects whose
turn has not come.  The last rule says what remains of one observation of the
heap after a sweep in which every turn either resets it or leaves it alone.
-/

/-- What a collector sees. -/
structure References (Obj : Type u) where
  reports : Obj -> List Obj
  outside : Obj -> Nat

namespace References

variable {Obj : Type u} (refs : References Obj)

/-- Reachable along reports from an object that is referred to from outside. -/
def Reachable (obj : Obj) : Prop :=
  ∃ root, 0 < refs.outside root ∧
    Relation.ReflTransGen (fun holder held => held ∈ refs.reports holder) root obj

variable {refs}

theorem reachable_root {root : Obj} (outside : 0 < refs.outside root) : refs.Reachable root :=
  ⟨root, outside, .refl⟩

theorem Reachable.path {holder held : Obj} (reachable : refs.Reachable holder)
    (path : Relation.ReflTransGen (fun holder held => held ∈ refs.reports holder) holder held) :
    refs.Reachable held := by
  rcases reachable with ⟨root, outside, before⟩
  exact ⟨root, outside, before.trans path⟩

theorem Reachable.report {holder held : Obj} (reachable : refs.Reachable holder)
    (reported : held ∈ refs.reports holder) : refs.Reachable held :=
  reachable.path (.single reported)

/-- A set that has all roots and all that its members report has everything
that is reachable. -/
theorem Reachable.inside {obj : Obj} (reachable : refs.Reachable obj) (set : Obj -> Prop)
    (roots : forall root, 0 < refs.outside root -> set root)
    (closed : forall holder held, set holder -> held ∈ refs.reports holder -> set held) : set obj := by
  rcases reachable with ⟨root, outside, path⟩
  induction path with
  | refl => exact roots root outside
  | tail _ reported ih => exact closed _ _ ih reported

end References

/-! ## Sweeping -/

section Sweep

variable {Heap : Type v} {Obj : Type u} {Value : Type w}

/-- Clear the dead objects one after the other. -/
def sweep (clear : Heap -> Obj -> Heap) (heap : Heap) (dead : List Obj) : Heap := dead.foldl clear heap

/-- At the turn of one of the objects this holds of the heap and the object. -/
def SomeTurn (clear : Heap -> Obj -> Heap) (heap : Heap) (dead : List Obj) (holds : Heap -> Obj -> Prop) : Prop :=
  ∃ early obj late, dead = early ++ obj :: late ∧ holds (sweep clear heap early) obj

variable {clear : Heap -> Obj -> Heap} {value : Heap -> Value} {empty : Value}
variable {Keeps : Heap -> Prop} {resets : Heap -> Obj -> Prop}

theorem sweep_snoc (heap : Heap) (dead : List Obj) (last : Obj) :
    sweep clear heap (dead ++ [last]) = clear (sweep clear heap dead) last := by
  unfold sweep
  rw [List.foldl_append]
  rfl

theorem sweep_keeps (kept : forall heap obj, Keeps heap -> Keeps (clear heap obj)) {heap : Heap}
    (keeps : Keeps heap) (dead : List Obj) : Keeps (sweep clear heap dead) := by
  induction dead generalizing heap with
  | nil => exact keeps
  | cons first rest ih => exact ih (kept heap first keeps)

theorem someTurn_snoc {heap : Heap} {dead : List Obj} {last : Obj} {holds : Heap -> Obj -> Prop} :
    SomeTurn clear heap (dead ++ [last]) holds <->
      SomeTurn clear heap dead holds ∨ holds (sweep clear heap dead) last := by
  constructor
  · rintro ⟨early, obj, late, split, here⟩
    rcases List.eq_nil_or_concat' late with rfl | ⟨late, final, rfl⟩
    · rcases List.append_inj' split rfl with ⟨rfl, same⟩
      cases same
      exact Or.inr here
    · rw [← List.cons_append, ← List.append_assoc] at split
      exact Or.inl ⟨early, obj, late, (List.append_inj' split rfl).1, here⟩
  · rintro (⟨early, obj, late, rfl, here⟩ | here)
    · exact ⟨early, obj, late ++ [last], by rw [List.append_assoc, List.cons_append], here⟩
    · exact ⟨dead, last, [], rfl, here⟩

/-- While a sweep goes on, a value is what it was until the turn of an object
that resets it, and empty from then on. -/
theorem sweep_value (kept : forall heap obj, Keeps heap -> Keeps (clear heap obj))
    (reset : forall heap obj, Keeps heap -> resets heap obj -> value (clear heap obj) = empty)
    (frame : forall heap obj, Keeps heap -> ¬ resets heap obj -> value (clear heap obj) = value heap)
    {heap : Heap} (keeps : Keeps heap) (dead : List Obj) :
    (SomeTurn clear heap dead resets -> value (sweep clear heap dead) = empty) ∧
      (¬ SomeTurn clear heap dead resets -> value (sweep clear heap dead) = value heap) := by
  induction dead using List.reverseRecOn with
  | nil =>
      constructor
      · rintro ⟨early, obj, late, split, _⟩
        exact absurd split.symm (by simp)
      · intro _
        rfl
  | append_singleton dead last ih =>
      have still := sweep_keeps kept keeps dead
      rw [someTurn_snoc, sweep_snoc]
      by_cases resetting : resets (sweep clear heap dead) last
      · exact ⟨fun _ => reset _ last still resetting, fun none => absurd (Or.inr resetting) none⟩
      · rw [frame _ last still resetting]
        constructor
        · rintro (before | here)
          · exact ih.1 before
          · exact absurd here resetting
        · exact fun none => ih.2 (fun before => none (Or.inl before))

end Sweep
end Foundations
