import Lkrequest.Foundations.Collector
import Mathlib.Data.Fintype.Card

namespace Foundations

universe u

/-!
# Objects that are freed

An object is freed when its reference count falls to zero: nothing refers to it
from outside, and every object that reports it has been freed before.  A cycle
keeps its members from that, so finitely many objects that only refer to each
other are freed when no cycle is left.
-/

/-! ## Cycles -/

section Cycles

variable {Obj : Type u} {edge : Obj -> Obj -> Prop}

/-- Every edge of a path that is closed to a cycle is one of those that are
kept on cycles. -/
theorem cycle_restrict {kept : Obj -> Obj -> Prop} {first last : Obj}
    (keeps : forall holder held, edge holder held -> Relation.ReflTransGen edge held last ->
      Relation.ReflTransGen edge last holder -> kept holder held)
    (path : Relation.TransGen edge first last) (back : Relation.ReflTransGen edge last first) :
    Relation.TransGen kept first last := by
  induction path using Relation.TransGen.head_induction_on with
  | single last_edge => exact .single (keeps _ _ last_edge .refl back)
  | head first_edge path ih =>
      exact .head (keeps _ _ first_edge path.to_reflTransGen back) (ih (back.tail first_edge))

/-- In a finite set without cycles every object is reached by paths of a bounded length only. -/
theorem acc_of_acyclic (set : Obj -> Prop) (finite : Finite { obj // set obj })
    (closed : forall holder held, set held -> edge holder held -> set holder)
    (acyclic : forall obj, set obj -> ¬ Relation.TransGen edge obj obj) {obj : Obj} (inside : set obj) :
    Acc edge obj := by
  have lower : forall {first last : { obj // set obj }},
      Relation.TransGen (fun holder held : { obj // set obj } => edge holder.1 held.1) first last ->
        Relation.TransGen edge first.1 last.1 := by
    intro first last path
    induction path with
    | single step => exact .single step
    | tail _ step ih => exact .tail ih step
  have founded : WellFounded
      (Relation.TransGen (fun holder held : { obj // set obj } => edge holder.1 held.1)) := by
    have irreflexive : Std.Irrefl
        (Relation.TransGen (fun holder held : { obj // set obj } => edge holder.1 held.1)) :=
      ⟨fun obj cycle => acyclic obj.1 obj.2 (lower cycle)⟩
    exact Finite.wellFounded_of_trans_of_irrefl _
  have general : forall member : { obj // set obj }, Acc edge member.1 := by
    intro member
    induction member using founded.induction with
    | h member ih =>
        constructor
        intro holder holds
        exact ih ⟨holder, closed _ _ member.2 holds⟩ (.single holds)
  exact general ⟨obj, inside⟩

end Cycles

/-! ## Reference counts -/

namespace References

variable {Obj : Type u}

/-- The last reference to the object goes. -/
inductive Freed (refs : References Obj) : Obj -> Prop
  | intro (obj : Obj) (outside : refs.outside obj = 0)
      (holders : forall holder, obj ∈ refs.reports holder -> Freed refs holder) : Freed refs obj

/-- The objects of a finite set are freed if nothing outside refers to them and
there is no cycle among them. -/
theorem freed_of_acyclic {refs : References Obj} {set : Obj -> Prop} (finite : Finite { obj // set obj })
    (outside : forall obj, set obj -> refs.outside obj = 0)
    (closed : forall holder held, set held -> held ∈ refs.reports holder -> set holder)
    (acyclic : forall obj, set obj ->
      ¬ Relation.TransGen (fun holder held => held ∈ refs.reports holder) obj obj)
    {obj : Obj} (inside : set obj) : refs.Freed obj := by
  have founded := acc_of_acyclic set finite closed acyclic inside
  induction founded with
  | intro obj _ ih =>
      exact .intro obj (outside obj inside) (fun holder holds => ih holder holds (closed holder obj inside holds))

/-- Where every object that is there is referred to, none that is to be freed is there. -/
theorem Freed.gone {refs : References Obj} {there : Obj -> Prop}
    (referred : forall obj, there obj ->
      0 < refs.outside obj ∨ ∃ holder, there holder ∧ obj ∈ refs.reports holder)
    {obj : Obj} (freed : refs.Freed obj) : ¬ there obj := by
  induction freed with
  | intro obj outside _ ih =>
      intro present
      rcases referred obj present with held | ⟨holder, holds, reported⟩
      · exact Nat.ne_of_gt held outside
      · exact ih holder reported holds

/-- A set that nothing outside refers to, and that has all who report its
members, is not in use. -/
theorem unreachable_of_closed {refs : References Obj} {set : Obj -> Prop}
    (outside : forall obj, set obj -> refs.outside obj = 0)
    (closed : forall holder held, set held -> held ∈ refs.reports holder -> set holder) {obj : Obj}
    (inside : set obj) : ¬ refs.Reachable obj := by
  intro reachable
  refine reachable.inside (fun each => ¬ set each) ?_ ?_ inside
  · intro root held inSet
    exact Nat.ne_of_gt held (outside root inSet)
  · intro holder held apart reported inSet
    exact apart (closed holder held inSet reported)

end References
end Foundations
