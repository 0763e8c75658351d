import Mathlib.Data.List.Basic
import Mathlib.Data.List.Nodup
import Mathlib.Data.List.Perm.Basic

namespace Foundations

/-!
# Items under keys

Every item has a key.  The items are put together of the groups under the keys
that there are, and a list with one item for each key is told by its groups.
-/

section Grouping

variable {Item Key : Type} [DecidableEq Key] (keyOf : Item -> Key)

/-- The items under a key, in their order. -/
def group (key : Key) (items : List Item) : List Item :=
  items.filter (fun item => keyOf item = key)

variable {keyOf} {key : Key} {keys : List Key} {items : List Item}

theorem mem_group {item : Item} : item ∈ group keyOf key items <-> item ∈ items ∧ keyOf item = key := by
  unfold group
  rw [List.mem_filter, decide_eq_true_iff]

theorem group_append (key : Key) (first second : List Item) :
    group keyOf key (first ++ second) = group keyOf key first ++ group keyOf key second :=
  List.filter_append ..

theorem group_singleton (key : Key) (item : Item) :
    group keyOf key [item] = if keyOf item = key then [item] else [] := by
  unfold group
  by_cases own : keyOf item = key <;> simp [own]

theorem group_filter (test : Item -> Bool) (items : List Item) :
    group keyOf key (items.filter test) = (group keyOf key items).filter test := by
  unfold group
  rw [List.filter_filter, List.filter_filter]
  congr 1
  funext item
  exact Bool.and_comm _ _

theorem group_group (key : Key) (items : List Item) :
    group keyOf key (group keyOf key items) = group keyOf key items := by
  unfold group
  rw [List.filter_filter]
  congr 1
  funext item
  exact Bool.and_self _

/-- What is made of the items keeps their groups, when it keeps their keys. -/
theorem group_filterMap {Made : Type} {madeKey : Made -> Key} {make : Item -> Option Made}
    (keeps : forall item made, make item = some made -> madeKey made = keyOf item) (key : Key)
    (items : List Item) :
    group madeKey key (items.filterMap make) = (group keyOf key items).filterMap make := by
  unfold group
  rw [List.filter_filterMap, List.filterMap_filter]
  congr 1
  funext item
  cases made : make item with
  | none => exact (ite_self _).symm
  | some result =>
      by_cases own : keyOf item = key
      · have same : madeKey result = key := (keeps item result made).trans own
        simp [Option.filter, same, own]
      · have other : ¬ madeKey result = key := fun same => own ((keeps item result made).symm.trans same)
        simp [Option.filter, other, own]

/-- The items are put together of their groups. -/
theorem perm_groups (distinct : keys.Nodup) (known : ∀ item ∈ items, keyOf item ∈ keys) :
    items.Perm (keys.flatMap (fun key => group keyOf key items)) := by
  induction keys generalizing items with
  | nil =>
      have none : items = [] := List.eq_nil_iff_forall_not_mem.mpr
        (fun item among => List.not_mem_nil (known item among))
      rw [none]
      exact List.Perm.nil
  | cons key rest ih =>
      rcases List.nodup_cons.mp distinct with ⟨new, others⟩
      have inRest : ∀ item ∈ items.filter (fun item => !decide (keyOf item = key)), keyOf item ∈ rest := by
        intro item among
        rcases List.mem_filter.mp among with ⟨among, foreign⟩
        rcases List.mem_cons.mp (known item among) with same | later
        · rw [same, decide_eq_true rfl] at foreign
          exact (nomatch foreign)
        · exact later
      have same : rest.flatMap (fun other =>
          group keyOf other (items.filter (fun item => !decide (keyOf item = key)))) =
            rest.flatMap (fun other => group keyOf other items) := by
        apply List.flatMap_congr
        intro other among
        unfold group
        rw [List.filter_filter]
        apply List.filter_congr
        intro item _
        by_cases own : keyOf item = other
        · have different : ¬ keyOf item = key := fun equal => new ((own.symm.trans equal) ▸ among)
          rw [decide_eq_true own, decide_eq_false different]
          rfl
        · rw [decide_eq_false own]
          rfl
      rw [List.flatMap_cons]
      apply (List.filter_append_perm (fun item => decide (keyOf item = key)) items).symm.trans
      exact (same ▸ ih others inRest).append_left _

theorem group_of_unused (unused : key ∉ items.map keyOf) : group keyOf key items = [] := by
  apply List.filter_eq_nil_iff.mpr
  intro item among own
  exact unused (List.mem_map.mpr ⟨item, among, of_decide_eq_true own⟩)

/-! ## One item under each key -/

theorem distinct_iff : (items.map keyOf).Nodup <-> forall key, (group keyOf key items).length ≤ 1 := by
  rw [List.nodup_iff_count_le_one]
  apply forall_congr'
  intro key
  have same : (items.map keyOf).count key = (group keyOf key items).length := by
    unfold List.count group
    rw [List.countP_map, List.countP_eq_length_filter]
    rfl
  rw [same]

theorem group_of_distinct (distinct : (items.map keyOf).Nodup) {item : Item} (among : item ∈ items) :
    group keyOf (keyOf item) items = [item] := by
  have short := distinct_iff.mp distinct (keyOf item)
  have own : item ∈ group keyOf (keyOf item) items := mem_group.mpr ⟨among, rfl⟩
  cases all : group keyOf (keyOf item) items with
  | nil =>
      rw [all] at own
      exact absurd own List.not_mem_nil
  | cons first rest =>
      rw [all] at own short
      have nothing : rest = [] := List.eq_nil_of_length_eq_zero (by simpa using short)
      subst nothing
      rw [List.mem_singleton.mp own]

/-- With one item under each key, the items are these. -/
theorem perm_of_groups {pick : Key -> Item} (distinct : keys.Nodup)
    (known : ∀ item ∈ items, keyOf item ∈ keys) (one : ∀ key ∈ keys, group keyOf key items = [pick key]) :
    items.Perm (keys.map pick) := by
  have picked : keys.flatMap (fun key => group keyOf key items) = keys.map pick := by
    rw [List.flatMap_congr one, List.map_eq_flatMap]
  exact picked ▸ perm_groups distinct known

/-- With one item under each key, and not more items than keys, all keys are among these. -/
theorem known_of_groups (distinct : keys.Nodup) (one : ∀ key ∈ keys, (group keyOf key items).length = 1)
    (count : items.length = keys.length) : ∀ item ∈ items, keyOf item ∈ keys := by
  have inside : ∀ item ∈ items.filter (fun item => keyOf item ∈ keys), keyOf item ∈ keys :=
    fun item among => of_decide_eq_true (List.mem_filter.mp among).2
  have groups : ∀ key ∈ keys,
      (group keyOf key (items.filter (fun item => keyOf item ∈ keys))).length = 1 := by
    intro key among
    have same : (group keyOf key items).filter (fun item => keyOf item ∈ keys) = group keyOf key items := by
      apply List.filter_eq_self.mpr
      intro item inGroup
      exact decide_eq_true ((mem_group.mp inGroup).2 ▸ among)
    rw [group_filter, same]
    exact one key among
  have whole : (items.filter (fun item => keyOf item ∈ keys)).length = items.length := by
    rw [(perm_groups distinct inside).length_eq, List.length_flatMap, List.map_congr_left groups,
      List.map_const', List.sum_replicate_nat, count]
    exact Nat.mul_one _
  intro item among
  exact of_decide_eq_true (List.length_filter_eq_length_iff.mp whole item among)

end Grouping

end Foundations
