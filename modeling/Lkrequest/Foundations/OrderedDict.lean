import Mathlib.Data.List.Basic
import Mathlib.Data.List.Induction
import Mathlib.Data.List.Nodup

namespace Foundations

/-!
# Dictionaries in insertion order

A dictionary is the list of its entries, oldest key first, with distinct keys.
Setting a key that is there replaces its value where it stands; setting a new
key puts it last.  `select` is the part of a dictionary under the keys of one
kind, which is what a reader that does not compare keys literally sees of it.
-/

variable {Key Value : Type}

structure OrderedDict (Key Value : Type) where
  entries : List (Key × Value)
  distinct : (entries.map Prod.fst).Nodup

namespace OrderedDict

section Entries

variable [DecidableEq Key]

/-- `d[key] = value` on the list of entries. -/
def setEntry (key : Key) (value : Value) : List (Key × Value) -> List (Key × Value)
  | [] => [(key, value)]
  | (other, old) :: rest =>
      if other = key then (key, value) :: rest else (other, old) :: setEntry key value rest

theorem mem_keys_setEntry {key other : Key} {value : Value} (entries : List (Key × Value)) :
    other ∈ (setEntry key value entries).map Prod.fst <->
      other = key ∨ other ∈ entries.map Prod.fst := by
  induction entries with
  | nil => simp [setEntry]
  | cons entry rest hypothesis =>
      rcases entry with ⟨first, old⟩
      by_cases same : first = key
      · subst first
        simp [setEntry]
      · rw [setEntry, if_neg same, List.map_cons, List.mem_cons, hypothesis, List.map_cons,
          List.mem_cons]
        exact or_left_comm

theorem distinct_setEntry {key : Key} {value : Value} {entries : List (Key × Value)}
    (distinct : (entries.map Prod.fst).Nodup) :
    ((setEntry key value entries).map Prod.fst).Nodup := by
  induction entries with
  | nil => simp [setEntry]
  | cons entry rest hypothesis =>
      rcases entry with ⟨first, old⟩
      rw [List.map_cons, List.nodup_cons] at distinct
      by_cases same : first = key
      · subst first
        simpa [setEntry] using distinct
      · rw [setEntry, if_neg same, List.map_cons, List.nodup_cons]
        refine ⟨?_, hypothesis distinct.2⟩
        intro among
        rcases (mem_keys_setEntry rest).mp among with equal | inRest
        · exact same equal
        · exact distinct.1 inRest

/-- Setting a key that is not of a kind leaves the entries of that kind alone. -/
theorem filter_setEntry_of_not {kind : Key -> Bool} {key : Key} (foreign : kind key = false)
    (value : Value) (entries : List (Key × Value)) :
    (setEntry key value entries).filter (fun entry => kind entry.1) =
      entries.filter (fun entry => kind entry.1) := by
  induction entries with
  | nil => simp [setEntry, foreign]
  | cons entry rest hypothesis =>
      rcases entry with ⟨first, old⟩
      by_cases same : first = key
      · subst first
        simp [setEntry, foreign]
      · rw [setEntry, if_neg same, List.filter_cons, List.filter_cons, hypothesis]

/-- Setting a key that is not there adds one entry of its kind, after the others. -/
theorem filter_setEntry_new {kind : Key -> Bool} {key : Key} (own : kind key = true)
    (value : Value) {entries : List (Key × Value)} (absent : key ∉ entries.map Prod.fst) :
    (setEntry key value entries).filter (fun entry => kind entry.1) =
      entries.filter (fun entry => kind entry.1) ++ [(key, value)] := by
  induction entries with
  | nil => simp [setEntry, own]
  | cons entry rest hypothesis =>
      rcases entry with ⟨first, old⟩
      rw [List.map_cons, List.mem_cons, not_or] at absent
      rw [setEntry, if_neg (Ne.symm absent.1), List.filter_cons, List.filter_cons,
        hypothesis absent.2]
      split <;> rfl

/-- The value of a key that is the only one of its kind is replaced. -/
theorem filter_setEntry_only {kind : Key -> Bool} {key : Key} (own : kind key = true)
    {old : Value} (value : Value) {entries : List (Key × Value)}
    (only : entries.filter (fun entry => kind entry.1) = [(key, old)]) :
    (setEntry key value entries).filter (fun entry => kind entry.1) = [(key, value)] := by
  induction entries with
  | nil => simp at only
  | cons entry rest hypothesis =>
      rcases entry with ⟨first, before⟩
      by_cases same : first = key
      · subst first
        rw [List.filter_cons, if_pos own, List.cons.injEq] at only
        rw [setEntry, if_pos rfl, List.filter_cons, if_pos own, only.2]
      · rw [setEntry, if_neg same, List.filter_cons]
        rw [List.filter_cons] at only
        by_cases kin : kind first = true
        · rw [if_pos kin, List.cons.injEq, Prod.mk.injEq] at only
          exact absurd only.1.1 same
        · rw [if_neg kin] at only ⊢
          exact hypothesis only

end Entries

/-- `{}`. -/
def empty : OrderedDict Key Value := ⟨[], List.nodup_nil⟩

section Set

variable [DecidableEq Key]

/-- `d[key] = value`. -/
def setItem (dict : OrderedDict Key Value) (key : Key) (value : Value) : OrderedDict Key Value :=
  ⟨setEntry key value dict.entries, distinct_setEntry dict.distinct⟩

/-- `d.get(key)`. -/
def getItem (dict : OrderedDict Key Value) (key : Key) : Option Value :=
  (dict.entries.find? (fun entry => entry.1 = key)).map Prod.snd

theorem find_setEntry_same (key : Key) (value : Value) (entries : List (Key × Value)) :
    (setEntry key value entries).find? (fun entry => entry.1 = key) = some (key, value) := by
  induction entries with
  | nil => simp [setEntry]
  | cons entry rest hypothesis =>
      rcases entry with ⟨first, old⟩
      by_cases same : first = key
      · subst first
        simp [setEntry]
      · rw [setEntry, if_neg same, List.find?_cons_of_neg (by simpa using same)]
        exact hypothesis

theorem find_setEntry_other {key other : Key} (different : other ≠ key) (value : Value)
    (entries : List (Key × Value)) :
    (setEntry key value entries).find? (fun entry => entry.1 = other) =
      entries.find? (fun entry => entry.1 = other) := by
  induction entries with
  | nil => simp [setEntry, Ne.symm different]
  | cons entry rest hypothesis =>
      rcases entry with ⟨first, old⟩
      by_cases same : first = key
      · subst first
        simp [setEntry, Ne.symm different]
      · rw [setEntry, if_neg same, List.find?_cons, List.find?_cons, hypothesis]

@[simp] theorem getItem_setItem_same (dict : OrderedDict Key Value) (key : Key) (value : Value) :
    (dict.setItem key value).getItem key = some value := by
  unfold getItem setItem
  rw [find_setEntry_same]
  rfl

theorem getItem_setItem_other (dict : OrderedDict Key Value) {key other : Key}
    (different : other ≠ key) (value : Value) :
    (dict.setItem key value).getItem other = dict.getItem other := by
  unfold getItem setItem
  rw [find_setEntry_other different]

theorem getItem_of_mem {dict : OrderedDict Key Value} {key : Key} {value : Value}
    (among : (key, value) ∈ dict.entries) : dict.getItem key = some value := by
  have same : ∀ entry ∈ dict.entries, entry.1 = key -> entry = (key, value) :=
    fun entry present own => List.inj_on_of_nodup_map dict.distinct present among own
  unfold getItem
  cases found : dict.entries.find? (fun entry => entry.1 = key) with
  | none => exact absurd (decide_eq_true rfl) (List.find?_eq_none.mp found (key, value) among)
  | some entry =>
      have own : entry.1 = key := by simpa using List.find?_some found
      rw [same entry (List.mem_of_find?_eq_some found) own]
      rfl

theorem getItem_eq_none_iff {dict : OrderedDict Key Value} {key : Key} :
    dict.getItem key = none <-> key ∉ dict.entries.map Prod.fst := by
  unfold getItem
  rw [Option.map_eq_none_iff, List.find?_eq_none]
  constructor
  · intro absent among
    rcases List.mem_map.mp among with ⟨entry, member, same⟩
    exact absent entry member (decide_eq_true same)
  · intro absent entry member same
    exact absent (List.mem_map.mpr ⟨entry, member, of_decide_eq_true same⟩)

/-- Dictionaries with the same keys in the same order and the same values are the same. -/
theorem ext_getItem {first second : OrderedDict Key Value}
    (keys : first.entries.map Prod.fst = second.entries.map Prod.fst)
    (values : forall key, first.getItem key = second.getItem key) : first = second := by
  have length : first.entries.length = second.entries.length := by
    rw [← List.length_map Prod.fst, keys, List.length_map]
  have entries : first.entries = second.entries := by
    apply List.ext_getElem length
    intro index inFirst inSecond
    have key : first.entries[index].1 = second.entries[index].1 := by
      have same := List.getElem_of_eq keys (by rw [List.length_map]; exact inFirst)
      rwa [List.getElem_map, List.getElem_map] at same
    have left : first.getItem first.entries[index].1 = some first.entries[index].2 :=
      getItem_of_mem (List.getElem_mem inFirst)
    have right : second.getItem second.entries[index].1 = some second.entries[index].2 :=
      getItem_of_mem (List.getElem_mem inSecond)
    rw [key, values, right] at left
    exact Prod.ext key (Option.some.inj left).symm
  cases first
  cases second
  cases entries
  rfl

theorem keys_setEntry (key : Key) (value : Value) (entries : List (Key × Value)) :
    (setEntry key value entries).map Prod.fst =
      if key ∈ entries.map Prod.fst then entries.map Prod.fst else entries.map Prod.fst ++ [key] := by
  induction entries with
  | nil => simp [setEntry]
  | cons entry rest hypothesis =>
      rcases entry with ⟨first, old⟩
      by_cases same : first = key
      · subst first
        simp [setEntry]
      · rw [setEntry, if_neg same, List.map_cons, hypothesis, List.map_cons]
        by_cases later : key ∈ rest.map Prod.fst
        · rw [if_pos later, if_pos (List.mem_cons_of_mem _ later)]
        · have absent : key ∉ first :: rest.map Prod.fst :=
            fun among => (List.mem_cons.mp among).elim (fun own => same own.symm) later
          rw [if_neg later, if_neg absent]
          rfl

/-! ### A dictionary that is filled -/

/-- `d[key] = value` for one pair after the other. -/
def ofPairs (pairs : List (Key × Value)) : OrderedDict Key Value :=
  pairs.foldl (fun dict pair => dict.setItem pair.1 pair.2) empty

theorem ofPairs_snoc (pairs : List (Key × Value)) (key : Key) (value : Value) :
    ofPairs (pairs ++ [(key, value)]) = (ofPairs pairs).setItem key value := by
  unfold ofPairs
  rw [List.foldl_append]
  rfl

/-- The last pair with a key gives its value. -/
theorem getItem_ofPairs {pairs : List (Key × Value)} {key : Key} {value : Value} :
    (ofPairs pairs).getItem key = some value <->
      ∃ early late, pairs = early ++ (key, value) :: late ∧ key ∉ late.map Prod.fst := by
  induction pairs using List.reverseRecOn with
  | nil => simp [ofPairs, getItem, empty]
  | append_singleton pairs last hypothesis =>
      rcases last with ⟨other, set⟩
      rw [ofPairs_snoc]
      by_cases own : other = key
      · subst other
        rw [getItem_setItem_same]
        constructor
        · intro same
          cases same
          exact ⟨pairs, [], rfl, List.not_mem_nil⟩
        · rintro ⟨early, late, split, absent⟩
          rcases List.eq_nil_or_concat' late with rfl | ⟨others, pair, rfl⟩
          · have same := (List.append_inj' split rfl).2
            cases same
            rfl
          · rw [← List.cons_append, ← List.append_assoc] at split
            have same := (List.append_inj' split rfl).2
            cases same
            exact absurd (by simp) absent
      · rw [getItem_setItem_other _ (Ne.symm own), hypothesis]
        constructor
        · rintro ⟨early, late, rfl, absent⟩
          refine ⟨early, late ++ [(other, set)], by simp, ?_⟩
          rw [List.map_append, List.mem_append, not_or]
          exact ⟨absent, fun among => own (List.mem_singleton.mp among).symm⟩
        · rintro ⟨early, late, split, absent⟩
          rcases List.eq_nil_or_concat' late with rfl | ⟨others, pair, rfl⟩
          · have same := (List.append_inj' split rfl).2
            cases same
            exact absurd rfl own
          · rw [← List.cons_append, ← List.append_assoc] at split
            have same := List.append_inj' split rfl
            refine ⟨early, others, same.1, fun among => absent ?_⟩
            rw [List.map_append]
            exact List.mem_append_left _ among

theorem getItem_ofPairs_of_mem {pairs : List (Key × Value)} {key : Key}
    (among : key ∈ pairs.map Prod.fst) : ∃ value, (ofPairs pairs).getItem key = some value := by
  induction pairs using List.reverseRecOn with
  | nil => exact absurd among List.not_mem_nil
  | append_singleton pairs last hypothesis =>
      rcases last with ⟨other, value⟩
      rw [ofPairs_snoc]
      by_cases own : other = key
      · subst other
        exact ⟨value, getItem_setItem_same _ _ _⟩
      · rw [getItem_setItem_other _ (Ne.symm own)]
        rw [List.map_append, List.mem_append] at among
        exact hypothesis (among.resolve_right (fun atEnd => own (List.mem_singleton.mp atEnd).symm))

/-- The order of the keys depends on the keys only. -/
theorem keys_ofPairs {Other : Type} {pairs : List (Key × Value)} {others : List (Key × Other)}
    (same : pairs.map Prod.fst = others.map Prod.fst) :
    (ofPairs pairs).entries.map Prod.fst = (ofPairs others).entries.map Prod.fst := by
  induction pairs using List.reverseRecOn generalizing others with
  | nil =>
      cases others with
      | nil => rfl
      | cons => exact (nomatch same)
  | append_singleton pairs last hypothesis =>
      rcases List.eq_nil_or_concat' others with rfl | ⟨others, other, rfl⟩
      · exact absurd (congrArg List.length same) (by simp)
      · rw [List.map_append, List.map_append] at same
        rcases List.append_inj' same rfl with ⟨before, atEnd⟩
        rcases last with ⟨key, value⟩
        rcases other with ⟨otherKey, otherValue⟩
        cases (List.cons.inj atEnd).1
        rw [ofPairs_snoc, ofPairs_snoc]
        unfold setItem
        rw [keys_setEntry, keys_setEntry, hypothesis before]

/-- Pairs with the same keys in the same order fill the same dictionary if they
give each key the same value. -/
theorem ofPairs_congr {pairs others : List (Key × Value)}
    (same : pairs.map Prod.fst = others.map Prod.fst)
    (values : forall key, (ofPairs pairs).getItem key = (ofPairs others).getItem key) :
    ofPairs pairs = ofPairs others := ext_getItem (keys_ofPairs same) values

end Set

/-! ## The entries of one kind -/

/-- The entries whose key is of a kind. -/
def select (kind : Key -> Bool) (dict : OrderedDict Key Value) : List (Key × Value) :=
  dict.entries.filter (fun entry => kind entry.1)

variable [DecidableEq Key] {kind : Key -> Bool} {key : Key}

theorem flatMap_filter_keys {entries : List (Key × Value)} (distinct : (entries.map Prod.fst).Nodup) :
    (entries.map Prod.fst).flatMap (fun key => entries.filter (fun entry => entry.1 = key)) = entries := by
  induction entries with
  | nil => rfl
  | cons entry rest ih =>
      rw [List.map_cons, List.nodup_cons] at distinct
      have alone : rest.filter (fun other => other.1 = entry.1) = [] := by
        rw [List.filter_eq_nil_iff]
        intro other member same
        exact distinct.1 (List.mem_map.mpr ⟨other, member, of_decide_eq_true same⟩)
      have others : (rest.map Prod.fst).flatMap (fun key => (entry :: rest).filter (fun other => other.1 = key)) =
          (rest.map Prod.fst).flatMap (fun key => rest.filter (fun other => other.1 = key)) := by
        apply List.flatMap_congr
        intro key member
        rw [List.filter_cons_of_neg]
        intro same
        exact distinct.1 (of_decide_eq_true same ▸ member)
      have own : (entry :: rest).filter (fun other => other.1 = entry.1) = [entry] := by
        rw [List.filter_cons_of_pos (by exact decide_eq_true rfl), alone]
      rw [List.map_cons, List.flatMap_cons, others, ih distinct.2, own]
      rfl

/-- A dictionary is made of what it has under each of its keys. -/
theorem flatMap_select_keys (dict : OrderedDict Key Value) :
    (dict.entries.map Prod.fst).flatMap (fun key => dict.select (fun other => other = key)) = dict.entries :=
  flatMap_filter_keys dict.distinct

theorem getItem_eq_select (dict : OrderedDict Key Value) (key : Key) :
    dict.getItem key = (dict.select (fun other => other = key)).head?.map Prod.snd := by
  unfold getItem select
  rw [List.head?_filter]

theorem select_setItem_of_not (foreign : kind key = false) (dict : OrderedDict Key Value)
    (value : Value) : (dict.setItem key value).select kind = dict.select kind :=
  filter_setEntry_of_not foreign value dict.entries

/-- When a kind has no entry, or one under this key, setting the key makes it the one entry. -/
theorem select_setItem_own (own : kind key = true) {dict : OrderedDict Key Value}
    (shape : dict.select kind = [] ∨ ∃ old, dict.select kind = [(key, old)]) (value : Value) :
    (dict.setItem key value).select kind = [(key, value)] := by
  rcases shape with none | ⟨old, only⟩
  · have absent : key ∉ dict.entries.map Prod.fst := by
      intro among
      rcases List.mem_map.mp among with ⟨entry, member, same⟩
      have found : entry ∈ dict.select kind :=
        List.mem_filter.mpr ⟨member, by rw [same]; exact own⟩
      rw [none] at found
      exact List.not_mem_nil found
    have placed := filter_setEntry_new own value absent
    change dict.entries.filter _ = [] at none
    rw [none, List.nil_append] at placed
    exact placed
  · exact filter_setEntry_only own value only

end OrderedDict
end Foundations
