import Lkrequest.Foundations.Grouping
import Lkrequest.Foundations.OrderedDict
import Lkrequest.Response.Text
import Mathlib.Data.List.Dedup

namespace Lkrequest
namespace Response

open Foundations (OrderedDict group)

/-!
# The views of a header map

Names are compared without case.  `headers[name]` and `get` read the first entry
of a name, `get_all` reads all of them, and `to_dict` is filled entry by entry, so
that the last one under a spelling stays in it.
-/

/-- `str::to_ascii_lowercase`. -/
def asciiLowercase (text : String) : String := String.ofList (text.toList.map Char.toLower)

theorem toLower_again (char : Char) : char.toLower.toLower = char.toLower := by
  by_cases upper : char.val ≥ 'A'.val ∧ char.val ≤ 'Z'.val
  · have lower : ¬ (char.toLower.val ≥ 'A'.val ∧ char.toLower.val ≤ 'Z'.val) := by
      have moved : char.toLower.val = char.val + ('a'.val - 'A'.val) := congrArg Char.val (dif_pos upper)
      have atLeast : 65 ≤ char.val.toNat := UInt32.le_iff_toNat_le.mp upper.1
      have atMost : char.val.toNat ≤ 90 := UInt32.le_iff_toNat_le.mp upper.2
      rw [moved]
      rintro ⟨_, below⟩
      have capital : (char.val + ('a'.val - 'A'.val)).toNat ≤ 90 := UInt32.le_iff_toNat_le.mp below
      rw [UInt32.toNat_add] at capital
      change (char.val.toNat + 32) % 4294967296 ≤ 90 at capital
      omega
    exact dif_neg lower
  · have same : char.toLower = char := dif_neg upper
    rw [same, same]

theorem asciiLowercase_again (name : String) :
    asciiLowercase (asciiLowercase name) = asciiLowercase name := by
  unfold asciiLowercase
  rw [String.toList_ofList, List.map_map]
  congr 2
  funext char
  exact toLower_again char

structure PyHeaderMap where
  entries : HeaderList

/-- `HeaderMap.__iter__()`. -/
structure PyHeaderMapKeysIter where
  keys : List String
  index : Nat

/-- `__next__`, where `None` is `StopIteration`. -/
def PyHeaderMapKeysIter.next (iter : PyHeaderMapKeysIter) : Option String × PyHeaderMapKeysIter :=
  if inside : iter.index < iter.keys.length then
    (some iter.keys[iter.index], { iter with index := iter.index + 1 })
  else (none, iter)

/-- What so many calls of `__next__` return. -/
def PyHeaderMapKeysIter.answers (iter : PyHeaderMapKeysIter) : Nat -> List (Option String)
  | 0 => []
  | calls + 1 => iter.next.1 :: iter.next.2.answers calls

namespace PyHeaderMap

variable (headers : PyHeaderMap)

def getItem (name : String) : Except PyErr String :=
  let lower := asciiLowercase name
  match (headers.entries.find? (fun entry => asciiLowercase entry.1 == lower)).map Prod.snd with
  | some value => .ok value
  | none => .error (.keyError name)

def get (name : String) (default : Option String) : Option String :=
  let lower := asciiLowercase name
  (headers.entries.find? (fun entry => asciiLowercase entry.1 == lower)).map Prod.snd <|> default

def getAll (name : String) : List String :=
  let lower := asciiLowercase name
  (headers.entries.filter (fun entry => asciiLowercase entry.1 == lower)).map Prod.snd

def contains (name : String) : Bool :=
  let lower := asciiLowercase name
  headers.entries.any (fun entry => asciiLowercase entry.1 == lower)

def len : Nat := headers.entries.length

def iter : PyHeaderMapKeysIter := ⟨headers.entries.map Prod.fst, 0⟩

def keys : List String := headers.entries.map Prod.fst

def values : List String := headers.entries.map Prod.snd

def items : List (String × String) := headers.entries

def toDict : OrderedDict String String :=
  headers.entries.foldl (fun dict entry => dict.setItem entry.1 entry.2) .empty

/-- `dict(headers)`: Python asks for the keys, and looks each of them up. -/
def pyDict : Except PyErr (OrderedDict String String) :=
  headers.keys.foldlM (fun dict key => do
    let value <- headers.getItem key
    return dict.setItem key value) .empty

/-! ## What a lookup reads -/

variable {headers}

theorem getAll_eq_group (name : String) :
    headers.getAll name =
      (group (fun entry => asciiLowercase entry.1) (asciiLowercase name) headers.entries).map Prod.snd := rfl

/-- The first value that `get_all` finds. -/
theorem head_getAll (name : String) : (headers.getAll name).head? =
    (headers.entries.find? (fun entry => asciiLowercase entry.1 == asciiLowercase name)).map Prod.snd := by
  unfold getAll
  rw [List.head?_map, List.head?_filter]

theorem getItem_eq (name : String) : headers.getItem name =
    match (headers.getAll name).head? with
    | some value => .ok value
    | none => .error (.keyError name) := by
  rw [head_getAll]
  rfl

theorem get_eq (name : String) (default : Option String) :
    headers.get name default = ((headers.getAll name).head? <|> default) := by
  rw [head_getAll]
  rfl

theorem contains_iff (name : String) : headers.contains name = true <-> headers.getAll name ≠ [] := by
  unfold contains getAll
  rw [List.any_eq_true, Ne, List.map_eq_nil_iff, List.filter_eq_nil_iff]
  constructor
  · rintro ⟨entry, among, own⟩ none
    exact none entry among own
  · intro some
    by_contra none
    exact some (fun entry among own => none ⟨entry, among, own⟩)

theorem getItem_ok_iff (name : String) :
    (∃ value, headers.getItem name = .ok value) <-> headers.getAll name ≠ [] := by
  rw [getItem_eq]
  cases headers.getAll name with
  | nil => simp
  | cons value rest => simp

/-- A lookup does not see the case of the name. -/
theorem getAll_anyCase {name other : String} (same : asciiLowercase name = asciiLowercase other) :
    headers.getAll name = headers.getAll other := by
  rw [getAll_eq_group, getAll_eq_group, same]

/-- The names in lower case, each once. -/
def distinctNames (headers : PyHeaderMap) : List String := (headers.keys.map asciiLowercase).dedup

/-- Every entry is found under its name, and under no other. -/
theorem getAll_each_once (headers : PyHeaderMap) :
    (headers.distinctNames.flatMap headers.getAll).Perm headers.values := by
  let lowered : String × String -> String := fun entry => asciiLowercase entry.1
  have known : ∀ entry ∈ headers.entries, lowered entry ∈ headers.distinctNames := by
    intro entry among
    apply List.mem_dedup.mpr
    exact List.mem_map.mpr ⟨entry.1, List.mem_map_of_mem among, rfl⟩
  have grouped : headers.entries.Perm
      (headers.distinctNames.flatMap (fun name => group lowered name headers.entries)) :=
    Foundations.perm_groups (List.nodup_dedup _) known
  have groups := grouped.map Prod.snd
  have same : headers.distinctNames.flatMap headers.getAll =
      (headers.distinctNames.flatMap (fun name => group lowered name headers.entries)).map Prod.snd := by
    rw [List.map_flatMap]
    apply List.flatMap_congr
    intro name among
    rcases List.mem_map.mp (List.mem_dedup.mp among) with ⟨spelled, _, rfl⟩
    rw [getAll_eq_group, asciiLowercase_again]
  rw [same]
  exact groups.symm

theorem answers_iter (headers : PyHeaderMap) (calls : Nat) : headers.iter.answers calls =
    (headers.keys.map some ++ List.replicate calls none).take calls := by
  have from' (index : Nat) (within : index ≤ headers.keys.length) :
      (PyHeaderMapKeysIter.mk headers.keys index).answers calls =
        ((headers.keys.drop index).map some ++ List.replicate calls none).take calls := by
    induction calls generalizing index with
    | zero => rfl
    | succ calls ih =>
        unfold PyHeaderMapKeysIter.answers PyHeaderMapKeysIter.next
        by_cases inside : index < headers.keys.length
        · rw [dif_pos inside, List.drop_eq_getElem_cons inside]
          dsimp only
          have short (more : List (Option String)) : (more ++ List.replicate (calls + 1) none).take calls =
              (more ++ List.replicate calls none).take calls := by
            rw [List.replicate_succ', ← List.append_assoc]
            exact List.take_append_of_le_length (by simp)
          rw [ih (index + 1) inside, List.map_cons, List.cons_append, List.take_succ_cons, short]
        · have whole : index = headers.keys.length := Nat.le_antisymm within (Nat.le_of_not_lt inside)
          rw [dif_neg inside]
          dsimp only
          rw [ih index within, whole, List.drop_length]
          rfl
  exact from' 0 (Nat.zero_le _)

/-! ## Dictionaries -/

theorem toDict_eq (headers : PyHeaderMap) : headers.toDict = .ofPairs headers.entries := rfl

/-- A lookup gives the value of the first entry of the name. -/
theorem getItem_ok {name value : String} : headers.getItem name = .ok value <->
    ∃ before first after, headers.entries = before ++ first :: after ∧
      asciiLowercase first.1 = asciiLowercase name ∧
      (∀ entry ∈ before, asciiLowercase entry.1 ≠ asciiLowercase name) ∧ first.2 = value := by
  unfold getItem
  dsimp only
  constructor
  · intro found
    split at found
    case h_2 => exact (nomatch found)
    case h_1 result there =>
      cases found
      rcases Option.map_eq_some_iff.mp there with ⟨first, there, same⟩
      rcases List.find?_eq_some_iff_append.mp there with ⟨own, before, after, split, none⟩
      refine ⟨before, first, after, split, eq_of_beq own, ?_, same⟩
      intro entry among equal
      have other := none entry among
      rw [equal, beq_self_eq_true] at other
      exact (nomatch other)
  · rintro ⟨before, first, after, split, own, none, rfl⟩
    have there : headers.entries.find? (fun entry => asciiLowercase entry.1 == asciiLowercase name) =
        some first := by
      refine List.find?_eq_some_iff_append.mpr ⟨beq_iff_eq.mpr own, before, after, split, ?_⟩
      intro entry among
      rw [beq_eq_false_iff_ne.mpr (none entry among)]
      rfl
    rw [there]
    rfl

/-- A name that is there can be looked up. -/
theorem getItem_key {key : String} (among : key ∈ headers.keys) :
    ∃ value, headers.getItem key = .ok value := by
  rw [getItem_ok_iff, ← contains_iff]
  rcases List.mem_map.mp among with ⟨entry, present, rfl⟩
  exact List.any_eq_true.mpr ⟨entry, present, beq_self_eq_true _⟩

/-- What `dict(headers)` sets, one key after the other. -/
def lookups (headers : PyHeaderMap) : List (String × String) :=
  headers.keys.map (fun key => (key, (headers.getItem key).toOption.getD ""))

theorem pyDict_eq (headers : PyHeaderMap) : headers.pyDict = .ok (.ofPairs headers.lookups) := by
  have fills (keys : List String) (known : ∀ key ∈ keys, key ∈ headers.keys)
      (dict : OrderedDict String String) :
      (keys.foldlM (fun dict key => do
        let value <- headers.getItem key
        return dict.setItem key value) dict : Except PyErr (OrderedDict String String)) =
        .ok ((keys.map (fun key => (key, (headers.getItem key).toOption.getD ""))).foldl
          (fun dict entry => dict.setItem entry.1 entry.2) dict) := by
    induction keys generalizing dict with
    | nil => rfl
    | cons key rest ih =>
        rcases getItem_key (known key List.mem_cons_self) with ⟨value, found⟩
        rw [List.foldlM_cons, List.map_cons, List.foldl_cons, found]
        exact ih (fun other among => known other (List.mem_cons_of_mem _ among)) _
  exact fills headers.keys (fun _ among => among) .empty

/-- The last entry under a spelling has the value of the first entry of the name. -/
def LastIsFirst (headers : PyHeaderMap) : Prop :=
  forall early key value late, headers.entries = early ++ (key, value) :: late ->
    key ∉ late.map Prod.fst ->
      forall before first after, headers.entries = before ++ first :: after ->
        asciiLowercase first.1 = asciiLowercase key ->
          (∀ entry ∈ before, asciiLowercase entry.1 ≠ asciiLowercase key) -> first.2 = value

/-- `to_dict()` has what a lookup gives. -/
def DictAgrees (headers : PyHeaderMap) : Prop :=
  forall key value, headers.toDict.getItem key = some value -> headers.getItem key = .ok value

theorem dictAgrees_iff (headers : PyHeaderMap) : headers.DictAgrees <-> headers.LastIsFirst := by
  constructor
  · intro agrees early key value late last alone before first after split own none
    have set : headers.toDict.getItem key = some value :=
      OrderedDict.getItem_ofPairs.mpr ⟨early, late, last, alone⟩
    have found : headers.getItem key = .ok first.2 :=
      getItem_ok.mpr ⟨before, first, after, split, own, none, rfl⟩
    exact Except.ok.inj (found.symm.trans (agrees key value set))
  · intro same key value set
    rcases OrderedDict.getItem_ofPairs.mp set with ⟨early, late, last, alone⟩
    have there : key ∈ headers.keys := by
      unfold keys
      rw [last]
      simp
    rcases getItem_key there with ⟨result, found⟩
    rcases getItem_ok.mp found with ⟨before, first, after, split, own, none, rfl⟩
    rw [found, same early key value late last alone before first after split own none]

/-- `dict(headers)` has what a lookup gives. -/
theorem getItem_lookups {key value : String} :
    (OrderedDict.ofPairs headers.lookups).getItem key = some value <->
      key ∈ headers.keys ∧ headers.getItem key = .ok value := by
  have read {value : String} (among : (key, value) ∈ headers.lookups) :
      key ∈ headers.keys ∧ headers.getItem key = .ok value := by
    rcases List.mem_map.mp among with ⟨name, present, same⟩
    cases same
    rcases getItem_key present with ⟨result, found⟩
    exact ⟨present, by rw [found]; rfl⟩
  rw [OrderedDict.getItem_ofPairs]
  constructor
  · rintro ⟨early, late, split, _⟩
    apply read
    rw [split]
    exact List.mem_append_right _ List.mem_cons_self
  · rintro ⟨present, found⟩
    have names : headers.lookups.map Prod.fst = headers.keys := by
      unfold lookups
      rw [List.map_map]
      exact List.map_id _
    rcases OrderedDict.getItem_ofPairs_of_mem (names ▸ present) with ⟨result, last⟩
    rcases OrderedDict.getItem_ofPairs.mp last with ⟨early, late, split, alone⟩
    have again : headers.getItem key = .ok result := by
      apply (read _).2
      rw [split]
      exact List.mem_append_right _ List.mem_cons_self
    cases found.symm.trans again
    exact ⟨early, late, split, alone⟩

theorem pyDict_eq_toDict (agrees : headers.DictAgrees) : headers.pyDict = .ok headers.toDict := by
  rw [pyDict_eq, toDict_eq]
  have names : headers.lookups.map Prod.fst = headers.entries.map Prod.fst := by
    unfold lookups
    rw [List.map_map]
    exact List.map_id _
  have values : forall key, (OrderedDict.ofPairs headers.lookups).getItem key =
      (OrderedDict.ofPairs headers.entries).getItem key := by
    intro key
    apply Option.ext
    intro value
    rw [getItem_lookups]
    constructor
    · rintro ⟨present, found⟩
      rcases OrderedDict.getItem_ofPairs_of_mem present with ⟨result, set⟩
      cases found.symm.trans (agrees key result set)
      exact set
    · intro set
      have found := agrees key value set
      rcases OrderedDict.getItem_ofPairs.mp set with ⟨early, late, split, _⟩
      refine ⟨?_, found⟩
      unfold keys
      rw [split]
      simp
  rw [OrderedDict.ofPairs_congr names values]

/-! ## The contract -/

/-- All views are views of the same entries. -/
structure ViewsAgree (headers : PyHeaderMap) : Prop where
  contains : forall name, headers.contains name = true <-> headers.getAll name ≠ []
  raises : forall name, (∃ value, headers.getItem name = .ok value) <-> headers.getAll name ≠ []
  getItem : forall name, headers.getItem name =
    match (headers.getAll name).head? with
    | some value => .ok value
    | none => .error (.keyError name)
  get : forall name default, headers.get name default = ((headers.getAll name).head? <|> default)
  anyCase : forall name other, asciiLowercase name = asciiLowercase other ->
    headers.getAll name = headers.getAll other ∧ headers.contains name = headers.contains other ∧
      (headers.getItem name).toOption = (headers.getItem other).toOption ∧
      forall default, headers.get name default = headers.get other default
  eachOnce : (headers.distinctNames.flatMap headers.getAll).Perm headers.values ∧
    (headers.distinctNames.flatMap headers.getAll).length = headers.len
  projections : headers.keys = headers.items.map Prod.fst ∧ headers.values = headers.items.map Prod.snd ∧
    forall calls, headers.iter.answers calls =
      ((headers.items.map Prod.fst).map some ++ List.replicate calls none).take calls
  toDict : headers.DictAgrees
  pyDict : headers.pyDict = .ok headers.toDict

/-- The lookups, the lists and the iterator always agree; `to_dict()` agrees with
them exactly if no name has a last entry of another value than its first. -/
theorem header_views_agree_iff (headers : PyHeaderMap) : headers.ViewsAgree <-> headers.LastIsFirst := by
  constructor
  · exact fun agree => (dictAgrees_iff headers).mp agree.toDict
  · intro same
    have agrees := (dictAgrees_iff headers).mpr same
    constructor
    case contains => exact contains_iff
    case raises => exact getItem_ok_iff
    case getItem => exact getItem_eq
    case get => exact get_eq
    case anyCase =>
      intro name other equal
      have all : headers.getAll name = headers.getAll other := getAll_anyCase equal
      refine ⟨all, ?_, ?_, ?_⟩
      · rw [Bool.eq_iff_iff, contains_iff, contains_iff, all]
      · rw [getItem_eq, getItem_eq, all]
        cases (headers.getAll other).head? <;> rfl
      · intro default
        rw [get_eq, get_eq, all]
    case eachOnce =>
      have once := getAll_each_once headers
      exact ⟨once, once.length_eq.trans (List.length_map _)⟩
    case projections => exact ⟨rfl, rfl, answers_iter headers⟩
    case toDict => exact agrees
    case pyDict => exact pyDict_eq_toDict agrees

/-- A response that sets two cookies. -/
def twoCookies : PyHeaderMap := ⟨[("set-cookie", "a=1"), ("set-cookie", "b=2")]⟩

/-- The dict of two cookies has the second, and a lookup gives the first. -/
theorem two_cookies_disagree :
    twoCookies.toDict.getItem "set-cookie" = some "b=2" ∧
      twoCookies.getItem "set-cookie" = .ok "a=1" ∧
      twoCookies.pyDict.toOption.map (fun dict => dict.getItem "set-cookie") = some (some "a=1") ∧
      ¬ twoCookies.ViewsAgree := by
  have set : twoCookies.toDict.getItem "set-cookie" = some "b=2" := by decide
  have found : twoCookies.getItem "set-cookie" = .ok "a=1" := by rfl
  refine ⟨set, found, by decide, ?_⟩
  intro agree
  have same := Except.ok.inj ((agree.toDict _ _ set).symm.trans found)
  exact absurd same (by decide)

end PyHeaderMap
end Response
end Lkrequest
