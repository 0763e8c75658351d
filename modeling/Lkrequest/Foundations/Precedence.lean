import Mathlib.Data.List.Infix
import Mathlib.Data.List.Basic

namespace Foundations

universe u

/-!
# Precedence in a growing log

A queue that serves in order and is never reordered can be read as one log:
what was served, then what waits.  "Whenever a late item was served, an early
one had been served before" is then a property of the log alone.  It survives
appending, as long as an early item is in the log by then, and it survives
losing a tail, so it also covers a queue that throws away what it has not
served.
-/

section

variable {Item : Type u} {early late : Item -> Prop} {log : List Item}

/-- In the log every late item has an early one before it. -/
def Ahead (early late : Item -> Prop) (log : List Item) : Prop :=
  forall before item after, log = before ++ item :: after -> late item ->
    ∃ witness ∈ before, early witness

theorem ahead_of_absent (absent : ∀ item ∈ log, ¬ late item) : Ahead early late log := by
  intro before item after split isLate
  exact absurd isLate (absent item (by rw [split]; simp))

/-- A log that lost its tail keeps the property. -/
theorem Ahead.of_prefix {shorter : List Item} (isPrefix : shorter <+: log)
    (ahead : Ahead early late log) : Ahead early late shorter := by
  rcases isPrefix with ⟨tail, rfl⟩
  intro before item after split isLate
  exact ahead before item (after ++ tail) (by rw [split]; simp) isLate

/-- Once an early item is in the log, anything may follow. -/
theorem Ahead.snoc (present : ∃ item ∈ log, early item) (ahead : Ahead early late log)
    (next : Item) : Ahead early late (log ++ [next]) := by
  intro before item after split isLate
  rcases List.eq_nil_or_concat after with rfl | ⟨init, last, rfl⟩
  · have parts := List.append_inj' split rfl
    exact parts.1 ▸ present
  · have shape : log ++ [next] = (before ++ item :: init) ++ [last] := by
      rw [split]; simp
    exact ahead before item init (List.append_inj' shape rfl).1 isLate

/-- Within any served part of the log, a late item comes with an early one. -/
theorem Ahead.served {served : List Item} (isPrefix : served <+: log)
    (ahead : Ahead early late log) (found : ∃ item ∈ served, late item) :
    ∃ item ∈ served, early item := by
  rcases found with ⟨item, member, isLate⟩
  rcases List.append_of_mem member with ⟨before, after, split⟩
  rcases ahead.of_prefix isPrefix before item after split isLate with ⟨witness, inside, isEarly⟩
  exact ⟨witness, by rw [split]; exact List.mem_append_left _ inside, isEarly⟩

/-- A beginning of the log that is free of an item ends before the item. -/
theorem prefix_of_absent {front before after : List Item} {item : Item} (absent : item ∉ front)
    (isPrefix : front <+: before ++ item :: after) : front <+: before := by
  rcases List.prefix_or_prefix_of_prefix isPrefix (List.prefix_append before _) with
    inside | ⟨tail, rfl⟩
  · exact inside
  · cases tail with
    | nil => rw [List.append_nil]
    | cons head tail =>
        have same := (List.cons_prefix_cons.mp ((List.prefix_append_right_inj before).mp isPrefix)).1
        exact absurd (List.mem_append_right before (same ▸ List.mem_cons_self)) absent

/-- Where the first late item comes after an early one. -/
theorem ahead_of_split {before after : List Item} {item : Item} (isEarly : early item)
    (notLate : ¬ late item) (none : ∀ other ∈ before, ¬ late other) :
    Ahead early late (before ++ item :: after) := by
  intro front other back split isLate
  refine ⟨item, ?_, isEarly⟩
  by_contra absent
  have inFront : item ∉ front ++ [other] := by
    intro among
    rcases List.mem_append.mp among with there | same
    · exact absent there
    · exact notLate (List.mem_singleton.mp same ▸ isLate)
  have isPrefix : front ++ [other] <+: before ++ item :: after := by
    rw [split]
    exact ⟨back, by rw [List.append_assoc, List.singleton_append]⟩
  have early := (prefix_of_absent inFront isPrefix).subset
  exact none other (early (List.mem_append_right _ (List.mem_singleton_self other))) isLate

/-! ## What holds at every entry -/

/-- Every entry stands in the relation to what is before it in the log. -/
def Each (Fits : List Item -> Item -> Prop) (log : List Item) : Prop :=
  forall before item after, log = before ++ item :: after -> Fits before item

variable {Fits : List Item -> Item -> Prop}

theorem each_nil : Each Fits [] := by
  intro before item after split
  exact absurd split (by simp)

theorem Each.snoc (each : Each Fits log) {next : Item} (fits : Fits log next) :
    Each Fits (log ++ [next]) := by
  intro before item after split
  rcases List.eq_nil_or_concat after with rfl | ⟨init, last, rfl⟩
  · have parts := List.append_inj' split rfl
    have same : next = item := List.head_eq_of_cons_eq parts.2
    rw [← parts.1, ← same]
    exact fits
  · have shape : log ++ [next] = (before ++ item :: init) ++ [last] := by
      rw [split]; simp
    exact each before item init (List.append_inj' shape rfl).1

/-- What fits anywhere can be appended. -/
theorem Each.append (each : Each Fits log) {later : List Item}
    (fits : ∀ item ∈ later, forall before, Fits before item) : Each Fits (log ++ later) := by
  induction later using List.reverseRecOn with
  | nil => rwa [List.append_nil]
  | append_singleton later item ih =>
      rw [← List.append_assoc]
      apply Each.snoc
      · exact ih (fun other among => fits other (List.mem_append_left _ among))
      · exact fits item (List.mem_append_right _ (List.mem_singleton_self item)) _

end
end Foundations
