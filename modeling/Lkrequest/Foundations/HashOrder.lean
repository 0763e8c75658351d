import Mathlib.Data.List.Nodup

namespace Foundations

/-!
# The order of a hash map

A hash map iterates in an order that depends on a seed, which is drawn anew in
each process.  What is computed from a map is a function of its entries exactly
if it is the same for all seeds.
-/

/-- How the hash maps of a process iterate.  The maps are numbered in the order
they are made in. -/
structure HashOrder (Key Value : Type) where
  Seed : Type
  iterate : Seed -> Nat -> List (Key × Value) -> List (Key × Value)
  perm : forall seed map entries, (iterate seed map entries).Perm entries
  /-- The order of two or more entries depends on the seed. -/
  varies : forall map entries, (entries.map Prod.fst).Nodup -> 2 ≤ entries.length ->
    ∃ first second, iterate first map entries ≠ iterate second map entries

namespace HashOrder

variable {Key Value : Type} (order : HashOrder Key Value) (map : Nat)
  {entries : List (Key × Value)}

/-- A map of at most one entry has one order. -/
theorem iterate_short (short : entries.length ≤ 1) (seed : order.Seed) :
    order.iterate seed map entries = entries := by
  have shuffled := order.perm seed map entries
  match entries, short with
  | [], _ => exact shuffled.eq_nil
  | [entry], _ => exact List.perm_singleton.mp shuffled

/-- The order does not depend on the seed exactly if there is at most one entry. -/
theorem iterate_same_iff (distinct : (entries.map Prod.fst).Nodup) :
    (forall first second, order.iterate first map entries = order.iterate second map entries) <->
      entries.length ≤ 1 := by
  constructor
  · intro same
    apply Nat.le_of_not_lt
    intro several
    rcases order.varies map entries distinct several with ⟨first, second, differ⟩
    exact differ (same first second)
  · intro short first second
    rw [order.iterate_short map short first, order.iterate_short map short second]

end HashOrder

/-- Two orders of the same entries differ in what is made of the entries, if
that tells the entries apart. -/
theorem eq_of_map_eq {Entry Result : Type} {make : Entry -> Result} {entries others : List Entry}
    (shuffled : entries.Perm others) (distinct : (entries.map make).Nodup)
    (same : entries.map make = others.map make) : entries = others := by
  apply List.ext_getElem shuffled.length_eq
  intro index inEntries inOthers
  apply List.inj_on_of_nodup_map distinct (List.getElem_mem inEntries)
    (shuffled.mem_iff.mpr (List.getElem_mem inOthers))
  have made := List.getElem_of_eq same (by rw [List.length_map]; exact inEntries)
  rw [List.getElem_map, List.getElem_map] at made
  exact made

/-- A list with two distinct entries is not its own reverse. -/
theorem reverse_ne_self {Entry : Type} {entries : List Entry} (distinct : entries.Nodup)
    (several : 2 ≤ entries.length) : entries.reverse ≠ entries := by
  intro palindrome
  match entries, several with
  | first :: second :: rest, _ =>
      rw [List.reverse_cons] at palindrome
      cases backwards : (second :: rest).reverse with
      | nil => exact absurd (List.reverse_eq_nil_iff.mp backwards) (List.cons_ne_nil _ _)
      | cons last others =>
          rw [backwards, List.cons_append] at palindrome
          have again : first ∈ second :: rest := by
            rw [← (List.cons.inj palindrome).2]
            exact List.mem_append_right _ List.mem_cons_self
          exact (List.nodup_cons.mp distinct).1 again

/-- Maps that iterate in the order of insertion or against it. -/
def HashOrder.eitherWay (Key Value : Type) : HashOrder Key Value where
  Seed := Bool
  iterate := fun backwards _ entries => if backwards then entries.reverse else entries
  perm := by
    intro backwards map entries
    cases backwards with
    | true => exact List.reverse_perm entries
    | false => exact List.Perm.refl entries
  varies := by
    intro map entries distinct several
    exact ⟨true, false, reverse_ne_self (List.Nodup.of_map Prod.fst distinct) several⟩

end Foundations
