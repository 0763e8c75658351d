import Mathlib.Algebra.BigOperators.Group.List.Basic
import Mathlib.Algebra.GroupWithZero.Nat
import Mathlib.Algebra.Order.Group.Multiset
import Mathlib.Data.Multiset.Range
import Mathlib.Logic.Relation

namespace Foundations

universe u v

/-!
# Ledgers of unique tickets

A ledger issues numbered tickets and takes them back.  It is the abstract view
of a count of outstanding work: a ticket that was issued is either held by
somebody or has been released, never both and never twice.  That is the
`balanced` field, so a ledger which lost or duplicated a ticket cannot be
written down, and the number of outstanding tickets is the size of `held`
without a further argument.

Implementations do not store a multiset of holders.  They store tickets in the
records of a table, and a step rewrites one record at a time.  The first
section sums a quantity over such a table and says what rewriting one record
does to the sum.
-/

/-! ## Sums over a table of records -/

section Table

variable {Record : Type u} {Sum : Type v}

/-- Replacing one record changes the sum by that record's share only. -/
theorem sum_map_set [AddCommMonoid Sum] (share : Record -> Sum) {table : List Record} {index : Nat}
    {old : Record} (found : table[index]? = some old) (new : Record) :
    ((table.set index new).map share).sum + share old = (table.map share).sum + share new := by
  induction table generalizing index with
  | nil => simp at found
  | cons head tail ih =>
      cases index with
      | zero =>
          have same : head = old := by simpa using found
          subst same
          simp only [List.set_cons_zero, List.map_cons, List.sum_cons]
          ac_rfl
      | succ index =>
          have rest := @ih index (by simpa using found)
          simp only [List.set_cons_succ, List.map_cons, List.sum_cons]
          rw [add_assoc, rest, add_assoc]

theorem sum_le_of_shares (share : Record -> Nat) {table : List Record} {most : Nat}
    (bounded : ∀ record ∈ table, share record <= most) : (table.map share).sum <= most * table.length := by
  induction table with
  | nil => exact Nat.zero_le _
  | cons head tail ih =>
      rw [List.forall_mem_cons] at bounded
      have rest := ih bounded.2
      rw [List.map_cons, List.sum_cons, List.length_cons, Nat.mul_succ]
      have first := bounded.1
      omega

/-- A record's share is part of the sum. -/
theorem share_le_sum (share : Record -> Multiset Sum) {table : List Record} {index : Nat}
    {record : Record} (found : table[index]? = some record) :
    share record ≤ (table.map share).sum := by
  induction table generalizing index with
  | nil => simp at found
  | cons head tail ih =>
      rw [List.map_cons, List.sum_cons]
      cases index with
      | zero =>
          have same : head = record := by simpa using found
          exact same ▸ Multiset.le_add_right _ _
      | succ index =>
          exact le_trans (@ih index (by simpa using found)) (Multiset.le_add_left _ _)

theorem mem_sum_iff (share : Record -> Multiset Sum) (table : List Record) (item : Sum) :
    item ∈ (table.map share).sum <->
      ∃ (index : Nat) (record : Record), table[index]? = some record ∧ item ∈ share record := by
  constructor
  · intro member
    induction table with
    | nil => simp at member
    | cons head tail ih =>
        rw [List.map_cons, List.sum_cons] at member
        rcases Multiset.mem_add.mp member with here | later
        · exact ⟨0, head, rfl, here⟩
        · rcases ih later with ⟨index, record, found, inside⟩
          exact ⟨index + 1, record, found, inside⟩
  · rintro ⟨index, record, found, inside⟩
    exact Multiset.mem_of_le (share_le_sum share found) inside

/-- When nothing is counted twice, an item belongs to one record only. -/
theorem index_unique (share : Record -> Multiset Sum) {table : List Record}
    (nodup : (table.map share).sum.Nodup) {first second : Nat} {left right : Record} {item : Sum}
    (atFirst : table[first]? = some left) (atSecond : table[second]? = some right)
    (inLeft : item ∈ share left) (inRight : item ∈ share right) : first = second := by
  induction table generalizing first second with
  | nil => simp at atFirst
  | cons head tail ih =>
      rw [List.map_cons, List.sum_cons] at nodup
      have parts := Multiset.nodup_add.mp nodup
      have apart : item ∈ share head -> item ∉ (tail.map share).sum :=
        fun inside => Multiset.disjoint_left.mp parts.2.2 inside
      cases first with
      | zero =>
          cases second with
          | zero => rfl
          | succ second =>
              have same : head = left := by simpa using atFirst
              exact absurd ((mem_sum_iff share tail item).mpr
                ⟨second, right, by simpa using atSecond, inRight⟩) (apart (same ▸ inLeft))
      | succ first =>
          cases second with
          | zero =>
              have same : head = right := by simpa using atSecond
              exact absurd ((mem_sum_iff share tail item).mpr
                ⟨first, left, by simpa using atFirst, inLeft⟩) (apart (same ▸ inRight))
          | succ second =>
              exact congrArg (· + 1) (ih parts.2.1 (by simpa using atFirst) (by simpa using atSecond))

end Table

/-! ## The ledger -/

/-- Tickets are numbered from zero in the order of issue. -/
@[ext] structure Ledger where
  issued : Nat
  held : Multiset Nat
  released : Multiset Nat
  balanced : held + released = Multiset.range issued

namespace Ledger

/-- Nothing issued yet. -/
def empty : Ledger := ⟨0, 0, 0, rfl⟩

/-- Issue the next ticket to somebody. -/
def issue (ledger : Ledger) : Ledger where
  issued := ledger.issued + 1
  held := ledger.issued ::ₘ ledger.held
  released := ledger.released
  balanced := by rw [Multiset.cons_add, ledger.balanced, Multiset.range_succ]

/-- Take back tickets that are held. -/
def release (ledger : Ledger) (returned rest : Multiset Nat)
    (split : ledger.held = returned + rest) : Ledger where
  issued := ledger.issued
  held := rest
  released := returned + ledger.released
  balanced := by rw [← add_assoc, add_comm rest, ← split, ledger.balanced]

/-- The moves of a ledger.  A step of an implementation that only passes a
ticket from one holder to another is no move at all. -/
inductive Moves : Ledger -> Ledger -> Prop
  | issue (ledger : Ledger) : Moves ledger ledger.issue
  | release (ledger : Ledger) (returned rest : Multiset Nat)
      (split : ledger.held = returned + rest) : Moves ledger (ledger.release returned rest split)

variable (ledger : Ledger)

private theorem nodup_all : (ledger.held + ledger.released).Nodup :=
  ledger.balanced ▸ Multiset.nodup_range ledger.issued

theorem held_nodup : ledger.held.Nodup := (Multiset.nodup_add.mp ledger.nodup_all).1

theorem released_nodup : ledger.released.Nodup := (Multiset.nodup_add.mp ledger.nodup_all).2.1

/-- A ticket is held exactly when it was issued and has not come back. -/
theorem mem_held_iff (ticket : Nat) :
    ticket ∈ ledger.held <-> ticket < ledger.issued ∧ ticket ∉ ledger.released := by
  have apart : ticket ∈ ledger.held -> ticket ∉ ledger.released :=
    fun member => Multiset.disjoint_left.mp (Multiset.nodup_add.mp ledger.nodup_all).2.2 member
  have total : ticket ∈ ledger.held + ledger.released <-> ticket < ledger.issued := by
    rw [ledger.balanced, Multiset.mem_range]
  rw [Multiset.mem_add] at total
  constructor
  · intro member
    exact ⟨total.mp (Or.inl member), apart member⟩
  · intro outstanding
    exact (total.mpr outstanding.1).resolve_right outstanding.2

/-- `held` is what was issued and has not come back. -/
theorem held_eq_filter :
    ledger.held = (Multiset.range ledger.issued).filter (· ∉ ledger.released) := by
  refine (Multiset.Nodup.ext ledger.held_nodup
    (Multiset.Nodup.filter _ (Multiset.nodup_range _))).mpr (fun ticket => ?_)
  rw [Multiset.mem_filter, Multiset.mem_range]
  exact ledger.mem_held_iff ticket

theorem released_lt {ticket : Nat} (member : ticket ∈ ledger.released) :
    ticket < ledger.issued := by
  rw [← Multiset.mem_range, ← ledger.balanced]
  exact Multiset.mem_add.mpr (Or.inr member)

end Ledger
end Foundations
