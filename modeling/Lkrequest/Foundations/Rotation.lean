import Mathlib.Data.List.Nodup
import Mathlib.Data.List.Perm.Subperm
import Mathlib.Data.Nat.ModEq

namespace Foundations

/-!
# Turns by a counter that wraps

A counter that wraps at a modulus is reduced by a length to find whose turn it
is.  As many turns as there are to take come to each exactly once if the
counter does not wrap among them, or if it wraps where a round ends.
-/

/-- The turns from a start on, one for each of a length. -/
def turns (modulus length start : Nat) : List Nat :=
  (List.range length).map (fun step => (start + step) % modulus % length)

variable {modulus length start : Nat}

theorem turns_lt (positive : 0 < length) {turn : Nat} (among : turn ∈ turns modulus length start) :
    turn < length := by
  rcases List.mem_map.mp among with ⟨step, _, rfl⟩
  exact Nat.mod_lt _ positive

/-- Without a harmful wrap, a turn is the start advanced by the step. -/
theorem turn_eq_of_harmless (harmless : length ∣ modulus ∨ start + length ≤ modulus) {step : Nat}
    (early : step < length) : (start + step) % modulus % length = (start + step) % length := by
  rcases harmless with divides | fits
  · exact Nat.mod_mod_of_dvd _ divides
  · rw [Nat.mod_eq_of_lt (a := start + step) (by omega)]

theorem turns_nodup_of_harmless (harmless : length ∣ modulus ∨ start + length ≤ modulus) :
    (turns modulus length start).Nodup := by
  apply List.Nodup.map_on _ List.nodup_range
  intro first among second among' same
  have early := List.mem_range.mp among
  have early' := List.mem_range.mp among'
  rw [turn_eq_of_harmless harmless early, turn_eq_of_harmless harmless early'] at same
  have congruent : first ≡ second [MOD length] := Nat.ModEq.add_left_cancel' start same
  exact congruent.eq_of_lt_of_lt early early'

theorem turns_perm_of_harmless (positive : 0 < length)
    (harmless : length ∣ modulus ∨ start + length ≤ modulus) :
    (turns modulus length start).Perm (List.range length) := by
  have within : turns modulus length start ⊆ List.range length :=
    fun _ among => List.mem_range.mpr (turns_lt positive among)
  apply (List.subperm_of_subset (turns_nodup_of_harmless harmless) within).perm_of_length_le
  rw [turns, List.length_map]

/-- Where every turn comes once, two steps with one turn are one step. -/
theorem step_eq_of_perm (fair : (turns modulus length start).Perm (List.range length))
    {first second : Nat} (early : first < length) (early' : second < length)
    (same : (start + first) % modulus % length = (start + second) % modulus % length) :
    first = second := by
  have distinct : (turns modulus length start).Nodup := fair.nodup_iff.mpr List.nodup_range
  exact List.inj_on_of_nodup_map distinct (List.mem_range.mpr early) (List.mem_range.mpr early') same

/-- The turn before the wrap is the last one of a round, if every turn comes
once: the one of the last place is followed by a turn of the first place, and
only the wrap can be that turn. -/
theorem harmless_of_turns_perm (positive : 0 < length) (bounded : start < modulus)
    (fair : (turns modulus length start).Perm (List.range length)) :
    length ∣ modulus ∨ start + length ≤ modulus := by
  by_cases fits : start + length ≤ modulus
  · exact Or.inr fits
  · apply Or.inl
    have listed : length - 1 ∈ turns modulus length start :=
      fair.mem_iff.mpr (List.mem_range.mpr (by omega))
    rcases List.mem_map.mp listed with ⟨step, among, last⟩
    have early := List.mem_range.mp among
    have wraps : (start + (modulus - start)) % modulus = 0 := by
      rw [Nat.add_sub_cancel' bounded.le, Nat.mod_self]
    have below : (start + step) % modulus < modulus := Nat.mod_lt _ (by omega)
    -- what is reached at the last place is one less than a multiple of the length
    have closes : length ∣ (start + step) % modulus + 1 := by
      apply Nat.dvd_of_mod_eq_zero
      rw [Nat.add_mod, last]
      rcases Nat.lt_or_ge 1 length with two | one
      · rw [Nat.mod_eq_of_lt two, Nat.sub_add_cancel positive, Nat.mod_self]
      · rw [Nat.le_antisymm one positive]
    by_cases final : (start + step) % modulus + 1 = modulus
    · exact final ▸ closes
    · have further : (start + (step + 1)) % modulus = (start + step) % modulus + 1 := by
        rw [← Nat.add_assoc, Nat.add_mod, Nat.mod_eq_of_lt (a := 1) (by omega), Nat.mod_eq_of_lt (by omega)]
      by_cases more : step + 1 < length
      · have twice := step_eq_of_perm fair more (by omega : modulus - start < length)
          (by rw [further, wraps, Nat.mod_eq_zero_of_dvd closes, Nat.zero_mod])
        rw [twice, wraps] at further
        exact (nomatch further)
      · -- the last step of all is too soon after the wrap
        have place : length - 1 ≤ (start + step) % modulus := last ▸ Nat.mod_le _ _
        have late : (start + step) % modulus ≤ start + step - modulus := by
          rw [Nat.mod_eq_sub_mod (by omega)]
          exact Nat.mod_le _ _
        omega

/-- Exactly when every turn comes once. -/
theorem turns_perm_iff (positive : 0 < length) (bounded : start < modulus) :
    (turns modulus length start).Perm (List.range length) <->
      length ∣ modulus ∨ start + length ≤ modulus :=
  ⟨harmless_of_turns_perm positive bounded, turns_perm_of_harmless positive⟩

end Foundations
