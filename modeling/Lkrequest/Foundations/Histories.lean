import Mathlib.Algebra.BigOperators.Ring.Finset

namespace Foundations

/-!
# Counters and who added to them

A shared counter is changed by atomic additions and by stores of zero.  Its
history lists these operations with their writers, and its value is what was
added since the last store: the sum of the shares of the writers.

`Followed` compares the order of two kinds of operations in a history.
-/

/-- Operations with their writers, the earliest first. -/
abbrev History (Op : Type) := List (Nat × Op)

/-- What an operation does to a counter. -/
inductive Move
  | add (amount : Nat)
  | wipe
  | keep
deriving DecidableEq

namespace Move

def apply : Move -> Nat -> Nat
  | .add amount, value => value + amount
  | .wipe, _ => 0
  | .keep, value => value

/-- The move for the share of one writer: it is not theirs to add what others add. -/
def ownedBy (own : Bool) : Move -> Move
  | .add amount => if own then .add amount else .keep
  | .wipe => .wipe
  | .keep => .keep

end Move

section Totals

variable {Op : Type} (move : Op -> Move)

/-- The counter after a history. -/
def total (history : History Op) : Nat :=
  history.foldl (fun value entry => (move entry.2).apply value) 0

/-- What is in the counter of one writer's additions. -/
def share (writer : Nat) (history : History Op) : Nat :=
  history.foldl (fun value entry => ((move entry.2).ownedBy (entry.1 = writer)).apply value) 0

@[simp] theorem total_nil : total move ([] : History Op) = 0 := rfl

@[simp] theorem share_nil (writer : Nat) : share move writer ([] : History Op) = 0 := rfl

@[simp] theorem total_snoc (history : History Op) (entry : Nat × Op) :
    total move (history ++ [entry]) = (move entry.2).apply (total move history) := by
  unfold total
  rw [List.foldl_append, List.foldl_cons, List.foldl_nil]

@[simp] theorem share_snoc (writer : Nat) (history : History Op) (entry : Nat × Op) :
    share move writer (history ++ [entry]) =
      ((move entry.2).ownedBy (entry.1 = writer)).apply (share move writer history) := by
  unfold share
  rw [List.foldl_append, List.foldl_cons, List.foldl_nil]

/-- The counter is the sum of the shares. -/
theorem total_eq_sum_share {writers : Nat} {history : History Op}
    (known : ∀ entry ∈ history, entry.1 < writers) :
    total move history = (Finset.range writers).sum (fun writer => share move writer history) := by
  induction history using List.reverseRecOn with
  | nil => simp
  | append_singleton history entry sums =>
      have earlier := sums (fun other among => known other (List.mem_append_left _ among))
      have writes := known entry (List.mem_append_right _ (List.mem_singleton_self entry))
      rw [total_snoc]
      simp only [share_snoc]
      cases move entry.2 with
      | keep => exact earlier
      | wipe => exact (Finset.sum_const_zero).symm
      | add amount =>
          have split : forall writer,
              ((Move.add amount).ownedBy (entry.1 = writer)).apply (share move writer history) =
                share move writer history + if entry.1 = writer then amount else 0 := by
            intro writer
            by_cases own : entry.1 = writer <;> simp [Move.ownedBy, Move.apply, own]
          simp only [split, Finset.sum_add_distrib, Finset.sum_ite_eq, Finset.mem_range, if_pos writes]
          exact congrArg (· + amount) earlier

/-- What several counters hold together is what they hold of every writer. -/
theorem sum_total_eq {Counter : Type} {writers : Nat} {history : History Op} (moves : Counter -> Op -> Move)
    (known : ∀ entry ∈ history, entry.1 < writers) (counters : List Counter) :
    (counters.map (fun counter => total (moves counter) history)).sum =
      (Finset.range writers).sum (fun writer =>
        (counters.map (fun counter => share (moves counter) writer history)).sum) := by
  induction counters with
  | nil => simp
  | cons counter rest ih =>
      simp only [List.map_cons, List.sum_cons, Finset.sum_add_distrib]
      rw [ih, total_eq_sum_share (moves counter) known]

/-- Where nothing is wiped, later additions come on top. -/
theorem total_append {earlier later : History Op} (kept : ∀ entry ∈ later, move entry.2 ≠ .wipe) :
    total move earlier ≤ total move (earlier ++ later) := by
  induction later using List.reverseRecOn with
  | nil => rw [List.append_nil]
  | append_singleton later entry grows =>
      have before := grows (fun other among => kept other (List.mem_append_left _ among))
      have last := kept entry (List.mem_append_right _ (List.mem_singleton_self entry))
      rw [← List.append_assoc, total_snoc]
      cases moved : move entry.2 with
      | keep => exact before
      | wipe => exact absurd moved last
      | add amount => exact Nat.le_trans before (Nat.le_add_right _ _)

/-- The operations of one writer, in their order. -/
def opsOf (writer : Nat) (history : History Op) : List Op :=
  (history.filter (·.1 = writer)).map Prod.snd

@[simp] theorem opsOf_nil (writer : Nat) : opsOf writer ([] : History Op) = [] := rfl

theorem opsOf_snoc (writer : Nat) (history : History Op) (entry : Nat × Op) :
    opsOf writer (history ++ [entry]) =
      opsOf writer history ++ if entry.1 = writer then [entry.2] else [] := by
  unfold opsOf
  rw [List.filter_append, List.map_append]
  by_cases own : entry.1 = writer <;> simp [own]

theorem opsOf_snoc_own (history : History Op) (entry : Nat × Op) :
    opsOf entry.1 (history ++ [entry]) = opsOf entry.1 history ++ [entry.2] := by
  rw [opsOf_snoc, if_pos rfl]

theorem opsOf_snoc_other {writer : Nat} (history : History Op) {entry : Nat × Op}
    (foreign : entry.1 ≠ writer) : opsOf writer (history ++ [entry]) = opsOf writer history := by
  rw [opsOf_snoc, if_neg foreign, List.append_nil]

theorem opsOf_append_own (writer : Nat) (history : History Op) (done : List Op) :
    opsOf writer (history ++ done.map (fun op => (writer, op))) = opsOf writer history ++ done := by
  induction done using List.reverseRecOn with
  | nil => simp
  | append_singleton done op ih =>
      rw [List.map_append, ← List.append_assoc, ← List.append_assoc, ← ih]
      exact opsOf_snoc_own _ (writer, op)

theorem opsOf_append_other {writer other : Nat} (foreign : writer ≠ other)
    (history : History Op) (done : List Op) :
    opsOf other (history ++ done.map (fun op => (writer, op))) = opsOf other history := by
  induction done using List.reverseRecOn with
  | nil => simp
  | append_singleton done op ih =>
      rw [List.map_append, ← List.append_assoc, ← ih]
      exact opsOf_snoc_other _ foreign

theorem mem_opsOf {writer : Nat} {history : History Op} {op : Op} :
    op ∈ opsOf writer history <-> (writer, op) ∈ history := by
  unfold opsOf
  constructor
  · intro among
    rcases List.mem_map.mp among with ⟨entry, inFilter, rfl⟩
    rcases List.mem_filter.mp inFilter with ⟨inHistory, own⟩
    rw [← of_decide_eq_true own]
    exact inHistory
  · intro among
    exact List.mem_map.mpr ⟨_, List.mem_filter.mpr ⟨among, decide_eq_true rfl⟩, rfl⟩

theorem flatMap_single {writers writer : Nat} (inRange : writer < writers) (op : Op) :
    (List.range writers).flatMap (fun other => if writer = other then [op] else []) = [op] := by
  induction writers with
  | zero => exact absurd inRange (Nat.not_lt_zero _)
  | succ writers ih =>
      rw [List.range_succ, List.flatMap_append, List.flatMap_singleton]
      rcases Nat.lt_or_eq_of_le (Nat.le_of_lt_succ inRange) with earlier | last
      · rw [ih earlier, if_neg (Nat.ne_of_lt earlier), List.append_nil]
      · have none : (List.range writers).flatMap (fun other => if writer = other then [op] else []) = [] := by
          apply List.flatMap_eq_nil_iff.mpr
          intro other among
          exact if_neg (fun same => Nat.lt_irrefl _ (same ▸ last ▸ List.mem_range.mp among))
        rw [none, if_pos last]
        rfl

/-- When one key gets a value, this is the one more value that there is. -/
theorem perm_filterMap_of_one {Key Value : Type} [DecidableEq Key] {before after : Key -> Option Value}
    {keys : List Key} {key : Key} {value : Value} (distinct : keys.Nodup) (among : key ∈ keys)
    (nothing : before key = none) (now : after key = some value)
    (others : forall other, other ≠ key -> after other = before other) :
    (keys.filterMap after).Perm (keys.filterMap before ++ [value]) := by
  have split : keys.Perm (key :: keys.erase key) := List.perm_cons_erase among
  have rest : (keys.erase key).filterMap after = (keys.erase key).filterMap before := by
    apply List.filterMap_congr
    intro other inRest
    apply others
    rintro rfl
    exact distinct.not_mem_erase inRest
  have early : (keys.filterMap before).Perm ((keys.erase key).filterMap before) := by
    apply (split.filterMap before).trans
    rw [List.filterMap_cons_none nothing]
  apply (split.filterMap after).trans
  rw [List.filterMap_cons_some now, rest]
  exact (early.symm.cons value).trans (List.perm_append_singleton _ _).symm

/-- A history is put together from what the writers did. -/
theorem perm_opsOf {writers : Nat} {history : History Op} (known : ∀ entry ∈ history, entry.1 < writers) :
    (history.map Prod.snd).Perm ((List.range writers).flatMap (fun writer => opsOf writer history)) := by
  induction history using List.reverseRecOn with
  | nil => simp
  | append_singleton history entry ih =>
      have earlier := ih (fun other among => known other (List.mem_append_left _ among))
      have writes := known entry (List.mem_append_right _ (List.mem_singleton_self entry))
      rw [List.map_append, List.map_singleton]
      simp only [opsOf_snoc]
      refine List.Perm.trans ?_ (List.flatMap_append_perm _ _ _)
      rw [flatMap_single writes]
      exact earlier.append_right _

/-- A share is no more than what the writer added. -/
theorem share_le_added (writer : Nat) (history : History Op) :
    share move writer history ≤ ((opsOf writer history).map (fun op => (move op).apply 0)).sum := by
  induction history using List.reverseRecOn with
  | nil => exact Nat.le_refl 0
  | append_singleton history entry ih =>
      rw [share_snoc, opsOf_snoc, List.map_append, List.sum_append]
      cases moved : move entry.2 with
      | keep => exact Nat.le_trans ih (Nat.le_add_right _ _)
      | wipe => exact Nat.zero_le _
      | add amount =>
          by_cases own : entry.1 = writer
          · rw [if_pos own, List.map_singleton, List.sum_singleton, moved, decide_eq_true own]
            change share move writer history + amount ≤ _ + (0 + amount)
            omega
          · rw [decide_eq_false own]
            exact Nat.le_trans ih (Nat.le_add_right _ _)

theorem opsOf_grows {earlier later : History Op} (grows : earlier <+: later) (writer : Nat) :
    opsOf writer earlier <+: opsOf writer later :=
  (grows.filter _).map _

/-- Where nothing is wiped, a share is the sum of the writer's own additions. -/
theorem share_eq_sum {history : History Op} (writer : Nat)
    (kept : ∀ entry ∈ history, move entry.2 ≠ .wipe) :
    share move writer history = ((opsOf writer history).map (fun op => (move op).apply 0)).sum := by
  induction history using List.reverseRecOn with
  | nil => rfl
  | append_singleton history entry sums =>
      have earlier := sums (fun other among => kept other (List.mem_append_left _ among))
      have last := kept entry (List.mem_append_right _ (List.mem_singleton_self entry))
      rw [share_snoc, opsOf_snoc, earlier, List.map_append, List.sum_append]
      cases moved : move entry.2 with
      | keep => by_cases own : entry.1 = writer <;> simp [Move.ownedBy, Move.apply, own, moved]
      | wipe => exact absurd moved last
      | add amount => by_cases own : entry.1 = writer <;> simp [Move.ownedBy, Move.apply, own, moved]

end Totals

/-! ## Order in a history -/

section Order

variable {Op : Type}

/-- Some `late` entry comes after some `early` one. -/
def Followed (early late : Nat × Op -> Prop) (history : History Op) : Prop :=
  ∃ before entry after, history = before ++ entry :: after ∧ early entry ∧ ∃ later ∈ after, late later

theorem followed_snoc {early late : Nat × Op -> Prop} (history : History Op) (entry : Nat × Op) :
    Followed early late (history ++ [entry]) <->
      Followed early late history ∨ (late entry ∧ ∃ other ∈ history, early other) := by
  constructor
  · rintro ⟨before, first, after, split, isEarly, later, among, isLate⟩
    rcases List.eq_nil_or_concat after with none | ⟨others, last, rfl⟩
    · rw [none] at among
      exact absurd among List.not_mem_nil
    · rw [List.concat_eq_append] at split among
      rw [← List.cons_append, ← List.append_assoc] at split
      rcases List.append_inj' split rfl with ⟨rfl, lastIs⟩
      rcases List.mem_append.mp among with inOthers | isLast
      · exact Or.inl ⟨before, first, others, rfl, isEarly, later, inOthers, isLate⟩
      · refine Or.inr ⟨?_, first, List.mem_append_right _ List.mem_cons_self, isEarly⟩
        rw [List.mem_singleton.mp isLast, ← List.singleton_inj.mp lastIs] at isLate
        exact isLate
  · rintro (⟨before, first, after, rfl, isEarly, later, among, isLate⟩ | ⟨isLate, other, among, isEarly⟩)
    · refine ⟨before, first, after ++ [entry], ?_, isEarly, later, List.mem_append_left _ among, isLate⟩
      rw [List.append_assoc, List.cons_append]
    · rcases List.append_of_mem among with ⟨before, after, rfl⟩
      refine ⟨before, other, after ++ [entry], ?_, isEarly, entry,
        List.mem_append_right _ (List.mem_singleton_self entry), isLate⟩
      rw [List.append_assoc, List.cons_append]

variable {move : Op -> Move} {writer : Nat}

/-- What a writer did to the counter. -/
def movesOf (move : Op -> Move) (writer : Nat) (history : History Op) : List Move :=
  ((opsOf writer history).map move).filter (· ≠ .keep)

theorem movesOf_snoc_own (history : History Op) {entry : Nat × Op} (own : entry.1 = writer) :
    movesOf move writer (history ++ [entry]) =
      movesOf move writer history ++ if move entry.2 = .keep then [] else [move entry.2] := by
  unfold movesOf
  rw [opsOf_snoc, if_pos own, List.map_append, List.filter_append]
  by_cases kept : move entry.2 = .keep <;> simp [kept]

theorem movesOf_snoc_other (history : History Op) {entry : Nat × Op} (foreign : entry.1 ≠ writer) :
    movesOf move writer (history ++ [entry]) = movesOf move writer history := by
  unfold movesOf
  rw [opsOf_snoc_other history foreign]

/-- The writer changed the counter with this entry. -/
def Moved (move : Op -> Move) (writer : Nat) (entry : Nat × Op) : Prop :=
  entry.1 = writer ∧ move entry.2 ≠ .keep

theorem movesOf_eq_nil_iff {history : History Op} :
    movesOf move writer history = [] <-> ∀ entry ∈ history, ¬ Moved move writer entry := by
  unfold movesOf
  rw [List.filter_eq_nil_iff]
  constructor
  · rintro none entry among ⟨own, moves⟩
    apply none (move entry.2) (List.mem_map_of_mem (mem_opsOf.mpr (own ▸ among)))
    exact decide_eq_true moves
  · intro none made among moves
    rcases List.mem_map.mp among with ⟨op, inOps, rfl⟩
    exact none _ (mem_opsOf.mp inOps) ⟨rfl, of_decide_eq_true moves⟩

/-- Who adds nothing has no share. -/
theorem share_of_no_add {history : History Op}
    (adds : ∀ entry ∈ history, entry.1 = writer -> forall amount, move entry.2 ≠ .add amount) :
    share move writer history = 0 := by
  induction history using List.reverseRecOn with
  | nil => rfl
  | append_singleton history entry none =>
      have earlier := none (fun other among => adds other (List.mem_append_left _ among))
      have last := adds entry (List.mem_append_right _ (List.mem_singleton_self entry))
      rw [share_snoc, earlier]
      cases moved : move entry.2 with
      | keep => rfl
      | wipe => rfl
      | add amount =>
          have foreign : entry.1 ≠ writer := fun own => last own amount moved
          simp [Move.ownedBy, Move.apply, foreign]

theorem share_of_never {history : History Op} (never : movesOf move writer history = []) :
    share move writer history = 0 := by
  apply share_of_no_add
  intro entry among own amount adds
  apply movesOf_eq_nil_iff.mp never entry among
  exact ⟨own, fun kept => Move.noConfusion (kept.symm.trans adds)⟩

open Classical in
/-- What a writer added at once is counted until a wipe follows. -/
theorem share_of_once {history : History Op} {amount : Nat}
    (once : movesOf move writer history = [.add amount]) :
    share move writer history =
      if Followed (Moved move writer) (fun entry => move entry.2 = .wipe) history then 0 else amount := by
  induction history using List.reverseRecOn with
  | nil => exact (nomatch once)
  | append_singleton history entry shares =>
      rw [share_snoc]
      simp only [followed_snoc]
      by_cases own : entry.1 = writer
      · by_cases kept : move entry.2 = .keep
        · rw [movesOf_snoc_own history own, if_pos kept, List.append_nil] at once
          rw [shares once, kept]
          simp [Move.ownedBy, Move.apply]
        · rw [movesOf_snoc_own history own, if_neg kept] at once
          rcases List.append_eq_singleton_iff.mp once with ⟨never, last⟩ | ⟨-, impossible⟩
          · have nobody := movesOf_eq_nil_iff.mp never
            have notFollowed : ¬ Followed (Moved move writer) (fun entry => move entry.2 = .wipe) history := by
              rintro ⟨before, first, after, split, moved, -⟩
              refine nobody first ?_ moved
              rw [split]
              exact List.mem_append_right _ List.mem_cons_self
            rw [share_of_never never, List.singleton_inj.mp last]
            simp [Move.ownedBy, Move.apply, own, notFollowed]
          · exact absurd impossible (List.cons_ne_nil _ _)
      · rw [movesOf_snoc_other history own] at once
        have earlier := shares once
        cases moved : move entry.2 with
        | keep => simpa [Move.ownedBy, Move.apply] using earlier
        | add added => simpa [Move.ownedBy, Move.apply, own] using earlier
        | wipe =>
            have someone : ∃ other ∈ history, Moved move writer other := by
              by_contra none
              push Not at none
              rw [movesOf_eq_nil_iff.mpr none] at once
              exact (nomatch once)
            rw [if_pos (Or.inr ⟨rfl, someone⟩)]
            rfl

end Order

end Foundations
