import Lkrequest.Foundations.Tasks
import Lkrequest.WebSocket.Steps

namespace Lkrequest
namespace WebSocket

open Foundations

/-!
# The life of a connection

The strong count of the connection is the slot and the operations that hold a
handle, the lock has at most one holder, which is inside `get` or `release`, and
the log of every operation is a function of its stage.
-/

/-! ## Handles and the lock -/

/-- The handles of the slot, or of what was taken out of it. -/
def slotHolds (slot : Option ConnId) (conn : ConnId) : Nat := if slot = some conn then 1 else 0

namespace Stage

def holds (conn : ConnId) : Stage -> Nat
  | .calling own => slotHolds (some own) conn
  | .releasing own _ => slotHolds (some own) conn
  | .taking own _ => slotHolds (some own) conn
  | .dropping own released _ => slotHolds (some own) conn + slotHolds released conn
  | .leaving own _ => slotHolds (some own) conn
  | _ => 0

/-- The operation has the lock of the slot. -/
def locks : Stage -> Bool
  | .reading => true
  | .taking _ _ => true
  | _ => false

end Stage

namespace Entry

variable {Error : Type}

/-- The handle of the slot is taken out. -/
def isRelease : Entry Error -> Bool
  | .released _ (some _) => true
  | _ => false

def isFreed : Entry Error -> Bool
  | .freed _ => true
  | _ => false

/-- The operation that did it.  The freeing of a connection is told apart. -/
def by_ : Entry Error -> Option Nat
  | .opened index _ => some index
  | .called index _ _ => some index
  | .answered index _ => some index
  | .released index _ => some index
  | .returned index _ => some index
  | .freed _ => none

end Entry

section Lifecycle

variable {Error : Type} {bodies : Operation -> Body Error} {api : Api} {body : Body Error}
variable {state next : State Error} {event : Event Error} {index : Nat} {before stage : Stage}
variable {slot : Option ConnId} {locked : Option Nat} {strong : ConnId -> Nat}
variable {entries : List (Entry Error)}

/-- The strong count of a connection is the number of its handles. -/
def Counted (state : State Error) : Prop :=
  forall conn, state.strong conn =
    slotHolds state.slot conn + (state.operations.map (fun running => running.stage.holds conn)).sum

/-- The lock is held by the operation that is inside `get` or `release`. -/
def Locked (state : State Error) : Prop :=
  Held (fun running : Running => running.stage.locks) state.operations state.locked

theorem cloned_apply (strong : ConnId -> Nat) (own conn : ConnId) :
    cloned strong own conn = strong conn + slotHolds (some own) conn := by
  unfold cloned slotHolds
  by_cases same : conn = own
  · subst same
    rw [Function.update_self, if_pos rfl]
  · rw [Function.update_of_ne same, if_neg (fun other => same (Option.some.inj other).symm)]
    rfl

theorem dropped_apply (strong : ConnId -> Nat) (own conn : ConnId) :
    dropped strong own conn = strong conn - slotHolds (some own) conn := by
  unfold dropped slotHolds
  by_cases same : conn = own
  · subst same
    rw [Function.update_self, if_pos rfl]
  · rw [Function.update_of_ne same, if_neg (fun other => same (Option.some.inj other).symm)]
    rfl

/-- A handle that is dropped is taken off those of its connection. -/
theorem dropped_all {strong : ConnId -> Nat} {own conn : ConnId} {kept : Nat}
    (enough : kept + slotHolds (some own) conn ≤ strong conn) :
    dropped strong own conn + (kept + slotHolds (some own) conn) = strong conn + (kept + 0) := by
  rw [dropped_apply]
  omega

/-- A change moves handles between the slot, its operation and nowhere. -/
theorem Change.balance (change : Change api body state index event before stage slot locked strong entries)
    (conn : ConnId) (enough : slotHolds state.slot conn + before.holds conn ≤ state.strong conn) :
    strong conn + (slotHolds state.slot conn + before.holds conn) =
      state.strong conn + (slotHolds slot conn + stage.holds conn) := by
  cases change with
  | lockGet free => rfl
  | lockRelease own result free => rfl
  | readNone empty => rfl
  | readSome own there =>
      rw [cloned_apply]
      change _ + (_ + 0) = _ + (_ + slotHolds (some own) conn)
      omega
  | keep own outcome result after => rfl
  | release own outcome result after => rfl
  | take own result =>
      change state.strong conn + (slotHolds state.slot conn + slotHolds (some own) conn) =
        state.strong conn + (0 + (slotHolds (some own) conn + slotHolds state.slot conn))
      omega
  | dropNone own result => rfl
  | dropSome own old result =>
      have kept : slotHolds state.slot conn + slotHolds (some own) conn + slotHolds (some old) conn ≤
          state.strong conn := Nat.le_trans (Nat.le_of_eq (Nat.add_assoc _ _ _)) enough
      have balanced := dropped_all kept
      rw [Nat.add_assoc] at balanced
      exact balanced
  | leave own result => exact dropped_all enough
  | cancelOpening async => rfl
  | cancelCalling own async => exact dropped_all enough

/-- A handle of an operation is counted. -/
theorem Counted.enough (counted : Counted state) {running : Running}
    (found : state.operations[index]? = some running) (conn : ConnId) :
    slotHolds state.slot conn + running.stage.holds conn ≤ state.strong conn := by
  have emptied := sum_map_set (fun running => running.stage.holds conn) found
    { running with stage := .cancelled }
  change _ + running.stage.holds conn = _ + 0 at emptied
  rw [counted conn]
  omega

theorem counted_step (counted : Counted state) (steps : Steps bodies api state event next) :
    Counted next := by
  intro conn
  cases steps with
  | start operation =>
      change state.strong conn = slotHolds state.slot conn + _
      rw [counted conn, List.map_append, List.sum_append]
      rfl
  | change index running event stage slot locked strong entries found change =>
      have balance := change.balance conn (counted.enough found conn)
      have moved := sum_map_set (fun running => running.stage.holds conn) found
        { running with stage := stage }
      change _ + running.stage.holds conn = _ + stage.holds conn at moved
      have total := counted conn
      change strong conn = slotHolds slot conn +
        ((state.operations.set index { running with stage := stage }).map
          (fun running => running.stage.holds conn)).sum
      omega

/-- A change keeps the lock, or takes it when it is free, or leaves it. -/
theorem Change.lock_cases
    (change : Change api body state index event before stage slot locked strong entries) :
    (locked = state.locked ∧ stage.locks = before.locks) ∨
      (state.locked = none ∧ locked = some index ∧ before.locks = false ∧ stage.locks = true) ∨
        (locked = none ∧ before.locks = true ∧ stage.locks = false) := by
  cases change with
  | lockGet free => exact Or.inr (Or.inl ⟨free, rfl, rfl, rfl⟩)
  | lockRelease own result free => exact Or.inr (Or.inl ⟨free, rfl, rfl, rfl⟩)
  | readNone empty => exact Or.inr (Or.inr ⟨rfl, rfl, rfl⟩)
  | readSome own there => exact Or.inr (Or.inr ⟨rfl, rfl, rfl⟩)
  | take own result => exact Or.inr (Or.inr ⟨rfl, rfl, rfl⟩)
  | _ => exact Or.inl ⟨rfl, rfl⟩

theorem locked_step (held : Locked state) (steps : Steps bodies api state event next) : Locked next := by
  cases steps with
  | start operation => exact held.start rfl
  | change index running event stage slot locked strong entries found change =>
      rcases change.lock_cases with ⟨rfl, alike⟩ | ⟨free, rfl, _, locks⟩ | ⟨rfl, locks, unlocks⟩
      · exact held.keep found alike
      · unfold Locked at held
        rw [free] at held
        exact held.take found locks
      · exact held.leave found locks unlocks

/-! ## The freeing of the connection -/

/-- There is no other connection, and this one is freed when its handles are gone. -/
structure Freed (conn : ConnId) (state : State Error) : Prop where
  alone : forall other, other ≠ conn -> state.strong other = 0
  once : state.log.countP Entry.isFreed = if state.strong conn = 0 then 1 else 0
  named : forall other, .freed other ∈ state.log -> other = conn

/-- What was in the slot is released once. -/
def ReleasedOnce (state : State Error) : Prop :=
  state.log.countP Entry.isRelease = if state.slot = none then 1 else 0

variable {conn : ConnId}

theorem Freed.own (freed : Freed conn state) {other : ConnId} (held : 0 < state.strong other) :
    other = conn := by
  by_contra foreign
  rw [freed.alone other foreign] at held
  exact Nat.lt_irrefl 0 held

theorem countP_isFreed_freeing (strong : ConnId -> Nat) (conn : ConnId) :
    (freeing strong conn : List (Entry Error)).countP Entry.isFreed =
      if strong conn - 1 = 0 then 1 else 0 := by
  unfold freeing
  split <;> rfl

theorem isFreed_of_mem_freeing {strong : ConnId -> Nat} {conn : ConnId} {entry : Entry Error}
    (among : entry ∈ freeing strong conn) : entry = .freed conn := by
  unfold freeing at among
  split at among
  · exact List.mem_singleton.mp among
  · exact absurd among List.not_mem_nil

theorem countP_isFreed_quiet {entries : List (Entry Error)} (quiet : ∀ entry ∈ entries, entry.isFreed = false) :
    entries.countP Entry.isFreed = 0 := by
  rw [List.countP_eq_zero]
  intro entry among isFreed
  exact Bool.noConfusion ((quiet entry among).symm.trans isFreed)

theorem Freed.quiet (freed : Freed conn state) (quiet : ∀ entry ∈ entries, entry.isFreed = false)
    (operations : List Running) :
    Freed conn ⟨slot, locked, state.strong, operations, state.log ++ entries⟩ := by
  refine ⟨freed.alone, ?_, ?_⟩
  · rw [List.countP_append, freed.once, countP_isFreed_quiet quiet]
    rfl
  · intro other among
    rcases List.mem_append.mp among with earlier | now
    · exact freed.named other earlier
    · exact Bool.noConfusion (quiet _ now)

/-- A handle that is dropped is one of this connection, and the last one frees it. -/
theorem Freed.drop (freed : Freed conn state) {own : ConnId} (held : slotHolds (some own) own ≤ state.strong own)
    (quiet : ∀ entry ∈ entries, entry.isFreed = false) (operations : List Running) :
    Freed conn ⟨slot, locked, dropped state.strong own, operations,
      state.log ++ (freeing state.strong own ++ entries)⟩ := by
  rw [slotHolds, if_pos rfl] at held
  have mine := freed.own (Nat.lt_of_lt_of_le Nat.zero_lt_one held)
  subst mine
  refine ⟨?_, ?_, ?_⟩
  · intro other foreign
    change dropped state.strong own other = 0
    rw [dropped_apply, freed.alone other foreign, Nat.zero_sub]
  · change _ = if dropped state.strong own own = 0 then 1 else 0
    rw [List.countP_append, List.countP_append, countP_isFreed_quiet quiet, countP_isFreed_freeing,
      freed.once, dropped_apply, slotHolds, if_pos rfl, if_neg (by omega)]
    omega
  · intro other among
    rcases List.mem_append.mp among with earlier | now
    · exact freed.named other earlier
    · rcases List.mem_append.mp now with frees | after
      · exact Entry.freed.inj (isFreed_of_mem_freeing frees)
      · exact Bool.noConfusion (quiet _ after)

theorem Freed.drop_only (freed : Freed conn state) {own : ConnId}
    (held : slotHolds (some own) own ≤ state.strong own) (operations : List Running) :
    Freed conn ⟨slot, locked, dropped state.strong own, operations,
      state.log ++ freeing state.strong own⟩ := by
  rw [← List.append_nil (freeing state.strong own)]
  exact freed.drop held (by simp) operations

theorem Freed.clone (freed : Freed conn state) {own : ConnId} (held : slotHolds (some own) own ≤ state.strong own)
    (quiet : ∀ entry ∈ entries, entry.isFreed = false) (operations : List Running) :
    Freed conn ⟨slot, locked, cloned state.strong own, operations, state.log ++ entries⟩ := by
  rw [slotHolds, if_pos rfl] at held
  have mine := freed.own (Nat.lt_of_lt_of_le Nat.zero_lt_one held)
  subst mine
  have unchanged : Freed own ⟨slot, locked, state.strong, operations, state.log ++ entries⟩ :=
    freed.quiet quiet operations
  refine ⟨?_, ?_, unchanged.named⟩
  · intro other foreign
    change cloned state.strong own other = 0
    rw [cloned_apply, freed.alone other foreign, slotHolds,
      if_neg (fun same => foreign (Option.some.inj same).symm)]
  · change _ = if cloned state.strong own own = 0 then 1 else 0
    rw [List.countP_append, freed.once, countP_isFreed_quiet quiet, cloned_apply, slotHolds, if_pos rfl,
      if_neg (by omega), if_neg (by omega)]

theorem freed_step (freed : Freed conn state) (counted : Counted state)
    (steps : Steps bodies api state event next) : Freed conn next := by
  cases steps with
  | start operation => exact ⟨freed.alone, freed.once, freed.named⟩
  | change index running event stage slot locked strong entries found change =>
      have enough := counted.enough found
      generalize running.stage = before at enough change
      cases change with
      | lockGet free => exact freed.quiet (by simp) _
      | lockRelease own result free => exact freed.quiet (by simp) _
      | readNone empty => exact freed.quiet (by simp [Entry.isFreed]) _
      | readSome own there =>
          have held := Nat.le_trans (Nat.le_add_right _ _) (enough own)
          rw [there] at held
          exact freed.clone held (by simp [Entry.isFreed]) _
      | keep own outcome result after => exact freed.quiet (by simp [Entry.isFreed]) _
      | release own outcome result after => exact freed.quiet (by simp [Entry.isFreed]) _
      | take own result => exact freed.quiet (by simp [Entry.isFreed]) _
      | dropNone own result => exact freed.quiet (by simp) _
      | dropSome own old result =>
          have all := enough old
          change slotHolds state.slot old + (slotHolds (some own) old + slotHolds (some old) old) ≤ _ at all
          have held : slotHolds (some old) old ≤ state.strong old := by omega
          exact freed.drop_only held _
      | leave own result =>
          exact freed.drop (Nat.le_trans (Nat.le_add_left _ _) (enough own)) (by simp [Entry.isFreed]) _
      | cancelOpening async => exact freed.quiet (by simp) _
      | cancelCalling own async =>
          exact freed.drop_only (Nat.le_trans (Nat.le_add_left _ _) (enough own)) _

/-! ## The release of the slot -/

/-- What is got from the slot is the connection, until somebody has taken it out. -/
def SeesSlot (conn : ConnId) (early : List (Entry Error)) (entry : Entry Error) : Prop :=
  forall index handle, (entry = .opened index handle ∨ entry = .released index handle) ->
    handle = if early.any Entry.isRelease then none else some conn

theorem not_mem_freeing {strong : ConnId -> Nat} {own : ConnId} {test : Entry Error -> Bool}
    (other : forall conn, test (.freed conn) = false) : (freeing strong own).countP test = 0 := by
  rw [List.countP_eq_zero]
  intro entry among
  rw [isFreed_of_mem_freeing among, other own]
  exact Bool.false_ne_true

theorem Change.released
    (change : Change api body state index event before stage slot locked strong entries) :
    entries.countP Entry.isRelease + (if state.slot = none then 1 else 0) = if slot = none then 1 else 0 := by
  cases change with
  | take own result =>
      cases state.slot with
      | none => rfl
      | some conn => rfl
  | dropSome own old result => rw [not_mem_freeing (fun _ => rfl), Nat.zero_add]
  | leave own result =>
      rw [List.countP_append, not_mem_freeing (fun _ => rfl)]
      exact Nat.zero_add _
  | cancelCalling own async => rw [not_mem_freeing (fun _ => rfl), Nat.zero_add]
  | _ => exact Nat.zero_add _

theorem releasedOnce_step (released : ReleasedOnce state) (steps : Steps bodies api state event next) :
    ReleasedOnce next := by
  cases steps with
  | start operation => exact released
  | change index running event stage slot locked strong entries found change =>
      have once := change.released
      change (state.log ++ entries).countP Entry.isRelease = if slot = none then 1 else 0
      rw [← once, List.countP_append, show state.log.countP Entry.isRelease = _ from released, Nat.add_comm]

/-- The slot is never filled again. -/
theorem Change.slot_none
    (change : Change api body state index event before stage slot locked strong entries)
    (empty : state.slot = none) : slot = none := by
  cases change with
  | take own result => rfl
  | _ => exact empty

theorem slot_none_step (empty : state.slot = none) (steps : Steps bodies api state event next) :
    next.slot = none := by
  cases steps with
  | start operation => exact empty
  | change index running event stage slot locked strong entries found change => exact change.slot_none empty

theorem ReleasedOnce.any_iff (released : ReleasedOnce state) :
    state.log.any Entry.isRelease = true <-> state.slot = none := by
  rw [List.any_eq_true, ← List.countP_pos_iff, show state.log.countP Entry.isRelease = _ from released]
  split <;> simp_all

/-- The slot, as the log tells it. -/
theorem slot_eq (released : ReleasedOnce state) (freed : Freed conn state) (counted : Counted state) :
    state.slot = if state.log.any Entry.isRelease then none else some conn := by
  cases there : state.slot with
  | none =>
      rw [released.any_iff.mpr there]
      rfl
  | some own =>
      have untouched : state.log.any Entry.isRelease = false := by
        rw [← Bool.not_eq_true, released.any_iff, there]
        exact nofun
      have held := counted own
      rw [there, slotHolds, if_pos rfl] at held
      rw [untouched, freed.own (by omega : 0 < state.strong own)]
      rfl

/-! ## What a step logs of the slot -/

/-- An entry that says nothing of the slot. -/
def Entry.quiet : Entry Error -> Bool
  | .opened _ _ => false
  | .released _ _ => false
  | _ => true

/-- An operation reads the slot, or empties it, or does not look at it. -/
inductive Logs (state : State Error) : Event Error -> List (Entry Error) -> Prop
  | opened {index : Nat} {running : Running} {later : Entry Error}
      (found : state.operations[index]? = some running) (stands : running.stage = .reading)
      (quiet : later.quiet = true) : Logs state (.go index) [.opened index state.slot, later]
  | released {event : Event Error} (index : Nat) : Logs state event [.released index state.slot]
  | quiet {event : Event Error} {entries : List (Entry Error)}
      (quiet : ∀ entry ∈ entries, entry.quiet = true) : Logs state event entries

theorem quiet_freeing (strong : ConnId -> Nat) (conn : ConnId) :
    ∀ entry ∈ (freeing strong conn : List (Entry Error)), entry.quiet = true := by
  intro entry among
  rw [isFreed_of_mem_freeing among]
  rfl

theorem Steps.logs (steps : Steps bodies api state event next) :
    ∃ entries, next.log = state.log ++ entries ∧ Logs state event entries := by
  cases steps with
  | start operation => exact ⟨[], (List.append_nil _).symm, .quiet nofun⟩
  | change index running event stage slot locked strong entries found change =>
      refine ⟨entries, rfl, ?_⟩
      generalize stands : running.stage = before at change
      cases change with
      | readNone empty => exact empty ▸ .opened found stands rfl
      | readSome own there => exact there ▸ .opened found stands rfl
      | take own result => exact .released index
      | dropSome own old result => exact .quiet (quiet_freeing _ _)
      | cancelCalling own async => exact .quiet (quiet_freeing _ _)
      | leave own result =>
          refine .quiet (List.forall_mem_append.mpr ⟨quiet_freeing _ _, ?_⟩)
          exact List.forall_mem_singleton.mpr rfl
      | _ => exact .quiet (by simp [Entry.quiet])

theorem seesSlot_step (sees : Foundations.Each (SeesSlot conn) state.log) (released : ReleasedOnce state)
    (freed : Freed conn state) (counted : Counted state) (steps : Steps bodies api state event next) :
    Foundations.Each (SeesSlot conn) next.log := by
  have slot := slot_eq released freed counted
  have unseen : forall {early : List (Entry Error)} {entry : Entry Error}, entry.quiet = true ->
      SeesSlot conn early entry := by
    rintro early entry quiet index handle (same | same) <;> subst same <;> exact (nomatch quiet)
  rcases steps.logs with ⟨entries, logged, logs⟩
  rw [logged]
  cases logs with
  | opened found stands quiet =>
      rw [List.append_cons]
      apply Foundations.Each.snoc
      · apply sees.snoc
        rintro index handle (same | other)
        · exact (Entry.opened.inj same).2 ▸ slot
        · exact (nomatch other)
      · exact unseen quiet
  | released index =>
      apply sees.snoc
      rintro index handle (other | same)
      · exact (nomatch other)
      · exact (Entry.released.inj same).2 ▸ slot
  | quiet quiet => exact sees.append (fun entry among early => unseen (quiet entry among))

end Lifecycle

end WebSocket
end Lkrequest
