import Mathlib.Data.List.Basic

namespace Foundations

/-!
# Waiting without losing a wake-up

A party that waits for a condition somebody else establishes has two facts to
obtain which it cannot obtain at once: whether the condition holds already, and
whether it will be told when it starts to hold.  The order that works is to
enlist for a notification first and to look at the condition afterwards.  The
establisher acts in the opposite order: it makes the condition true first and
notifies everybody afterwards, and in between it *owes* a notification.

`NoLostWakeup` is the invariant of that arrangement.  It does not say that the
condition is noticed at once; it says that whoever would sleep through it still
has a notification coming.  The three rules at the end are all a protocol
needs: the waiters' own moves, a change of the condition, and a broadcast.
-/

/-- One waiting party.  `notified` records whether the notification it enlisted
for has been given since. -/
inductive Waiter
  | outside
  | enlisted (notified : Bool)
  | declined (notified : Bool)
  | parked (notified : Bool)
  | left (satisfied : Bool)
deriving DecidableEq

namespace Waiter

/-- A broadcast reaches everybody who enlisted before it. -/
def notify : Waiter -> Waiter
  | .enlisted _ => .enlisted true
  | .declined _ => .declined true
  | .parked _ => .parked true
  | waiter => waiter

/-- The waiter found the condition false and will not look again on its own
before it is notified. -/
def Stranded (waiter : Waiter) : Prop :=
  waiter = .declined false ∨ waiter = .parked false

/-- What a waiter may do by itself when the condition currently is `quiet`.  It
leaves satisfied only by a look at the condition made while enlisted. -/
inductive Moves (quiet : Prop) : Waiter -> Waiter -> Prop
  | enlist : Moves quiet .outside (.enlisted false)
  | satisfied (notified : Bool) (holds : quiet) : Moves quiet (.enlisted notified) (.left true)
  | decline (notified : Bool) (fails : ¬ quiet) : Moves quiet (.enlisted notified) (.declined notified)
  | park : Moves quiet (.declined false) (.parked false)
  | pass : Moves quiet (.declined true) .outside
  | resume (notified : Bool) : Moves quiet (.parked notified) .outside
  | abandon (notified : Bool) : Moves quiet (.parked notified) (.left false)

theorem notify_not_stranded (waiter : Waiter) : ¬ waiter.notify.Stranded := by
  rintro (stranded | stranded) <;> cases waiter <;> cases stranded

/-- Leaving satisfied means having seen the condition hold. -/
theorem Moves.satisfied_quiet {quiet : Prop} {waiter : Waiter}
    (moved : Moves quiet waiter (.left true)) : quiet := by
  cases moved with
  | satisfied _ holds => exact holds

/-- A waiter becomes stranded only by looking at a condition that fails, or
was stranded before. -/
theorem Moves.stranded {quiet : Prop} {before after : Waiter} (moved : Moves quiet before after)
    (stranded : after.Stranded) : before.Stranded ∨ ¬ quiet := by
  cases moved with
  | enlist => rcases stranded with impossible | impossible <;> cases impossible
  | satisfied => rcases stranded with impossible | impossible <;> cases impossible
  | decline _ fails => exact Or.inr fails
  | park => exact Or.inl (Or.inl rfl)
  | pass => rcases stranded with impossible | impossible <;> cases impossible
  | resume => rcases stranded with impossible | impossible <;> cases impossible
  | abandon => rcases stranded with impossible | impossible <;> cases impossible

end Waiter

/-- Whoever would sleep through a condition that holds still has a
notification coming. -/
def NoLostWakeup (quiet owed : Prop) (waiters : List Waiter) : Prop :=
  quiet -> (∃ waiter ∈ waiters, waiter.Stranded) -> owed

namespace NoLostWakeup

variable {quiet owed : Prop} {waiters : List Waiter}

/-- A waiter's own move keeps the invariant: the look at the condition is what
makes it safe to park. -/
theorem move (safe : NoLostWakeup quiet owed waiters) {index : Nat} {before after : Waiter}
    (found : waiters[index]? = some before) (moved : Waiter.Moves quiet before after) :
    NoLostWakeup quiet owed (waiters.set index after) := by
  intro holds
  rintro ⟨waiter, member, stranded⟩
  rcases List.mem_or_eq_of_mem_set member with old | new
  · exact safe holds ⟨waiter, old, stranded⟩
  · subst new
    rcases moved.stranded stranded with already | fails
    · exact safe holds ⟨before, List.mem_of_getElem? found, already⟩
    · exact absurd holds fails

/-- A newcomer is not stranded. -/
theorem join (safe : NoLostWakeup quiet owed waiters) :
    NoLostWakeup quiet owed (waiters ++ [.outside]) := by
  intro holds
  rintro ⟨waiter, member, stranded⟩
  rcases List.mem_append.mp member with old | new
  · exact safe holds ⟨waiter, old, stranded⟩
  · cases List.mem_singleton.mp new
    rcases stranded with impossible | impossible <;> cases impossible

/-- The condition may change whenever making it true comes with owing a
notification, and no notification is forgotten by the change. -/
theorem change (safe : NoLostWakeup quiet owed waiters) {quiet' owed' : Prop}
    (accounted : quiet' -> (quiet ∧ (owed -> owed')) ∨ owed') :
    NoLostWakeup quiet' owed' waiters := by
  intro holds stranded
  rcases accounted holds with ⟨before, kept⟩ | due
  · exact kept (safe before stranded)
  · exact due

/-- After a broadcast nobody is stranded, so the debt it settles is settled. -/
theorem broadcast : NoLostWakeup quiet owed (waiters.map Waiter.notify) := by
  intro _
  rintro ⟨waiter, member, stranded⟩
  rcases List.mem_map.mp member with ⟨before, _, rfl⟩
  exact absurd stranded before.notify_not_stranded

end NoLostWakeup
end Foundations
