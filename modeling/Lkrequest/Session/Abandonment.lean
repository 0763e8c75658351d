import Lkrequest.Session.Guarded

namespace Lkrequest
namespace Session

open Foundations

/-!
# What close() does to a guarded request, and what only close() does

A guarded future owns a sender, so the number of senders never drops to zero
while a future waits.  That leaves a true value as the only reason for the
select to end a request that is still running, and nothing but `close` writes
it.  Conversely a true value is never taken back: from the next poll on the
branch of the select that waits for it is ready.
-/

variable {Value : Type}

/-! ## Every sender has an owner -/

/-- The number of senders of a session that a future owns. -/
def Guard.senders (session : SessionId) (guard : Guard Value) : Nat :=
  if guard.session = session ∧ guard.stage.isLive then 1 else 0

theorem Guard.senders_live {guard : Guard Value} (live : guard.stage.isLive = true) :
    guard.senders guard.session = 1 := if_pos ⟨rfl, live⟩

theorem Guard.senders_done {guard : Guard Value} (done : guard.stage.isLive = false)
    (session : SessionId) : guard.senders session = 0 := by
  apply if_neg
  rintro ⟨_, live⟩
  rw [done] at live
  cases live

theorem Guard.senders_other {guard : Guard Value} {session : SessionId}
    (other : guard.session ≠ session) : guard.senders session = 0 :=
  if_neg (fun both => other both.1)

theorem Guard.senders_congr {old new : Guard Value} (same : new.session = old.session)
    (live : new.stage.isLive = old.stage.isLive) (session : SessionId) :
    new.senders session = old.senders session := by
  rw [Guard.senders, Guard.senders, same, live]

theorem GuardStage.Idle.isLive {stage : GuardStage Value} (idle : stage.Idle) :
    stage.isLive = true := by
  rcases idle with rfl | rfl <;> rfl

theorem GuardStage.isLive_next (remaining : List Branch) :
    (GuardStage.next remaining : GuardStage Value).isLive = true := by
  cases remaining <;> rfl

namespace Guards

/-- The senders of a session that sit in guarded futures. -/
def senders (state : Guards Value) (session : SessionId) : Nat :=
  (state.guards.map (Guard.senders session)).sum

theorem senders_setGuard {state : Guards Value} {index : Nat} {old : Guard Value}
    (found : state.guards[index]? = some old) (new : Guard Value) (session : SessionId) :
    (state.setGuard index new).senders session + old.senders session =
      state.senders session + new.senders session :=
  sum_map_set (Guard.senders session) found new

/-- Each sender belongs to a handle or to a future. -/
structure Counted (state : Guards Value) : Prop where
  strong : forall session shared, state.sessions[session]? = some shared ->
    shared.channel.strong = shared.handles + state.senders session
  placed : ∀ guard ∈ state.guards, guard.session < state.sessions.length

/-- A step that rewrites one session keeps the count when it keeps that
session's. -/
theorem Counted.rewrite {state next : Guards Value} (counted : state.Counted)
    {session : SessionId} {new : Shared} (sessions : next.sessions = state.sessions.set session new)
    (elsewhere : forall other, session ≠ other -> next.senders other = state.senders other)
    (here : new.channel.strong = new.handles + next.senders session)
    (placed : ∀ guard ∈ next.guards, guard.session < state.sessions.length) : next.Counted := by
  constructor
  · intro other shared found
    rw [sessions, List.getElem?_set] at found
    split at found
    · rename_i same
      subst same
      split at found
      · cases found
        exact here
      · cases found
    · rename_i different
      rw [elsewhere other different]
      exact counted.strong other shared found
  · intro guard member
    rw [sessions, List.length_set]
    exact placed guard member

/-- Handles come and go with their senders. -/
theorem Counted.setSession {state : Guards Value} (counted : state.Counted)
    {session : SessionId} {old new : Shared} (found : state.sessions[session]? = some old)
    (balanced : new.channel.strong + old.handles = old.channel.strong + new.handles) :
    (state.setSession session new).Counted := by
  refine counted.rewrite rfl (fun _ _ => rfl) ?_ counted.placed
  have before := counted.strong session old found
  change new.channel.strong = new.handles + state.senders session
  omega

/-- A future goes from one live stage to another. -/
theorem Counted.setGuard {state : Guards Value} (counted : state.Counted) {index : Nat}
    {old : Guard Value} (found : state.guards[index]? = some old) {stage : GuardStage Value}
    (live : stage.isLive = old.stage.isLive) :
    (state.setGuard index { old with stage := stage }).Counted := by
  have kept : forall session, (state.setGuard index { old with stage := stage }).senders session =
      state.senders session := by
    intro session
    have moved := senders_setGuard found { old with stage := stage } session
    rw [@Guard.senders_congr Value old { old with stage := stage } rfl live] at moved
    exact Nat.add_right_cancel moved
  constructor
  · intro session shared at'
    rw [kept session]
    exact counted.strong session shared at'
  · intro guard member
    rcases List.mem_or_eq_of_mem_set member with present | rfl
    · exact counted.placed guard present
    · exact counted.placed old (List.mem_of_getElem? found)

/-- A future ends and takes its sender with it. -/
theorem Counted.finish {state : Guards Value} (counted : state.Counted) {index : Nat}
    {guard : Guard Value} {shared : Shared} (found : state.guards[index]? = some guard)
    (foundSession : state.sessions[guard.session]? = some shared)
    (live : guard.stage.isLive = true) {stage : GuardStage Value} (done : stage.isLive = false) :
    (state.finish index guard shared stage).Counted := by
  have moved := senders_setGuard found { guard with stage := stage }
  refine counted.rewrite rfl ?_ ?_ ?_
  · intro other different
    have same := moved other
    rw [Guard.senders_other different, Guard.senders_done done] at same
    exact same
  · have one := moved guard.session
    have before := counted.strong guard.session shared foundSession
    rw [Guard.senders_live live, Guard.senders_done done] at one
    change shared.channel.strong - 1 =
      shared.handles + (state.setGuard index { guard with stage := stage }).senders guard.session
    omega
  · intro each member
    rcases List.mem_or_eq_of_mem_set member with present | rfl
    · exact counted.placed each present
    · exact counted.placed guard (List.mem_of_getElem? found)

theorem Counted.step {state next : Guards Value} {event : GuardEvent Value}
    (counted : state.Counted) (stepped : guardStep state event = some next) : next.Counted := by
  cases guardStep_steps stepped with
  | session =>
      constructor
      · intro session shared found
        rcases Nat.lt_or_ge session state.sessions.length with old | new
        · rw [List.getElem?_append_left old] at found
          exact counted.strong session shared found
        · have none : state.senders session = 0 := by
            apply List.sum_eq_zero
            intro share member
            rcases List.mem_map.mp member with ⟨guard, present, rfl⟩
            exact Guard.senders_other (Nat.ne_of_lt (lt_of_lt_of_le (counted.placed guard present) new))
          rw [List.getElem?_append_right new] at found
          have first : session - state.sessions.length = 0 := by
            have inside := (List.getElem?_eq_some_iff.mp found).1
            exact Nat.lt_one_iff.mp inside
          rw [first] at found
          cases found
          change 1 = 1 + state.senders session
          rw [none]
      · intro guard member
        rw [List.length_append]
        exact Nat.lt_add_right _ (counted.placed guard member)
  | cloneHandle session shared found alive =>
      apply counted.setSession found
      simp only [Channel.clone]
      omega
  | dropHandle session shared found alive =>
      apply counted.setSession found
      have before := counted.strong session shared found
      simp only [Channel.drop]
      omega
  | ensureOpen session => exact counted
  | closing session shared found alive =>
      have before := counted.strong session shared found
      have inside := (List.getElem?_eq_some_iff.mp found).1
      refine counted.rewrite rfl ?_ ?_ ?_
      · intro other different
        have none : (⟨session, .captured⟩ : Guard Value).senders other = 0 :=
          Guard.senders_other different
        simp only [senders, List.map_append, List.map_cons, List.map_nil, List.sum_append,
          List.sum_singleton, none, Nat.add_zero]
      · have one : (⟨session, .captured⟩ : Guard Value).senders session = 1 := Guard.senders_live rfl
        simp only [senders, List.map_append, List.map_cons, List.map_nil, List.sum_append,
          List.sum_singleton, one, Channel.clone] at before ⊢
        omega
      · intro guard member
        rcases List.mem_append.mp member with present | new
        · exact counted.placed guard present
        · cases List.mem_singleton.mp new
          exact inside
  | poll index order guard found idle => exact counted.setGuard found idle.isLive.symm
  | workReady index result guard shared remaining found foundSession stage =>
      exact counted.finish found foundSession (by rw [stage]; rfl) rfl
  | workPending index guard remaining found stage =>
      apply counted.setGuard found
      rw [stage]
      exact GuardStage.isLive_next remaining
  | closedReady index guard shared remaining found foundSession stage ready =>
      exact counted.finish found foundSession (by rw [stage]; rfl) rfl
  | closedPending index guard shared remaining found foundSession stage waiting =>
      apply counted.setGuard found
      rw [stage]
      exact GuardStage.isLive_next remaining
  | drop index guard shared found foundSession idle =>
      exact counted.finish found foundSession idle.isLive rfl
  | close session shared found alive => exact counted.setSession found rfl

theorem Counted.initial : (initial : Guards Value).Counted := by
  constructor
  · intro session shared found
    simp [Guards.initial] at found
  · intro guard member
    cases member

theorem Counted.run {events : List (GuardEvent Value)} {state : Guards Value}
    (ran : (guardMachine Value).run .initial events = some state) : state.Counted :=
  (guardMachine Value).run_invariant Counted (fun _ _ _ counted stepped => counted.step stepped)
    Counted.initial ran

/-- The senders of a session whose request is waiting are not all gone. -/
theorem Counted.sender {state : Guards Value} (counted : state.Counted) {index : Nat}
    {guard : Guard Value} {shared : Shared} (found : state.guards[index]? = some guard)
    (foundSession : state.sessions[guard.session]? = some shared)
    (live : guard.stage.isLive = true) : shared.channel.strong ≠ 0 := by
  have moved := senders_setGuard found { guard with stage := .dropped } guard.session
  rw [Guard.senders_live live, Guard.senders_done rfl] at moved
  rw [counted.strong guard.session shared foundSession]
  omega

/-! ## Only close() writes true -/

/-- The session's channel holds true. -/
def IsClosed (state : Guards Value) (session : SessionId) : Prop :=
  ∃ shared, state.sessions[session]? = some shared ∧ shared.channel.value = true

theorem isClosed_rewrite {state next : Guards Value} {session other : SessionId} {old new : Shared}
    (found : state.sessions[session]? = some old) (sessions : next.sessions = state.sessions.set session new)
    (same : new.channel.value = old.channel.value) : next.IsClosed other <-> state.IsClosed other := by
  unfold IsClosed
  rw [sessions, List.getElem?_set]
  split
  · rename_i here
    subst here
    rw [if_pos (List.getElem?_eq_some_iff.mp found).1]
    simp only [found, Option.some.injEq, exists_eq_left', same]
  · rfl

/-- A session is closed by the calls of `close` on it and by nothing else. -/
theorem isClosed_step {state next : Guards Value} {event : GuardEvent Value}
    (stepped : guardStep state event = some next) (session : SessionId) :
    next.IsClosed session <-> state.IsClosed session ∨ event = .close session := by
  cases guardStep_steps stepped with
  | session =>
      have same : ({ state with sessions := state.sessions ++ [⟨.fresh, 1⟩] } : Guards Value).IsClosed
          session <-> state.IsClosed session := by
        unfold IsClosed
        rw [List.getElem?_append]
        split
        · rfl
        · rename_i outside
          rw [List.getElem?_eq_none (Nat.le_of_not_lt outside)]
          rw [List.getElem?_singleton]
          split
          · simp [Channel.fresh]
          · rfl
      simp only [same, reduceCtorEq, or_false]
  | cloneHandle changed shared found alive =>
      simp only [reduceCtorEq, or_false]
      exact isClosed_rewrite found rfl rfl
  | dropHandle changed shared found alive =>
      simp only [reduceCtorEq, or_false]
      exact isClosed_rewrite found rfl rfl
  | ensureOpen changed => simp only [reduceCtorEq, or_false]
  | closing changed shared found alive =>
      simp only [reduceCtorEq, or_false]
      exact isClosed_rewrite found rfl rfl
  | poll index order guard found idle =>
      simp only [reduceCtorEq, or_false]
      rfl
  | workReady index result guard shared remaining found foundSession stage =>
      simp only [reduceCtorEq, or_false]
      exact isClosed_rewrite foundSession rfl rfl
  | workPending index guard remaining found stage =>
      simp only [reduceCtorEq, or_false]
      rfl
  | closedReady index guard shared remaining found foundSession stage ready =>
      simp only [reduceCtorEq, or_false]
      exact isClosed_rewrite foundSession rfl rfl
  | closedPending index guard shared remaining found foundSession stage waiting =>
      simp only [reduceCtorEq, or_false]
      rfl
  | drop index guard shared found foundSession idle =>
      simp only [reduceCtorEq, or_false]
      exact isClosed_rewrite foundSession rfl rfl
  | close closed shared found alive =>
      have inside := (List.getElem?_eq_some_iff.mp found).1
      unfold IsClosed Guards.setSession
      rw [List.getElem?_set]
      split
      · rename_i here
        subst here
        simp [inside, Channel.sendReplace]
      · rename_i elsewhere
        have apart : ¬ (.close closed : GuardEvent Value) = .close session :=
          fun same => elsewhere (GuardEvent.close.inj same)
        simp only [apart, or_false]

theorem isClosed_run {state final : Guards Value} {events : List (GuardEvent Value)}
    (ran : (guardMachine Value).run state events = some final) (session : SessionId) :
    final.IsClosed session <-> state.IsClosed session ∨ .close session ∈ events := by
  induction events generalizing state with
  | nil =>
      cases ran
      simp only [List.not_mem_nil, or_false]
  | cons event rest ih =>
      rcases ((guardMachine Value).run_cons).mp ran with ⟨next, stepped, remaining⟩
      rw [ih remaining, isClosed_step stepped session, List.mem_cons, or_assoc, eq_comm]

theorem not_isClosed_initial (session : SessionId) : ¬ (initial : Guards Value).IsClosed session := by
  rintro ⟨shared, found, _⟩
  simp [Guards.initial] at found

/-! ## The events of one future -/

/-- What an event does to the future at an index. -/
inductive Moves (state : Guards Value) (index : Nat) (old : Guard Value) :
    GuardEvent Value -> GuardStage Value -> Prop
  | poll (order : Order) (idle : old.stage.Idle) :
      Moves state index old (.poll index order) (.polling order.branches)
  | workReady (result : Except PyErr Value) (remaining : List Branch)
      (stage : old.stage = .polling (.work :: remaining)) :
      Moves state index old (.pollWork index (some result)) (.resolved .work result)
  | workPending (remaining : List Branch) (stage : old.stage = .polling (.work :: remaining)) :
      Moves state index old (.pollWork index none) (.next remaining)
  | closedReady (shared : Shared) (remaining : List Branch)
      (foundSession : state.sessions[old.session]? = some shared)
      (stage : old.stage = .polling (.closed :: remaining))
      (ready : shared.channel.waitedFor = true) :
      Moves state index old (.pollClosed index) (.resolved .closed (.error closedInFlight))
  | closedPending (shared : Shared) (remaining : List Branch)
      (foundSession : state.sessions[old.session]? = some shared)
      (stage : old.stage = .polling (.closed :: remaining))
      (waiting : ¬ shared.channel.waitedFor = true) :
      Moves state index old (.pollClosed index) (.next remaining)
  | drop (idle : old.stage.Idle) : Moves state index old (.drop index) .dropped

theorem getElem?_setGuard {state : Guards Value} {index other : Nat} {new guard : Guard Value}
    (found : (state.setGuard index new).guards[other]? = some guard) :
    state.guards[other]? = some guard ∨ (index = other ∧ guard = new) := by
  have looked : (state.guards.set index new)[other]? = some guard := found
  rw [List.getElem?_set] at looked
  split at looked
  · rename_i here
    split at looked
    · exact Or.inr ⟨here, (Option.some.inj looked).symm⟩
    · cases looked
  · exact Or.inl looked

/-- After a step a future is where it was, has just been made, or has moved. -/
theorem guard_step {state next : Guards Value} {event : GuardEvent Value} {index : Nat}
    {guard : Guard Value} (stepped : guardStep state event = some next)
    (found : next.guards[index]? = some guard) :
    state.guards[index]? = some guard ∨
      (state.guards[index]? = none ∧ guard.stage = .captured ∧ ∃ session, event = .closing session) ∨
      ∃ old, state.guards[index]? = some old ∧ guard.session = old.session ∧
        Moves state index old event guard.stage := by
  cases guardStep_steps stepped with
  | session => exact Or.inl found
  | cloneHandle session shared _ alive => exact Or.inl found
  | dropHandle session shared _ alive => exact Or.inl found
  | ensureOpen session => exact Or.inl found
  | closing session shared _ alive =>
      rcases Nat.lt_or_ge index state.guards.length with present | new
      · exact Or.inl (List.getElem?_append_left present ▸ found)
      · right
        left
        refine ⟨List.getElem?_eq_none new, ?_, session, rfl⟩
        have looked : (state.guards ++ [⟨session, .captured⟩])[index]? = some guard := found
        rw [List.getElem?_append_right new] at looked
        have member := List.mem_of_getElem? looked
        rw [List.mem_singleton.mp member]
  | poll moved order old foundOld idle =>
      rcases getElem?_setGuard found with same | ⟨rfl, rfl⟩
      · exact Or.inl same
      · exact Or.inr (Or.inr ⟨old, foundOld, rfl, .poll order idle⟩)
  | workReady moved result old shared remaining foundOld foundSession stage =>
      rcases getElem?_setGuard found with same | ⟨rfl, rfl⟩
      · exact Or.inl same
      · exact Or.inr (Or.inr ⟨old, foundOld, rfl, .workReady result remaining stage⟩)
  | workPending moved old remaining foundOld stage =>
      rcases getElem?_setGuard found with same | ⟨rfl, rfl⟩
      · exact Or.inl same
      · exact Or.inr (Or.inr ⟨old, foundOld, rfl, .workPending remaining stage⟩)
  | closedReady moved old shared remaining foundOld foundSession stage ready =>
      rcases getElem?_setGuard found with same | ⟨rfl, rfl⟩
      · exact Or.inl same
      · exact Or.inr (Or.inr ⟨old, foundOld, rfl, .closedReady shared remaining foundSession stage ready⟩)
  | closedPending moved old shared remaining foundOld foundSession stage waiting =>
      rcases getElem?_setGuard found with same | ⟨rfl, rfl⟩
      · exact Or.inl same
      · exact Or.inr (Or.inr
          ⟨old, foundOld, rfl, .closedPending shared remaining foundSession stage waiting⟩)
  | drop moved old shared foundOld foundSession idle =>
      rcases getElem?_setGuard found with same | ⟨rfl, rfl⟩
      · exact Or.inl same
      · exact Or.inr (Or.inr ⟨old, foundOld, rfl, .drop idle⟩)
  | close session shared _ alive => exact Or.inl found

theorem length_step {state next : Guards Value} {event : GuardEvent Value}
    (stepped : guardStep state event = some next) : state.guards.length ≤ next.guards.length := by
  cases guardStep_steps stepped with
  | closing session shared _ alive =>
      simp only [List.length_append]
      exact Nat.le_add_right _ _
  | session => exact le_rfl
  | cloneHandle => exact le_rfl
  | dropHandle => exact le_rfl
  | ensureOpen => exact le_rfl
  | poll | workReady | workPending | closedReady | closedPending | drop =>
      simp only [setGuard, finish, setSession, List.length_set, le_refl]
  | close => exact le_rfl

/-- Only `Closing::guard` makes a future. -/
theorem length_kept {state next : Guards Value} {event : GuardEvent Value}
    (stepped : guardStep state event = some next) (notClosing : forall session, event ≠ .closing session) :
    next.guards.length = state.guards.length := by
  cases guardStep_steps stepped with
  | closing session shared _ alive => exact absurd rfl (notClosing session)
  | session => rfl
  | cloneHandle => rfl
  | dropHandle => rfl
  | ensureOpen => rfl
  | poll | workReady | workPending | closedReady | closedPending | drop =>
      simp only [setGuard, finish, setSession, List.length_set]
  | close => rfl

/-- Forwards: a future stays in its place, in its session, and moves or not. -/
theorem guard_kept {state next : Guards Value} {event : GuardEvent Value} {index : Nat}
    {old : Guard Value} (stepped : guardStep state event = some next)
    (found : state.guards[index]? = some old) :
    ∃ guard, next.guards[index]? = some guard ∧ guard.session = old.session ∧
      (guard.stage = old.stage ∨ Moves state index old event guard.stage) := by
  have inside := lt_of_lt_of_le (List.getElem?_eq_some_iff.mp found).1 (length_step stepped)
  have present := List.getElem?_eq_getElem inside
  refine ⟨_, present, ?_⟩
  rcases guard_step stepped present with same | ⟨absent, _⟩ | ⟨before, foundOld, session, moved⟩
  · rw [Option.some.inj (found.symm.trans same)]
    exact ⟨rfl, Or.inl rfl⟩
  · rw [found] at absent
    cases absent
  · cases found.symm.trans foundOld
    exact ⟨session, Or.inr moved⟩

theorem closing_guards {state next : Guards Value} {session : SessionId}
    (stepped : guardStep state (.closing session) = some next) :
    next.guards = state.guards ++ [⟨session, .captured⟩] := by
  cases guardStep_steps stepped with
  | closing => rfl

/-- Where the poll of the work leaves the future. -/
def GuardStage.afterWork (rest : List Branch) : Option (Except PyErr Value) -> GuardStage Value
  | some result => .resolved .work result
  | none => .next rest

theorem pollWork_stage {state next : Guards Value} {index : Nat} {old guard : Guard Value}
    {rest : List Branch} {outcome : Option (Except PyErr Value)}
    (stepped : guardStep state (.pollWork index outcome) = some next)
    (foundOld : state.guards[index]? = some old) (stage : old.stage = .polling (.work :: rest))
    (found : next.guards[index]? = some guard) : guard.stage = GuardStage.afterWork rest outcome := by
  have inside := (List.getElem?_eq_some_iff.mp foundOld).1
  cases guardStep_steps stepped with
  | workReady _ result same shared remaining foundSame foundSession stageSame =>
      have placed : (state.guards.set index { same with stage := .resolved .work result })[index]? =
          some guard := found
      rw [List.getElem?_set_self inside] at placed
      cases placed
      rfl
  | workPending _ same remaining foundSame stageSame =>
      cases foundOld.symm.trans foundSame
      cases stage.symm.trans stageSame
      have placed : (state.guards.set index { old with stage := .next rest })[index]? = some guard :=
        found
      rw [List.getElem?_set_self inside] at placed
      cases placed
      rfl

/-- Nobody else's future moves. -/
theorem pollWork_other {state next : Guards Value} {index other : Nat} {guard : Guard Value}
    {outcome : Option (Except PyErr Value)}
    (stepped : guardStep state (.pollWork index outcome) = some next) (different : other ≠ index)
    (found : next.guards[other]? = some guard) : state.guards[other]? = some guard := by
  rcases guard_step stepped found with same | ⟨_, _, session, closing⟩ | ⟨old, _, _, moved⟩
  · exact same
  · cases closing
  · generalize guard.stage = stage at moved
    cases moved with
    | workReady => exact absurd rfl different
    | workPending => exact absurd rfl different

/-! ## How a future comes to its result -/

theorem Moves.resolved {state : Guards Value} {index : Nat} {old : Guard Value}
    {event : GuardEvent Value} {stage : GuardStage Value} {branch : Branch}
    {result : Except PyErr Value} (counted : state.Counted)
    (found : state.guards[index]? = some old) (moved : Moves state index old event stage)
    (resolved : stage = .resolved branch result) :
    (branch = .work ∧ event = .pollWork index (some result)) ∨
      (branch = .closed ∧ result = .error closedInFlight ∧ state.IsClosed old.session) := by
  cases moved with
  | poll order idle => cases resolved
  | workReady returned remaining stage =>
      cases resolved
      exact Or.inl ⟨rfl, rfl⟩
  | workPending remaining stage => cases remaining <;> cases resolved
  | closedReady shared remaining foundSession stage ready =>
      cases resolved
      right
      refine ⟨rfl, rfl, shared, foundSession, ?_⟩
      have senders := counted.sender found foundSession (by rw [stage]; rfl)
      simp only [Channel.waitedFor, Bool.or_eq_true, beq_iff_eq, senders, or_false] at ready
      exact ready
  | closedPending shared remaining foundSession stage waiting => cases remaining <;> cases resolved
  | drop idle => cases resolved

/-- A future that resolved during a run did so with what its work returned, or
because its session is closed. -/
theorem resolved_run {start state : Guards Value} {events : List (GuardEvent Value)} {index : Nat}
    {guard : Guard Value} {branch : Branch} {result : Except PyErr Value} (counted : start.Counted)
    (ran : (guardMachine Value).run start events = some state)
    (before : start.guards[index]? ≠ some guard) (found : state.guards[index]? = some guard)
    (resolved : guard.stage = .resolved branch result) :
    (branch = .work ∧ .pollWork index (some result) ∈ events) ∨
      (branch = .closed ∧ result = .error closedInFlight ∧ state.IsClosed guard.session) := by
  rcases (guardMachine Value).run_turning_point (fun each => each.guards[index]? = some guard)
      before found ran with ⟨early, event, late, middle, next, split, ranEarly, stepped, not, now, ranLate⟩
  have countedMiddle := (guardMachine Value).run_invariant Counted
    (fun _ _ _ kept taken => kept.step taken) counted ranEarly
  rcases guard_step stepped now with same | ⟨_, fresh, _⟩ | ⟨old, foundOld, session, moved⟩
  · exact absurd same not
  · rw [fresh] at resolved
    cases resolved
  · rcases moved.resolved countedMiddle foundOld resolved with ⟨work, rfl⟩ | ⟨closed, error, isClosed⟩
    · left
      rw [split]
      exact ⟨work, by simp⟩
    · right
      refine ⟨closed, error, ?_⟩
      rw [session, isClosed_run ranLate]
      exact Or.inl ((isClosed_step stepped _).mpr (Or.inl isClosed))

/-- The future is done, or it is being polled and has yet to look at the
channel. -/
def Answering (state : Guards Value) (index : Nat) (session : SessionId) : Prop :=
  ∃ guard, state.guards[index]? = some guard ∧ guard.session = session ∧
    ((∃ branch result, guard.stage = .resolved branch result) ∨
      ∃ remaining, guard.stage = .polling remaining ∧ .closed ∈ remaining)

theorem Answering.not_idle {state : Guards Value} {index : Nat} {session : SessionId}
    (answering : state.Answering index session) {guard : Guard Value}
    (found : state.guards[index]? = some guard) : ¬ guard.stage.Idle := by
  rcases answering with ⟨same, foundSame, _, shape⟩
  cases found.symm.trans foundSame
  rintro (idle | idle)
  · rcases shape with ⟨branch, result, done⟩ | ⟨remaining, polled, _⟩
    · cases idle.symm.trans done
    · cases idle.symm.trans polled
  · rcases shape with ⟨branch, result, done⟩ | ⟨remaining, polled, _⟩
    · cases idle.symm.trans done
    · cases idle.symm.trans polled

/-- On a closed session the poll does not end without a result. -/
theorem Answering.step {state next : Guards Value} {event : GuardEvent Value} {index : Nat}
    {session : SessionId} (closed : state.IsClosed session)
    (answering : state.Answering index session) (stepped : guardStep state event = some next) :
    next.Answering index session := by
  rcases answering with ⟨old, found, here, shape⟩
  rcases guard_kept stepped found with ⟨guard, present, same, stays | moved⟩
  · exact ⟨guard, present, same.trans here, stays ▸ shape⟩
  · refine ⟨guard, present, same.trans here, ?_⟩
    generalize guard.stage = stage at moved
    cases moved with
    | poll order idle =>
        exact absurd idle (Answering.not_idle ⟨old, found, here, shape⟩ found)
    | workReady result remaining stage => exact Or.inl ⟨_, _, rfl⟩
    | workPending remaining stage =>
        rcases shape with ⟨branch, result, done⟩ | ⟨still, polled, waits⟩
        · cases stage.symm.trans done
        · cases stage.symm.trans polled
          have later : Branch.closed ∈ remaining := by simpa using waits
          cases remaining with
          | nil => cases later
          | cons branch rest => exact Or.inr ⟨branch :: rest, rfl, later⟩
    | closedReady shared remaining foundSession stage ready => exact Or.inl ⟨_, _, rfl⟩
    | closedPending shared remaining foundSession stage waiting =>
        rcases closed with ⟨same, foundSame, value⟩
        rw [here] at foundSession
        cases foundSession.symm.trans foundSame
        simp [Channel.waitedFor, value] at waiting
    | drop idle => exact absurd idle (Answering.not_idle ⟨old, found, here, shape⟩ found)

/-- And the poll is not stuck: it can always take its next step. -/
theorem Answering.continues {state : Guards Value} {index : Nat} {guard : Guard Value}
    {remaining : List Branch} (counted : state.Counted) (found : state.guards[index]? = some guard)
    (polled : guard.stage = .polling remaining) (waits : .closed ∈ remaining)
    (result : Option (Except PyErr Value)) :
    (guardStep state (.pollWork index result)).isSome ∨ (guardStep state (.pollClosed index)).isSome := by
  have inside := counted.placed guard (List.mem_of_getElem? found)
  have present := List.getElem?_eq_getElem inside
  cases remaining with
  | nil => cases waits
  | cons branch rest =>
      cases branch with
      | work =>
          left
          cases result <;> simp [guardStep, found, present, polled]
      | closed =>
          right
          simp only [guardStep, found, present, polled, Option.bind_eq_bind, Option.bind_some]
          split <;> rfl

theorem answering_run {start state : Guards Value} {events : List (GuardEvent Value)} {index : Nat}
    {session : SessionId} (closed : start.IsClosed session) (answering : start.Answering index session)
    (ran : (guardMachine Value).run start events = some state) : state.Answering index session := by
  have both := (guardMachine Value).run_invariant
    (fun each => each.IsClosed session ∧ each.Answering index session)
    (fun each event next holds stepped =>
      ⟨(isClosed_step stepped session).mpr (Or.inl holds.1), holds.2.step holds.1 stepped⟩)
    ⟨closed, answering⟩ ran
  exact both.2

/-- A poll begins with both branches to come. -/
theorem answering_poll {state next : Guards Value} {index : Nat} {order : Order}
    (stepped : guardStep state (.poll index order) = some next) :
    ∃ guard, next.guards[index]? = some guard ∧ guard.stage = .polling order.branches ∧
      next.Answering index guard.session := by
  cases guardStep_steps stepped with
  | poll _ _ old found idle =>
      have inside := (List.getElem?_eq_some_iff.mp found).1
      have present : (state.setGuard index { old with stage := .polling order.branches }).guards[index]? =
          some { old with stage := .polling order.branches } := List.getElem?_set_self inside
      have waits : Branch.closed ∈ order.branches := by cases order <;> decide
      exact ⟨_, present, rfl, _, present, rfl, Or.inr ⟨_, rfl, waits⟩⟩

theorem session_run {start state : Guards Value} {events : List (GuardEvent Value)} {index : Nat}
    {old guard : Guard Value} (ran : (guardMachine Value).run start events = some state)
    (before : start.guards[index]? = some old) (found : state.guards[index]? = some guard) :
    guard.session = old.session := by
  have kept := (guardMachine Value).run_invariant
    (fun each => ∃ present, each.guards[index]? = some present ∧ present.session = old.session)
    (fun each event next holds stepped => by
      rcases holds with ⟨present, at', same⟩
      rcases guard_kept stepped at' with ⟨after, foundAfter, stays, _⟩
      exact ⟨after, foundAfter, stays.trans same⟩)
    ⟨old, before, rfl⟩ ran
  rcases kept with ⟨present, at', same⟩
  cases found.symm.trans at'
  exact same

end Guards

/-! ## The contract -/

open Guards

/-- For every future that `closing()` made, in every state of every run: a
poll that started after `close` on its session ends with a result, so there is
no second one, and the result is the work's own or the error; the error comes
from a `close` on its session or from the work itself; and without such a
`close` any result is the work's own. -/
theorem close_abandons_guarded_requests {events : List (GuardEvent Value)} {state : Guards Value}
    {index : Nat} {guard : Guard Value}
    (ran : (guardMachine Value).run .initial events = some state)
    (found : state.guards[index]? = some guard) :
    (forall early order late, events = early ++ .poll index order :: late ->
      .close guard.session ∈ early ->
        (forall again, .poll index again ∉ late) ∧
        ((∃ result, guard.stage = .resolved .work result ∧ .pollWork index (some result) ∈ late) ∨
          guard.stage = .resolved .closed (.error closedInFlight) ∨
          (∃ remaining, guard.stage = .polling remaining ∧ .closed ∈ remaining ∧
            forall result, (guardStep state (.pollWork index result)).isSome ∨
              (guardStep state (.pollClosed index)).isSome))) ∧
    (forall branch, guard.stage = .resolved branch (.error closedInFlight) ->
      .close guard.session ∈ events ∨ .pollWork index (some (.error closedInFlight)) ∈ events) ∧
    (.close guard.session ∉ events -> forall branch result, guard.stage = .resolved branch result ->
      branch = .work ∧ .pollWork index (some result) ∈ events) := by
  have result := fun branch value (resolved : guard.stage = .resolved branch value) =>
    @resolved_run Value .initial state events index guard branch value Counted.initial ran
      (by simp [Guards.initial]) found resolved
  have closedByCall : state.IsClosed guard.session -> .close guard.session ∈ events :=
    fun closed => ((isClosed_run ran guard.session).mp closed).resolve_left (not_isClosed_initial _)
  refine ⟨?_, ?_, ?_⟩
  · intro early order late split closes
    rw [split] at ran
    rcases ((guardMachine Value).run_append_cons).mp ran with ⟨middle, polled, ranEarly, stepped, ranLate⟩
    change guardStep middle (.poll index order) = some polled at stepped
    rcases answering_poll stepped with ⟨start, foundStart, stageStart, answering⟩
    have same := session_run ranLate foundStart found
    have closedPolled : polled.IsClosed start.session :=
      (isClosed_step stepped _).mpr (Or.inl ((isClosed_run ranEarly _).mpr (Or.inr (same ▸ closes))))
    refine ⟨?_, ?_⟩
    · intro again member
      rcases (guardMachine Value).run_of_mem member ranLate with
        ⟨_, _, busy, next, _, ranBusy, steppedAgain, _⟩
      change guardStep busy (.poll index again) = some next at steppedAgain
      have still := answering_run closedPolled answering ranBusy
      cases guardStep_steps steppedAgain with
      | poll _ _ old foundOld idle => exact still.not_idle foundOld idle
    · have counted := Counted.run ran
      have countedPolled := (Counted.run ranEarly).step stepped
      rcases answering_run closedPolled answering ranLate with ⟨last, foundLast, _, shape⟩
      cases found.symm.trans foundLast
      rcases shape with ⟨branch, value, resolved⟩ | ⟨remaining, polling, waits⟩
      · have fresh : polled.guards[index]? ≠ some guard := by
          intro present
          cases foundStart.symm.trans present
          cases stageStart.symm.trans resolved
        rcases resolved_run countedPolled ranLate fresh found resolved with
          ⟨rfl, member⟩ | ⟨rfl, rfl, _⟩
        · exact Or.inl ⟨value, resolved, member⟩
        · exact Or.inr (Or.inl resolved)
      · exact Or.inr (Or.inr ⟨remaining, polling, waits, Answering.continues counted found polling waits⟩)
  · intro branch resolved
    rcases result branch _ resolved with ⟨_, member⟩ | ⟨_, _, closed⟩
    · exact Or.inr member
    · exact Or.inl (closedByCall closed)
  · intro notClosed branch value resolved
    rcases result branch value resolved with work | ⟨_, _, closed⟩
    · exact work
    · exact absurd (closedByCall closed) notClosed

/-- A close between `closing()` and the first poll, and all handles dropped:
the first poll answers. -/
theorem close_abandons_guarded_requests_before_first_poll :
    ∃ (state : Guards Unit) (guard : Guard Unit),
      (guardMachine Unit).run .initial
        [.session, .closing 0, .close 0, .dropHandle 0, .poll 0 .workFirst, .pollWork 0 none,
          .pollClosed 0] = some state ∧
      state.guards[0]? = some guard ∧ guard.stage = .resolved .closed (.error closedInFlight) ∧
      (forall again, .poll 0 again ∉ ([.pollWork 0 none, .pollClosed 0] : List (GuardEvent Unit))) ∧
      .close 0 ∈ ([.session, .closing 0, .close 0, .dropHandle 0, .poll 0 .workFirst, .pollWork 0 none,
          .pollClosed 0] : List (GuardEvent Unit)) := by
  have contract := @close_abandons_guarded_requests Unit
    [.session, .closing 0, .close 0, .dropHandle 0, .poll 0 .workFirst, .pollWork 0 none,
      .pollClosed 0]
    ⟨[⟨⟨true, 0⟩, 0⟩], [⟨0, .resolved .closed (.error closedInFlight)⟩]⟩ 0
    ⟨0, .resolved .closed (.error closedInFlight)⟩ rfl rfl
  refine ⟨_, _, rfl, rfl, rfl, ?_, ?_⟩
  · exact (contract.1 [.session, .closing 0, .close 0, .dropHandle 0] .workFirst
      [.pollWork 0 none, .pollClosed 0] rfl (by simp)).1
  · exact (contract.2.1 .closed rfl).resolve_right (by simp)

end Session
end Lkrequest
