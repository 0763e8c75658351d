import Lkrequest.Pool.Leases
import Lkrequest.Session.Frames

namespace Lkrequest
namespace Pool

open Foundations
open Session (World StateId sessionClosed)

/-!
# Who may use a leased session

Leases are exclusive among guards, and only a guard with a lease gives out
handles.  What a handle can do later does not depend on its guard any more.
-/

namespace State

/-! ## What a step does -/

/-- What an operation does while it has the lock of a guard. -/
inductive Locks (state : State) (id : GuardId) (guard : SessionGuard) : GuardOp -> State -> Prop
  | refused {op : GuardOp} (reads : op.Reads) (lease : guard.lease = none) :
      Locks state id guard op { state with raised := state.raised ++ [(id, op, alreadyReleased)] }
  | given {op : GuardOp} {rust : RustId} {world : World} (reads : op.Reads)
      (lease : guard.lease = some rust)
      (made : Session.step state.world (.session [] none none) = some world) :
      Locks state id guard op { state with
        world := world
        handles := state.handles ++ [⟨rust, id, state.world.created⟩] }
  | exit : Locks state id guard .exit (state.release id guard)
  | acquireFresh : Locks state id guard .acquireFresh ((state.markBad guard).release id guard)
  | markBad : Locks state id guard .markBad (state.markBad guard)

theorem locked_locks {state next : State} {id : GuardId} {guard : SessionGuard} {op : GuardOp}
    (stepped : state.locked id guard op = some next) : Locks state id guard op next := by
  have looked (reads : op.Reads) : Locks state id guard op next := by
    cases lease : guard.lease with
    | none =>
        have refused : state.locked id guard op =
            some { state with raised := state.raised ++ [(id, op, alreadyReleased)] } := by
          rcases reads with rfl | rfl
          · simp only [State.locked, lease]
          · simp only [State.locked, lease]
        rw [← Option.some.inj (refused.symm.trans stepped)]
        exact .refused reads lease
    | some rust =>
        have gives : state.locked id guard op = state.give id rust := by
          rcases reads with rfl | rfl
          · simp only [State.locked, lease]
          · simp only [State.locked, lease]
        rw [gives] at stepped
        simp only [State.give, Option.bind_eq_bind, Option.bind_eq_some_iff] at stepped
        rcases stepped with ⟨world, made, same⟩
        cases same
        exact .given reads lease made
  cases op with
  | session => exact looked (Or.inl rfl)
  | enter => exact looked (Or.inr rfl)
  | exit =>
      cases stepped
      exact .exit
  | acquireFresh =>
      cases stepped
      exact .acquireFresh
  | markBad =>
      cases stepped
      exact .markBad

/-- What a step does, and what it needs. -/
inductive Steps (state : State) : Event -> State -> Prop
  | acquire {rust : RustId} (free : rust ∉ state.leased) :
      Steps state (.acquire rust) { state with
        leased := rust ::ₘ state.leased
        guards := state.guards ++ [⟨some rust, true, 1⟩] }
  | submit {id : GuardId} {op : GuardOp} {guard : SessionGuard}
      (found : state.guards[id]? = some guard) (alive : guard.object = true) :
      Steps state (.submit id op) { state.setGuard id { guard with refs := guard.refs + 1 } with
        futures := state.futures ++ [⟨id, op, true⟩] }
  | run {index : Nat} {future : GuardFuture} {guard : SessionGuard} {middle next : State}
      (queued : state.futures[index]? = some future)
      (found : state.guards[future.guard]? = some guard) (live : future.live = true)
      (locked : state.locked future.guard guard future.op = some middle)
      (ended : middle.endFuture index future = some next) : Steps state (.run index) next
  | dropFuture {index : Nat} {future : GuardFuture} {next : State}
      (queued : state.futures[index]? = some future) (live : future.live = true)
      (ended : state.endFuture index future = some next) : Steps state (.dropFuture index) next
  | dropGuard {id : GuardId} {guard : SessionGuard} (found : state.guards[id]? = some guard)
      (alive : guard.object = true) :
      Steps state (.dropGuard id) (state.dropRef id { guard with object := false })
  | blocking {id : GuardId} {op : GuardOp} {guard : SessionGuard} {next : State}
      (found : state.guards[id]? = some guard) (alive : guard.object = true)
      (locked : state.locked id guard op = some next) : Steps state (.blocking id op) next
  | session {event : Session.Event} {world : World}
      (taken : Session.step state.world event = some world) :
      Steps state (.session event) { state with world := world }

theorem step_steps {state next : State} {event : Event} (stepped : state.step event = some next) :
    Steps state event next := by
  cases event with
  | acquire rust =>
      simp only [State.step] at stepped
      split at stepped
      · cases stepped
      · rename_i free
        cases stepped
        exact .acquire free
  | submit id op =>
      simp only [State.step, Option.bind_eq_bind, Option.bind_eq_some_iff] at stepped
      rcases stepped with ⟨guard, found, stepped⟩
      split at stepped
      · rename_i alive
        cases stepped
        exact .submit found alive
      · cases stepped
  | run index =>
      simp only [State.step, Option.bind_eq_bind, Option.bind_eq_some_iff] at stepped
      rcases stepped with ⟨future, queued, guard, found, stepped⟩
      split at stepped
      · rename_i live
        rcases Option.bind_eq_some_iff.mp stepped with ⟨middle, locked, ended⟩
        exact .run queued found live locked ended
      · cases stepped
  | dropFuture index =>
      simp only [State.step, Option.bind_eq_bind, Option.bind_eq_some_iff] at stepped
      rcases stepped with ⟨future, queued, stepped⟩
      split at stepped
      · rename_i live
        exact .dropFuture queued live stepped
      · cases stepped
  | dropGuard id =>
      simp only [State.step, Option.bind_eq_bind, Option.bind_eq_some_iff] at stepped
      rcases stepped with ⟨guard, found, stepped⟩
      split at stepped
      · rename_i alive
        cases stepped
        exact .dropGuard found alive
      · cases stepped
  | blocking id op =>
      simp only [State.step, Option.bind_eq_bind, Option.bind_eq_some_iff] at stepped
      rcases stepped with ⟨guard, found, stepped⟩
      split at stepped
      · rename_i alive
        exact .blocking found alive stepped
      · cases stepped
  | session event =>
      simp only [State.step, Option.bind_eq_bind, Option.bind_eq_some_iff] at stepped
      rcases stepped with ⟨world, taken, same⟩
      cases same
      exact .session taken

end State

/-! ## Leases and guards -/

/-- What a guard has out of the pool. -/
def SessionGuard.share (guard : SessionGuard) : Multiset RustId := (guard.lease.toList : Multiset RustId)

theorem SessionGuard.mem_share {guard : SessionGuard} {rust : RustId} :
    rust ∈ guard.share <-> guard.lease = some rust := by
  rw [SessionGuard.share, Multiset.mem_coe, Option.mem_toList]

/-- The clones of a guard's `Arc` in a future. -/
def GuardFuture.clones (id : GuardId) (future : GuardFuture) : Nat :=
  if future.guard = id ∧ future.live then 1 else 0

namespace State

/-- The clones of a guard's `Arc` in all futures. -/
def clones (state : State) (id : GuardId) : Nat :=
  (state.futures.map (GuardFuture.clones id)).sum

/-- The leases are those of the guards, each of one guard only, and a guard
that nothing refers to has none. -/
structure Balanced (state : State) : Prop where
  leased : state.leased = (state.guards.map SessionGuard.share).sum
  nodup : state.leased.Nodup
  refs : forall (id : GuardId) (guard : SessionGuard), state.guards[id]? = some guard ->
    guard.refs = guard.object.toNat + state.clones id
  unused : ∀ guard ∈ state.guards, guard.refs = 0 -> guard.lease = none
  placed : ∀ future ∈ state.futures, future.guard < state.guards.length

theorem Balanced.congr {state next : State} (balanced : state.Balanced)
    (leased : next.leased = state.leased) (guards : next.guards = state.guards)
    (futures : next.futures = state.futures) : next.Balanced where
  leased := by rw [leased, guards, balanced.leased]
  nodup := leased ▸ balanced.nodup
  refs := by
    intro id guard found
    rw [guards] at found
    rw [State.clones, futures]
    exact balanced.refs id guard found
  unused := guards ▸ balanced.unused
  placed := by
    rw [futures, guards]
    exact balanced.placed

/-- A step that rewrites one guard keeps the balance when it keeps that
guard's. -/
theorem Balanced.rewrite {state next : State} (balanced : state.Balanced) {id : GuardId}
    {old new : SessionGuard} (found : state.guards[id]? = some old)
    (guards : next.guards = state.guards.set id new)
    (lease : next.leased + old.share = state.leased + new.share)
    (least : next.leased ≤ state.leased)
    (elsewhere : forall other, id ≠ other -> next.clones other = state.clones other)
    (here : new.refs = new.object.toNat + next.clones id)
    (unused : new.refs = 0 -> new.lease = none)
    (placed : ∀ future ∈ next.futures, future.guard < state.guards.length) : next.Balanced where
  leased := by
    have moved := sum_map_set SessionGuard.share found new
    rw [← balanced.leased, ← lease, ← guards] at moved
    exact (add_right_cancel moved).symm
  nodup := Multiset.nodup_of_le least balanced.nodup
  refs := by
    intro other guard at'
    rw [guards, List.getElem?_set] at at'
    split at at'
    · rename_i same
      subst same
      split at at'
      · cases at'
        exact here
      · cases at'
    · rename_i different
      rw [elsewhere other different]
      exact balanced.refs other guard at'
  unused := by
    intro guard member
    rw [guards] at member
    rcases List.mem_or_eq_of_mem_set member with present | rfl
    · exact balanced.unused guard present
    · exact unused
  placed := by
    intro future member
    rw [guards, List.length_set]
    exact placed future member

theorem Balanced.share_le {state : State} (balanced : state.Balanced) {id : GuardId}
    {guard : SessionGuard} (found : state.guards[id]? = some guard) : guard.share ≤ state.leased :=
  balanced.leased ▸ share_le_sum SessionGuard.share found

/-- Emptying a cell, with the references of its guard as they will be. -/
theorem Balanced.release {state next : State} (balanced : state.Balanced) {id : GuardId}
    {old guard : SessionGuard} (found : state.guards[id]? = some old)
    (lease : guard.lease = old.lease) (guards : next.guards = state.guards)
    (leased : next.leased = state.leased)
    (elsewhere : forall other, id ≠ other -> next.clones other = state.clones other)
    (here : guard.refs = guard.object.toNat + next.clones id)
    (placed : ∀ future ∈ next.futures, future.guard < state.guards.length) :
    (next.release id guard).Balanced := by
  have share : (guard.lease.toList : Multiset RustId) = old.share := by rw [lease]; rfl
  refine @Balanced.rewrite state (next.release id guard) balanced id old { guard with lease := none }
    found (by rw [← guards]; rfl) ?_ ?_ elsewhere here (fun _ => rfl) placed
  · change next.leased - (guard.lease.toList : Multiset RustId) + old.share = state.leased + 0
    rw [share, leased, Multiset.sub_add_cancel (balanced.share_le found), add_zero]
  · change next.leased - (guard.lease.toList : Multiset RustId) ≤ state.leased
    rw [leased]
    exact Multiset.sub_le_self _ _

theorem Balanced.dropRef {state next : State} (balanced : state.Balanced) {id : GuardId}
    {old guard : SessionGuard} (found : state.guards[id]? = some old)
    (lease : guard.lease = old.lease) (guards : next.guards = state.guards)
    (leased : next.leased = state.leased)
    (elsewhere : forall other, id ≠ other -> next.clones other = state.clones other)
    (here : guard.refs = guard.object.toNat + next.clones id + 1)
    (placed : ∀ future ∈ next.futures, future.guard < state.guards.length) :
    (next.dropRef id guard).Balanced := by
  unfold State.dropRef
  split
  · rename_i last
    refine @Balanced.release state next balanced id old { guard with refs := 0 } found lease guards
      leased elsewhere ?_ placed
    change 0 = guard.object.toNat + next.clones id
    omega
  · rename_i more
    refine @Balanced.rewrite state (next.setGuard id { guard with refs := guard.refs - 1 }) balanced
      id old { guard with refs := guard.refs - 1 } found (by rw [← guards]; rfl) ?_ (le_of_eq leased)
      elsewhere ?_ ?_ placed
    · change next.leased + old.share = state.leased + (guard.lease.toList : Multiset RustId)
      rw [leased, lease]
      rfl
    · change guard.refs - 1 = guard.object.toNat + next.clones id
      omega
    · intro none
      change guard.refs - 1 = 0 at none
      omega

theorem locked_futures {state next : State} {id : GuardId} {guard : SessionGuard} {op : GuardOp}
    (stepped : state.locked id guard op = some next) : next.futures = state.futures := by
  cases locked_locks stepped with
  | refused | given | exit | acquireFresh | markBad => rfl

theorem Balanced.locked {state next : State} (balanced : state.Balanced) {id : GuardId}
    {guard : SessionGuard} {op : GuardOp} (found : state.guards[id]? = some guard)
    (stepped : state.locked id guard op = some next) : next.Balanced := by
  have released : forall between : State, between.guards = state.guards ->
      between.leased = state.leased -> between.futures = state.futures ->
        (between.release id guard).Balanced := by
    intro between guards leased futures
    have clones : forall other, between.clones other = state.clones other := by
      intro other
      rw [State.clones, State.clones, futures]
    exact balanced.release found rfl guards leased (fun other _ => clones other)
      ((balanced.refs id guard found).trans (by rw [clones id])) (futures ▸ balanced.placed)
  cases locked_locks stepped with
  | exit => exact released state rfl rfl rfl
  | acquireFresh => exact released (state.markBad guard) rfl rfl rfl
  | refused | given | markBad => exact balanced.congr rfl rfl rfl

theorem Balanced.endFuture {state next : State} (balanced : state.Balanced) {index : Nat}
    {future : GuardFuture} (found : state.futures[index]? = some future) (live : future.live = true)
    (stepped : state.endFuture index future = some next) : next.Balanced := by
  simp only [State.endFuture, Option.bind_eq_bind, Option.bind_eq_some_iff] at stepped
  rcases stepped with ⟨guard, foundGuard, same⟩
  cases same
  have moved := fun other =>
    sum_map_set (GuardFuture.clones other) found { future with live := false }
  have dead : forall other, ({ future with live := false } : GuardFuture).clones other = 0 :=
    fun other => if_neg (fun both => Bool.false_ne_true both.2)
  refine balanced.dropRef foundGuard rfl rfl rfl ?_ ?_ ?_
  · intro other different
    have same := moved other
    have none : future.clones other = 0 := if_neg (fun both => different both.1)
    rw [dead, none] at same
    exact same
  · have one : future.clones future.guard = 1 := if_pos ⟨rfl, live⟩
    have same := moved future.guard
    rw [dead, one] at same
    have before := balanced.refs _ guard foundGuard
    change guard.refs = guard.object.toNat + ((state.futures.set index { future with live := false }).map
      (GuardFuture.clones future.guard)).sum + 1
    rw [before, State.clones]
    omega
  · intro each member
    rcases List.mem_or_eq_of_mem_set member with present | rfl
    · exact balanced.placed each present
    · exact balanced.placed future (List.mem_of_getElem? found)

/-- A new guard has a session that no other has, and one reference. -/
theorem Balanced.acquire {state : State} (balanced : state.Balanced) {rust : RustId}
    (free : rust ∉ state.leased) :
    ({ state with
      leased := rust ::ₘ state.leased
      guards := state.guards ++ [⟨some rust, true, 1⟩] } : State).Balanced where
  leased := by
    rw [List.map_append, List.sum_append, ← balanced.leased, add_comm]
    rfl
  nodup := Multiset.nodup_cons.mpr ⟨free, balanced.nodup⟩
  refs := by
    intro id guard found
    change guard.refs = guard.object.toNat + state.clones id
    rcases Nat.lt_or_ge id state.guards.length with old | new
    · rw [List.getElem?_append_left old] at found
      exact balanced.refs id guard found
    · have none : state.clones id = 0 := by
        apply List.sum_eq_zero
        intro clones member
        rcases List.mem_map.mp member with ⟨future, present, rfl⟩
        have before := balanced.placed future present
        exact if_neg (fun both => Nat.ne_of_lt (Nat.lt_of_lt_of_le before new) both.1)
      rw [List.getElem?_append_right new] at found
      cases List.mem_singleton.mp (List.mem_of_getElem? found)
      rw [none]
      rfl
  unused := by
    intro guard member unused
    rcases List.mem_append.mp member with present | new
    · exact balanced.unused guard present unused
    · cases List.mem_singleton.mp new
      cases unused
  placed := by
    intro future member
    rw [List.length_append]
    exact Nat.lt_add_right _ (balanced.placed future member)

/-- A submitted future holds one clone of its guard's `Arc`. -/
theorem Balanced.submit {state : State} (balanced : state.Balanced) {id : GuardId} {op : GuardOp}
    {guard : SessionGuard} (found : state.guards[id]? = some guard) :
    ({ state.setGuard id { guard with refs := guard.refs + 1 } with
      futures := state.futures ++ [⟨id, op, true⟩] } : State).Balanced := by
  have clones : forall other, ((state.futures ++ [(⟨id, op, true⟩ : GuardFuture)]).map
      (GuardFuture.clones other)).sum = state.clones other + if id = other then 1 else 0 := by
    intro other
    rw [List.map_append, List.sum_append]
    simp [GuardFuture.clones, State.clones]
  refine balanced.rewrite found rfl rfl (le_refl _) ?_ ?_ ?_ ?_
  · intro other different
    refine (clones other).trans ?_
    rw [if_neg different, Nat.add_zero]
  · have before := balanced.refs id guard found
    change guard.refs + 1 = guard.object.toNat + ((state.futures ++ [(⟨id, op, true⟩ : GuardFuture)]).map
      (GuardFuture.clones id)).sum
    rw [clones, if_pos rfl, before, Nat.add_assoc]
  · intro impossible
    cases impossible
  · intro future member
    rcases List.mem_append.mp member with present | new
    · exact balanced.placed future present
    · cases List.mem_singleton.mp new
      exact (List.getElem?_eq_some_iff.mp found).1

theorem Balanced.step {state next : State} {event : Event} (balanced : state.Balanced)
    (stepped : state.step event = some next) : next.Balanced := by
  cases step_steps stepped with
  | acquire free => exact balanced.acquire free
  | submit found alive => exact balanced.submit found
  | run queued found live locked ended =>
      have same := State.locked_futures locked
      exact (balanced.locked found locked).endFuture (same ▸ queued) live ended
  | dropFuture queued live ended => exact balanced.endFuture queued live ended
  | @dropGuard id guard found alive =>
      refine @Balanced.dropRef state state balanced id guard { guard with object := false } found
        rfl rfl rfl (fun _ _ => rfl) ?_ balanced.placed
      have before := balanced.refs id guard found
      rw [alive] at before
      change guard.refs = 0 + state.clones id + 1
      rw [before, Nat.zero_add, Nat.add_comm]
      rfl
  | blocking found alive locked => exact balanced.locked found locked
  | session taken => exact balanced.congr rfl rfl rfl

theorem Balanced.run {events : List Event} {state : State}
    (ran : pool.run .initial events = some state) : state.Balanced := by
  refine pool.run_invariant Balanced (fun _ _ _ balanced stepped => balanced.step stepped) ?_ ran
  constructor
  · rfl
  · exact Multiset.nodup_zero
  · intro id guard found
    simp [State.initial] at found
  · intro guard member
    cases member
  · intro future member
    cases member

/-- Two guards never have the same session out. -/
theorem Balanced.exclusive {state : State} (balanced : state.Balanced) {first second : GuardId}
    {left right : SessionGuard} {rust : RustId} (foundLeft : state.guards[first]? = some left)
    (foundRight : state.guards[second]? = some right) (leaseLeft : left.lease = some rust)
    (leaseRight : right.lease = some rust) : first = second :=
  index_unique SessionGuard.share (balanced.leased ▸ balanced.nodup) foundLeft foundRight
    (SessionGuard.mem_share.mpr leaseLeft) (SessionGuard.mem_share.mpr leaseRight)

/-! ## What a step does to guards, handles and sessions -/

/-- Guards stay, and a lease is only ever given back. -/
def Wanes (old new : List SessionGuard) : Prop :=
  forall (id : GuardId) (guard : SessionGuard), old[id]? = some guard ->
    ∃ later, new[id]? = some later ∧ (later.lease = guard.lease ∨ later.lease = none)

theorem wanes_refl (guards : List SessionGuard) : Wanes guards guards :=
  fun _ guard found => ⟨guard, found, Or.inl rfl⟩

theorem Wanes.trans {first second third : List SessionGuard} (early : Wanes first second)
    (late : Wanes second third) : Wanes first third := by
  intro id guard found
  rcases early id guard found with ⟨middle, foundMiddle, before⟩
  rcases late id middle foundMiddle with ⟨last, foundLast, behind⟩
  refine ⟨last, foundLast, ?_⟩
  rcases behind with same | none
  · rw [same]
    exact before
  · exact Or.inr none

theorem wanes_append (guards new : List SessionGuard) : Wanes guards (guards ++ new) := by
  intro id guard found
  have inside := (List.getElem?_eq_some_iff.mp found).1
  exact ⟨guard, (List.getElem?_append_left inside).trans found, Or.inl rfl⟩

theorem wanes_set {guards : List SessionGuard} {id : GuardId} {old new : SessionGuard}
    (found : guards[id]? = some old) (lease : new.lease = old.lease ∨ new.lease = none) :
    Wanes guards (guards.set id new) := by
  intro other guard at'
  by_cases here : id = other
  · subst here
    cases found.symm.trans at'
    exact ⟨new, List.getElem?_set_self (List.getElem?_eq_some_iff.mp found).1, lease⟩
  · exact ⟨guard, (List.getElem?_set_ne here).trans at', Or.inl rfl⟩

theorem wanes_dropRef {state : State} {id : GuardId} {old guard : SessionGuard}
    (found : state.guards[id]? = some old) (lease : guard.lease = old.lease) :
    Wanes state.guards (state.dropRef id guard).guards := by
  unfold State.dropRef
  split
  · exact wanes_set found (Or.inr rfl)
  · exact wanes_set found (Or.inl lease)

theorem wanes_locked {state next : State} {id : GuardId} {guard : SessionGuard} {op : GuardOp}
    (found : state.guards[id]? = some guard) (stepped : state.locked id guard op = some next) :
    Wanes state.guards next.guards := by
  cases locked_locks stepped with
  | exit | acquireFresh => exact wanes_set found (Or.inr rfl)
  | refused | given | markBad => exact wanes_refl _

theorem wanes_endFuture {state next : State} {index : Nat} {future : GuardFuture}
    (stepped : state.endFuture index future = some next) : Wanes state.guards next.guards := by
  simp only [State.endFuture, Option.bind_eq_bind, Option.bind_eq_some_iff] at stepped
  rcases stepped with ⟨guard, found, same⟩
  cases same
  exact @wanes_dropRef { state with futures := state.futures.set index { future with live := false } }
    _ guard guard found rfl

theorem wanes_step {state next : State} {event : Event} (stepped : state.step event = some next) :
    Wanes state.guards next.guards := by
  cases step_steps stepped with
  | acquire free => exact wanes_append _ _
  | submit found alive => exact wanes_set found (Or.inl rfl)
  | run queued found live locked ended =>
      exact (wanes_locked found locked).trans (wanes_endFuture ended)
  | dropFuture queued live ended => exact wanes_endFuture ended
  | dropGuard found alive => exact wanes_dropRef found rfl
  | blocking found alive locked => exact wanes_locked found locked
  | session taken => exact wanes_refl _

/-- The event does what an operation does while it has the lock of a guard. -/
def Asks (state : State) (event : Event) (id : GuardId) (op : GuardOp) : Prop :=
  event = .blocking id op ∨ ∃ index future, event = .run index ∧
    state.futures[index]? = some future ∧ future.guard = id ∧ future.op = op

/-- An operation on a guard leaves sessions and handles alone, or the guard has
a lease and gives out a handle with a session state of its own. -/
inductive Gives (state : State) (id : GuardId) (op : GuardOp) (next : State) : Prop
  | still (handles : next.handles = state.handles) (world : next.world = state.world)
  | handle (guard : SessionGuard) (rust : RustId) (reads : op.Reads)
      (found : state.guards[id]? = some guard) (lease : guard.lease = some rust)
      (handles : next.handles = state.handles ++ [⟨rust, id, state.world.created⟩])
      (world : Session.step state.world (.session [] none none) = some next.world)

theorem Gives.congr {state middle next : State} {id : GuardId} {op : GuardOp}
    (gives : Gives state id op middle) (handles : next.handles = middle.handles)
    (world : next.world = middle.world) : Gives state id op next := by
  cases gives with
  | still sameHandles sameWorld => exact .still (handles.trans sameHandles) (world.trans sameWorld)
  | handle guard rust reads found lease given made =>
      exact .handle guard rust reads found lease (handles.trans given) (world ▸ made)

/-- What a step can do to sessions and handles. -/
inductive Moves (state : State) (event : Event) (next : State) : Prop
  | still (handles : next.handles = state.handles) (world : next.world = state.world)
      (other : forall inner, event ≠ .session inner)
  | handle (id : GuardId) (op : GuardOp) (guard : SessionGuard) (rust : RustId)
      (asked : state.Asks event id op) (reads : op.Reads)
      (found : state.guards[id]? = some guard) (lease : guard.lease = some rust)
      (handles : next.handles = state.handles ++ [⟨rust, id, state.world.created⟩])
      (world : Session.step state.world (.session [] none none) = some next.world)
      (other : forall inner, event ≠ .session inner)
  | session (inner : Session.Event) (made : event = .session inner)
      (handles : next.handles = state.handles)
      (world : Session.step state.world inner = some next.world)

theorem Gives.moves {state next : State} {event : Event} {id : GuardId} {op : GuardOp}
    (gives : Gives state id op next) (asked : state.Asks event id op)
    (other : forall inner, event ≠ .session inner) : Moves state event next := by
  cases gives with
  | still handles world => exact .still handles world other
  | handle guard rust reads found lease handles world =>
      exact .handle id op guard rust asked reads found lease handles world other

theorem gives_locked {state next : State} {id : GuardId} {guard : SessionGuard} {op : GuardOp}
    (found : state.guards[id]? = some guard) (stepped : state.locked id guard op = some next) :
    Gives state id op next := by
  cases locked_locks stepped with
  | given reads lease made => exact .handle guard _ reads found lease rfl made
  | refused | exit | acquireFresh | markBad => exact .still rfl rfl

theorem dropRef_same (state : State) (id : GuardId) (guard : SessionGuard) :
    (state.dropRef id guard).handles = state.handles ∧ (state.dropRef id guard).world = state.world := by
  unfold State.dropRef
  split
  · exact ⟨rfl, rfl⟩
  · exact ⟨rfl, rfl⟩

theorem endFuture_same {state next : State} {index : Nat} {future : GuardFuture}
    (stepped : state.endFuture index future = some next) :
    next.handles = state.handles ∧ next.world = state.world := by
  simp only [State.endFuture, Option.bind_eq_bind, Option.bind_eq_some_iff] at stepped
  rcases stepped with ⟨guard, _, same⟩
  cases same
  exact dropRef_same _ _ _

theorem step_moves {state next : State} {event : Event} (stepped : state.step event = some next) :
    Moves state event next := by
  cases step_steps stepped with
  | acquire | submit => exact .still rfl rfl (fun _ same => nomatch same)
  | @run index future _ _ _ queued found live locked ended =>
      rcases endFuture_same ended with ⟨handles, world⟩
      exact ((gives_locked found locked).congr handles world).moves
        (Or.inr ⟨index, future, rfl, queued, rfl, rfl⟩) (fun _ same => nomatch same)
  | dropFuture queued live ended =>
      rcases endFuture_same ended with ⟨handles, world⟩
      exact .still handles world (fun _ same => nomatch same)
  | dropGuard found alive =>
      rcases dropRef_same state _ _ with ⟨handles, world⟩
      exact .still handles world (fun _ same => nomatch same)
  | blocking found alive locked =>
      exact (gives_locked found locked).moves (Or.inl rfl) (fun _ same => nomatch same)
  | session taken => exact .session _ rfl rfl taken

/-! ## Handles -/

/-- A handle that was not there comes from a guard with a lease on its session. -/
theorem handle_step {state next : State} {event : Event} {handle : Handle}
    (stepped : state.step event = some next) (before : handle ∉ state.handles)
    (now : handle ∈ next.handles) :
    ∃ guard, state.guards[handle.guard]? = some guard ∧ guard.lease = some handle.rust := by
  cases step_moves stepped with
  | still handles => exact absurd (handles ▸ now) before
  | handle id op guard rust asked reads found lease handles =>
      rw [handles] at now
      rcases List.mem_append.mp now with present | given
      · exact absurd present before
      · rw [List.mem_singleton.mp given]
        exact ⟨guard, found, lease⟩
  | session inner _ handles => exact absurd (handles ▸ now) before

theorem handle_run {events : List Event} {state : State} {handle : Handle}
    (ran : pool.run .initial events = some state) (member : handle ∈ state.handles) :
    ∃ early event late middle guard, events = early ++ event :: late ∧
      pool.run .initial early = some middle ∧ handle ∉ middle.handles ∧
        middle.guards[handle.guard]? = some guard ∧ guard.lease = some handle.rust := by
  rcases pool.run_turning_point (fun each => handle ∈ each.handles) (List.not_mem_nil) member ran with
    ⟨early, event, late, middle, next, split, ranEarly, stepped, before, now, _⟩
  rcases handle_step stepped before now with ⟨guard, found, lease⟩
  exact ⟨early, event, late, middle, guard, split, ranEarly, before, found, lease⟩

/-- A released guard stays released and gives out nothing more. -/
theorem released_run {state final : State} {more : List Event} {id : GuardId} {guard : SessionGuard}
    (found : state.guards[id]? = some guard) (released : guard.lease = none)
    (ran : pool.run state more = some final) :
    ∃ later, final.guards[id]? = some later ∧ later.lease = none ∧
      ∀ handle ∈ final.handles, handle.guard = id -> handle ∈ state.handles := by
  refine pool.run_invariant (fun each => ∃ later, each.guards[id]? = some later ∧
    later.lease = none ∧ ∀ handle ∈ each.handles, handle.guard = id -> handle ∈ state.handles)
    ?_ ⟨guard, found, released, fun _ member _ => member⟩ ran
  rintro each event next ⟨now, foundNow, none, known⟩ stepped
  rcases wanes_step stepped id now foundNow with ⟨later, foundLater, lease⟩
  refine ⟨later, foundLater, ?_, ?_⟩
  · rcases lease with same | gone
    · exact same.trans none
    · exact gone
  · intro handle member here
    by_cases present : handle ∈ each.handles
    · exact known handle present here
    · rcases handle_step stepped present member with ⟨giver, foundGiver, leased⟩
      rw [here] at foundGiver
      cases foundNow.symm.trans foundGiver
      rw [none] at leased
      cases leased

/-- A session state is closed by `close` on it alone, whatever the guards do. -/
theorem closed_run {events : List Event} {start state : State} (beyond : start.world.OpenBeyond)
    (ran : pool.run start events = some state) :
    state.world.OpenBeyond ∧ forall id, (state.world.states id).closed = true <->
      (start.world.states id).closed = true ∨ .session (.close id) ∈ events := by
  induction events generalizing start with
  | nil =>
      cases ran
      exact ⟨beyond, fun id => by simp only [List.not_mem_nil, or_false]⟩
  | cons event rest ih =>
      rcases (pool.run_cons).mp ran with ⟨next, stepped, remaining⟩
      have one : next.world.OpenBeyond ∧ forall id, (next.world.states id).closed = true <->
          (start.world.states id).closed = true ∨ event = .session (.close id) := by
        cases step_moves stepped with
        | still _ world other =>
            rw [world]
            refine ⟨beyond, fun id => ?_⟩
            simp only [other, or_false]
        | handle _ _ _ _ _ _ _ _ _ world other =>
            rcases Session.closed_step beyond world with ⟨beyond', closes⟩
            refine ⟨beyond', fun id => ?_⟩
            rw [closes id]
            simp only [other, reduceCtorEq]
        | session inner made _ world =>
            rcases Session.closed_step beyond world with ⟨beyond', closes⟩
            refine ⟨beyond', fun id => ?_⟩
            rw [closes id, made, Event.session.injEq]
      rcases ih one.1 remaining with ⟨beyond', closes⟩
      refine ⟨beyond', fun id => ?_⟩
      rw [closes id, one.2 id, List.mem_cons, or_assoc, @eq_comm _ event]

end State

/-! ## The contract -/

section Contract

open State

/-- An open session accepts every request with acceptable arguments. -/
theorem makeRequest_open {id : StateId} {world : World} (opened : (world.states id).closed = false)
    (method : String) {args : Session.BodyArgs} (acceptable : args.Acceptable) :
    (Session.makeRequest id method args).run world =
      .ok () (world.effect id (.starts (.buffered method))) := by
  rcases acceptable with ⟨body, extracted, valid⟩
  simp [Session.makeRequest, extracted, valid, opened]

/-- In every state of every run: a session is out on lease to one guard at
most; every handle came from a guard while that had a lease on its session; a
guard loses its lease by exit, by `acquire_fresh` on it and when nothing refers
to it any more; without a lease it never gets one again, gives out no handle,
and raises when asked for one; and a handle refuses to start requests when it
was closed itself, and only then. -/
theorem leases_are_exclusive {events : List Event} {state : State}
    (ran : pool.run .initial events = some state) :
    (forall (first second : GuardId) (left right : SessionGuard) (rust : RustId),
      state.guards[first]? = some left -> state.guards[second]? = some right ->
        left.lease = some rust -> right.lease = some rust -> first = second) ∧
    (∀ handle ∈ state.handles, ∃ early event late middle guard,
      events = early ++ event :: late ∧ pool.run .initial early = some middle ∧
        handle ∉ middle.handles ∧ middle.guards[handle.guard]? = some guard ∧
          guard.lease = some handle.rust) ∧
    (forall (id : GuardId) (guard : SessionGuard), state.guards[id]? = some guard ->
      (guard.object = false -> state.clones id = 0 -> guard.lease = none) ∧
      (forall op next, op = .exit ∨ op = .acquireFresh -> state.locked id guard op = some next ->
        ∃ later, next.guards[id]? = some later ∧ later.lease = none) ∧
      (guard.lease = none -> forall more final, pool.run state more = some final ->
        ∃ later, final.guards[id]? = some later ∧ later.lease = none ∧
          (∀ handle ∈ final.handles, handle.guard = id -> handle ∈ state.handles) ∧
          forall op, op = .session ∨ op = .enter -> final.locked id later op =
            some { final with raised := final.raised ++ [(id, op, alreadyReleased)] })) ∧
    (∀ handle ∈ state.handles,
      ((state.world.states handle.state).closed = true <->
        .session (.close handle.state) ∈ events) ∧
      ((state.world.states handle.state).closed = true -> state.world.Refuses handle.state) ∧
      ((state.world.states handle.state).closed = false -> forall method args,
        args.Acceptable -> (Session.makeRequest handle.state method args).run state.world =
          .ok () (state.world.effect handle.state (.starts (.buffered method))))) := by
  have balanced := Balanced.run ran
  refine ⟨?_, ?_, ?_, ?_⟩
  · intro first second left right rust foundLeft foundRight leaseLeft leaseRight
    exact balanced.exclusive foundLeft foundRight leaseLeft leaseRight
  · intro handle member
    exact handle_run ran member
  · intro id guard found
    refine ⟨?_, ?_, ?_⟩
    · intro dead idle
      apply balanced.unused guard (List.mem_of_getElem? found)
      rw [balanced.refs id guard found, dead, idle]
      rfl
    · intro op next releases stepped
      have inside := (List.getElem?_eq_some_iff.mp found).1
      rcases releases with rfl | rfl
      · cases stepped
        exact ⟨_, List.getElem?_set_self inside, rfl⟩
      · cases stepped
        exact ⟨_, List.getElem?_set_self inside, rfl⟩
    · intro released more final continued
      rcases released_run found released continued with ⟨later, foundLater, none, known⟩
      refine ⟨later, foundLater, none, known, ?_⟩
      intro op asks
      rcases asks with rfl | rfl
      · simp only [State.locked, none]
      · simp only [State.locked, none]
  · intro handle member
    refine ⟨?_, ?_, ?_⟩
    · have closes := (closed_run (fun _ _ => rfl) ran).2 handle.state
      refine closes.trans ⟨fun either => either.resolve_left Bool.false_ne_true, Or.inr⟩
    · exact fun closed call opens => Session.call_closed closed opens
    · exact fun opened method args acceptable => makeRequest_open opened method acceptable

/-- A lease that ends at the `with` block and the next tenant of the session. -/
def nextTenant : List Event :=
  [.acquire 7, .submit 0 .enter, .run 0, .submit 0 .exit, .run 1, .acquire 7]

/-- The first tenant's handle still starts requests on the session, which is
out on lease to another guard. -/
theorem released_guard_leaves_handle_usable :
    ∃ state next, pool.run .initial nextTenant = some state ∧
      state.guards = [⟨none, true, 1⟩, ⟨some 7, true, 1⟩] ∧ state.handles = [⟨7, 0, 0⟩] ∧
      pool.step state (.session (.call 0 .get)) = some next ∧
      state.world.effects = [] ∧ next.world.effects = [(0, .starts (.buffered "GET"))] := by
  have observed : (pool.run .initial nextTenant).map
      (fun state => (state.guards, state.handles, state.world.effects)) =
        some ([⟨none, true, 1⟩, ⟨some 7, true, 1⟩], [⟨7, 0, 0⟩], []) := by decide
  have goesOn : (pool.run .initial (nextTenant ++ [.session (.call 0 .get)])).map
      (fun state => state.world.effects) = some [(0, .starts (.buffered "GET"))] := by decide
  rcases Option.map_eq_some_iff.mp observed with ⟨state, ran, seen⟩
  rcases Option.map_eq_some_iff.mp goesOn with ⟨next, ranNext, effects⟩
  have stepped := pool.step_of_run_snoc ran ranNext
  simp only [Prod.mk.injEq] at seen
  exact ⟨state, next, ran, seen.1, seen.2.1, stepped, seen.2.2, effects⟩

/-- After the exit the guard raises, and its handle works until it is closed. -/
theorem leases_are_exclusive_next_tenant :
    ∃ state, pool.run .initial nextTenant = some state ∧
      state.handles = [⟨7, 0, 0⟩] ∧
      ∃ early event late middle guard, nextTenant = early ++ event :: late ∧
        pool.run .initial early = some middle ∧ (⟨7, 0, 0⟩ : Handle) ∉ middle.handles ∧
          middle.guards[0]? = some guard ∧ guard.lease = some 7 := by
  have observed : (pool.run .initial nextTenant).map State.handles = some [⟨7, 0, 0⟩] := by decide
  rcases Option.map_eq_some_iff.mp observed with ⟨state, ran, handles⟩
  have member : (⟨7, 0, 0⟩ : Handle) ∈ state.handles := by
    rw [handles]
    exact List.mem_singleton_self _
  exact ⟨state, ran, handles, (leases_are_exclusive ran).2.1 ⟨7, 0, 0⟩ member⟩

end Contract

end Pool
end Lkrequest
