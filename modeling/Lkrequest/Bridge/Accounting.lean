import Lkrequest.Bridge.Crossing

namespace Lkrequest
namespace Bridge

open Foundations

/-!
# Exact accounting of the in-flight count

The machine of `Crossing` is a refinement of a ledger of tickets.  The guards
that the records of all crossings hold between them are the tickets held, and
an event either passes a guard on inside its crossing, which is no move of the
ledger, or registers one, or drops some.  Everything the count is relied on for
follows from the ledger's balance: it is the number of live guards, no guard
is owned twice or released twice, and it is zero once nobody is left who could
own one.

A delivery through the proxy of another crossing takes what is in the slot of
that one.  This moves a guard from one crossing to another, and the ledger does
not notice.  It is how an untracked future can come to release a guard.
-/

/-! ## The guards a crossing holds -/

/-- The `_guard`s of a running `call_soon_threadsafe` and of those that it has
called, its own first. -/
def Stage.callGuards : Stage -> List (Option Guard)
  | .delivering call => call.guard :: call.nested.reverse
  | _ => []

/-- The guard of a slot or of a call. -/
def held (guard : Option Guard) : Multiset Guard := guard.toList

/-- The guards in the wrapper, in the slot and in running calls. -/
def Crossing.owned (crossing : Crossing) : Multiset Guard :=
  (crossing.captured : Multiset Guard) + held crossing.handoff + (crossing.stage.callGuards.map held).sum

/-- Every guard that is owned anywhere. -/
def State.owners (state : State) : Multiset Guard := (state.crossings.map Crossing.owned).sum

/-- A completing wrapper passes its guard to the slot. -/
theorem Crossing.owned_complete {crossing : Crossing} (payload : Payload)
    (stage : crossing.stage = .polling) :
    (crossing.complete payload).owned + crossing.overwritten = crossing.owned := by
  have outside : crossing.stage.callGuards = [] := by rw [stage]; rfl
  have emptied : (crossing.complete payload).captured = [] := rfl
  have idle : (crossing.complete payload).stage.callGuards = [] := rfl
  have passed : (crossing.complete payload).handoff =
      crossing.wrapper.captured.or crossing.handoff := rfl
  unfold Crossing.owned
  rw [emptied, idle, passed, outside]
  unfold Crossing.overwritten Crossing.captured held
  cases crossing.wrapper.captured with
  | none => simp
  | some guard => simp

/-- An action neither makes nor loses a guard: what a crossing held before is
what it holds afterwards and what was dropped. -/
theorem Acts.owned {count : Int} {submitted : Nat} {eventLoop : EventLoop} {index : CrossingId}
    {crossing : Crossing} {action : Action} {effect : Effect}
    (acts : Acts count submitted eventLoop index crossing action effect) :
    effect.crossing.owned + effect.dropped = crossing.owned := by
  cases acts with
  | buildProxy stage => simp [Crossing.owned, Crossing.captured, Stage.callGuards, stage]
  | enter stage => simp [Crossing.owned, Crossing.captured, Stage.callGuards, stage]
  | refuse stage =>
      simp [Crossing.owned, Crossing.captured, Wrapper.captured, Stage.callGuards, held, stage]
  | refuseProxied stage =>
      simp [Crossing.owned, Crossing.captured, Wrapper.captured, Stage.callGuards, stage, add_comm]
  | complete result stage origin => exact Crossing.owned_complete _ stage
  | drainIdle stage origin zero => exact Crossing.owned_complete (.drained true) stage
  | drainTimeout stage origin => exact Crossing.owned_complete _ stage
  | panic stage origin =>
      simp [Crossing.owned, Crossing.captured, Wrapper.captured, Stage.callGuards, stage, add_comm]
  | cancel pending => simp [Crossing.owned, Crossing.captured]
  | abandon stage cancelled =>
      simp [Crossing.owned, Crossing.captured, Wrapper.captured, Stage.callGuards, stage, add_comm]
  | skip stage cancelled => simp [Crossing.owned, Crossing.captured, Stage.callGuards, stage]
  | commit stage going => simp [Crossing.owned, Crossing.captured, Stage.callGuards, stage]
  | take stage => simp [Crossing.owned, Crossing.captured, Stage.callGuards, held, stage]
  | isClosedRaised error guard nested below stage =>
      simp [Crossing.owned, Crossing.captured, Stage.callGuards, stage]
  | isClosed guard nested below stage => simp [Crossing.owned, Crossing.captured, Stage.callGuards, stage]
  | enqueueRaised error guard nested stage =>
      simp [Crossing.owned, Crossing.captured, Stage.callGuards, stage]
  | enqueue guard nested payload stage held loopOpen =>
      simp [Crossing.owned, Crossing.captured, Stage.callGuards, stage]
  | retNested guard inner nested below result stage =>
      simp [Crossing.owned, Crossing.captured, Stage.callGuards, held, stage, add_assoc]
  | ret guard below result stage => simp [Crossing.owned, Crossing.captured, Stage.callGuards, held, stage]
  | freeProxy stage live =>
      change (crossing.captured : Multiset Guard) + 0 + (crossing.stage.callGuards.map held).sum +
        held crossing.handoff = _
      rw [add_zero, add_right_comm]
      rfl

/-- What a call takes out of a slot. -/
theorem Crossing.owned_emptied (crossing : Crossing) :
    crossing.emptied.owned + held crossing.handoff = crossing.owned := by
  unfold Crossing.owned
  change (crossing.captured : Multiset Guard) + 0 + (crossing.stage.callGuards.map held).sum + _ = _
  rw [add_zero, add_right_comm]

theorem Crossing.owned_forwarded {crossing : Crossing} {guard : Option Guard} {nested : List (Option Guard)}
    {below : List CrossingId} {point : CallPoint} (stage : crossing.stage = .delivering ⟨guard, nested, below, point⟩)
    (taken : Option Guard) (rest : List CrossingId) :
    ({ crossing with stage := .delivering ⟨guard, taken :: nested, rest, .entered⟩ } : Crossing).owned =
      crossing.owned + held taken := by
  simp [Crossing.owned, Crossing.captured, Stage.callGuards, stage, add_assoc]

@[simp] theorem Crossing.owned_runCallback (crossing : Crossing) (payload : Payload) :
    (crossing.runCallback payload).owned = crossing.owned := rfl

@[simp] theorem Crossing.owned_submitted (origin : Origin) (loop : LoopId) (under : List CrossingId)
    (guard : Option Guard) : (Crossing.submitted origin loop under guard).owned = held guard := by
  simp [Crossing.owned, Crossing.submitted, Crossing.captured, Wrapper.captured, Stage.callGuards, held]

/-! ## The machine refines the ledger -/

/-- The ledger a state stands for. -/
structure Tracks (state : State) (ledger : Ledger) : Prop where
  registered : state.registered = ledger.issued
  owners : state.owners = ledger.held
  released : state.released = ledger.released
  count : state.inFlight.count = ledger.held.card

theorem tracks_initial : Tracks .initial .empty := ⟨rfl, rfl, rfl, rfl⟩

/-- Rewriting one crossing changes the owners by that crossing's share. -/
theorem owners_setCrossing {state : State} {index : CrossingId} {old : Crossing}
    (found : state.crossings[index]? = some old) (new : Crossing) :
    (state.setCrossing index new).owners + old.owned = state.owners + new.owned :=
  sum_map_set Crossing.owned found new

/-- Dropping owned guards is a release; a change that keeps the owners is no
move. -/
theorem tracks_drop {state next : State} {ledger : Ledger} {dropped : List Guard}
    (tracks : Tracks state ledger) (registered : next.registered = state.registered)
    (split : next.owners + dropped = state.owners)
    (released : next.released = (dropped : Multiset Guard) + state.released)
    (count : next.inFlight.count = state.inFlight.count - dropped.length) :
    ∃ ledger', Relation.ReflTransGen Ledger.Moves ledger ledger' ∧ Tracks next ledger' := by
  have held : ledger.held = (dropped : Multiset Guard) + next.owners := by
    rw [← tracks.owners, ← split, add_comm]
  refine ⟨ledger.release dropped next.owners held,
    Relation.ReflTransGen.single (.release ledger dropped next.owners held), ?_⟩
  have size : ledger.held.card = dropped.length + next.owners.card := by
    rw [held, Multiset.card_add, Multiset.coe_card]
  refine ⟨registered.trans tracks.registered, rfl, ?_, ?_⟩
  · rw [released, tracks.released]
    rfl
  · rw [count, tracks.count, size]
    change _ = (next.owners.card : Int)
    omega

/-- A call that goes on to another proxy passes a guard from one crossing to another. -/
theorem owners_forward {events : List Event} {state next : State} {index : CrossingId}
    (ran : machine.run .initial events = some state) (stepped : step state (.forward index) = some next) :
    next.owners = state.owners := by
  rcases step_forward stepped with
    ⟨crossing, guard, nested, outer, below, called, found, stage, foundOuter, rfl⟩
  have apart : outer ≠ index := Nat.ne_of_lt (outer_ne ran found stage)
  have first := owners_setCrossing foundOuter called.emptied
  have second := owners_setCrossing ((State.setCrossing_other state called.emptied apart).trans found)
    { crossing with stage := .delivering ⟨guard, called.handoff :: nested, below, .entered⟩ }
  rw [Crossing.owned_forwarded stage, add_comm crossing.owned, ← add_assoc] at second
  rw [← called.owned_emptied, add_comm called.emptied.owned, ← add_assoc] at first
  exact (add_right_cancel second).trans (add_right_cancel first)

theorem tracks_step {events : List Event} {state next : State} {event : Event} {ledger : Ledger}
    (ran : machine.run .initial events = some state) (tracks : Tracks state ledger)
    (stepped : step state event = some next) :
    ∃ ledger', Relation.ReflTransGen Ledger.Moves ledger ledger' ∧ Tracks next ledger' := by
  cases event with
  | submit origin site =>
      rcases step_submit stepped with ⟨loop, under, _, ⟨_, rfl⟩ | ⟨_, rfl⟩⟩
      · refine ⟨ledger.issue, Relation.ReflTransGen.single (.issue ledger), ?_⟩
        refine ⟨congrArg (· + 1) tracks.registered, ?_, tracks.released, ?_⟩
        · simp [State.owners, Ledger.issue, ← tracks.owners, tracks.registered,
            ← Multiset.singleton_add, add_comm, held]
        · simp [State.register, InFlight.fetchAdd, Ledger.issue, tracks.count]
      · refine ⟨ledger, Relation.ReflTransGen.refl, tracks.registered, ?_, tracks.released,
          tracks.count⟩
        rw [← tracks.owners]
        simp [State.owners, held]
  | act index action =>
      rcases step_act stepped with ⟨crossing, effect, found, acts, rfl⟩
      refine tracks_drop tracks rfl ?_ rfl (State.drop_count _ _)
      have rewritten := owners_setCrossing found effect.crossing
      rw [← acts.owned, add_comm effect.crossing.owned, ← add_assoc] at rewritten
      exact add_right_cancel rewritten
  | forward index =>
      have owners := owners_forward ran stepped
      rcases step_forward stepped with ⟨_, _, _, _, _, _, _, _, _, rfl⟩
      exact ⟨ledger, Relation.ReflTransGen.refl, tracks.registered, owners.trans tracks.owners,
        tracks.released, tracks.count⟩
  | closeLoop loop =>
      cases stepped
      exact ⟨ledger, Relation.ReflTransGen.refl, tracks.registered, tracks.owners, tracks.released,
        tracks.count⟩
  | runCallback loop =>
      rcases step_runCallback stepped with ⟨callback, rest, crossing, _, found, rfl⟩
      refine ⟨ledger, Relation.ReflTransGen.refl, tracks.registered, ?_, tracks.released,
        tracks.count⟩
      have rewritten := owners_setCrossing found (crossing.runCallback callback.payload)
      rw [Crossing.owned_runCallback] at rewritten
      exact (add_right_cancel rewritten).trans tracks.owners

/-- Every reachable state stands for a ledger, reached by the ledger's own
moves. -/
theorem run_tracks {events : List Event} {state : State}
    (ran : machine.run .initial events = some state) :
    ∃ ledger, Relation.ReflTransGen Ledger.Moves .empty ledger ∧ Tracks state ledger := by
  refine machine.run_invariant_reached
    (fun state => ∃ ledger, Relation.ReflTransGen Ledger.Moves .empty ledger ∧ Tracks state ledger)
    (fun early state event next before holds stepped => ?_) ⟨.empty, .refl, tracks_initial⟩ ran
  rcases holds with ⟨ledger, reached, tracks⟩
  rcases tracks_step before tracks stepped with ⟨ledger', moved, tracks'⟩
  exact ⟨ledger', reached.trans moved, tracks'⟩

/-! ## One place for each guard -/

/-- What the three places of a crossing hold at each stage. -/
def Crossing.Shaped (crossing : Crossing) : Prop :=
  match crossing.stage with
  | .submitting => crossing.handoff = none ∧ crossing.proxy = .absent
  | .proxied | .polling => crossing.handoff = none ∧ crossing.proxy = .live
  | .refused => crossing.wrapper = .dropped ∧ crossing.handoff = none
  | .ready | .committed => crossing.wrapper = .dropped ∧ crossing.proxy = .live
  | .delivering _ =>
      crossing.wrapper = .dropped ∧ crossing.handoff = none ∧ crossing.proxy = .live
  | .finished _ =>
      crossing.wrapper = .dropped ∧ (crossing.handoff = none ∨ crossing.proxy = .live)

theorem Acts.shaped {count : Int} {submitted : Nat} {eventLoop : EventLoop} {index : CrossingId}
    {crossing : Crossing} {action : Action} {effect : Effect} (shaped : crossing.Shaped)
    (acts : Acts count submitted eventLoop index crossing action effect) :
    effect.crossing.Shaped := by
  cases acts with
  | cancel pending => exact shaped
  | freeProxy stage live =>
      rcases stage with refused | ⟨delivery, finished⟩
      · simp only [Crossing.Shaped, refused] at shaped ⊢
        exact ⟨shaped.1, trivial⟩
      · simp only [Crossing.Shaped, finished] at shaped ⊢
        exact ⟨shaped.1, Or.inl trivial⟩
  | refuse stage => exact ⟨rfl, rfl⟩
  | _ => simp_all [Crossing.Shaped, Crossing.complete]

theorem Crossing.Shaped.emptied {crossing : Crossing} (shaped : crossing.Shaped) : crossing.emptied.Shaped := by
  unfold Crossing.Shaped Crossing.emptied at *
  dsimp only
  split at shaped <;> simp_all

theorem Crossing.Shaped.forwarded {crossing : Crossing} {call : Call} (shaped : crossing.Shaped)
    (stage : crossing.stage = .delivering call) (after : Call) :
    ({ crossing with stage := .delivering after } : Crossing).Shaped := by
  unfold Crossing.Shaped at shaped ⊢
  rw [stage] at shaped
  exact shaped

theorem run_shaped {events : List Event} {state : State}
    (ran : machine.run .initial events = some state) :
    ∀ crossing ∈ state.crossings, crossing.Shaped := by
  intro crossing member
  rcases List.getElem?_of_mem member with ⟨index, found⟩
  exact every_crossing Crossing.Shaped (fun _ _ _ _ _ => ⟨rfl, rfl⟩)
    (fun shaped acts => acts.shaped shaped) (fun _ shaped => shaped.emptied)
    (fun _ _ _ _ _ _ shaped stage => shaped.forwarded stage _) (fun _ _ shaped => shaped) ran found

/-- Where a guard can be.  A slot counts while a proxy or a wrapper can still
reach it.  Call 0 of a delivery is that of its own proxy, call 1 the one that it
makes on the proxy under it, and so on. -/
inductive Place
  | wrapper (index : CrossingId)
  | handoff (index : CrossingId)
  | call (index : CrossingId) (frame : Nat)
deriving DecidableEq

namespace Place

def index : Place -> CrossingId
  | .wrapper index | .handoff index | .call index _ => index

/-- The guard in a place of a crossing. -/
def guard (crossing : Crossing) : Place -> Option Guard
  | .wrapper _ => crossing.wrapper.captured
  | .handoff _ =>
      if crossing.proxy = .live ∨ crossing.wrapper ≠ .dropped then crossing.handoff else none
  | .call _ frame => (crossing.stage.callGuards[frame]?).join

end Place

/-- The place owns the guard. -/
def State.Owns (state : State) (guard : Guard) (place : Place) : Prop :=
  ∃ crossing, state.crossings[place.index]? = some crossing ∧ place.guard crossing = some guard

/-- The guards that were registered and have not been dropped. -/
def State.liveGuards (state : State) : Multiset Guard :=
  (Multiset.range state.registered).filter (· ∉ state.released)

theorem mem_held {parked : Option Guard} {guard : Guard} : guard ∈ held parked <-> parked = some guard := by
  unfold held
  rw [Multiset.mem_coe, Option.mem_toList]

/-- The guards of the running calls, call by call. -/
theorem mem_callGuards {frames : List (Option Guard)} {guard : Guard} :
    guard ∈ (frames.map held).sum <-> ∃ frame : Nat, (frames[frame]?).join = some guard := by
  rw [mem_sum_iff]
  constructor
  · rintro ⟨frame, parked, found, member⟩
    refine ⟨frame, ?_⟩
    rw [found, mem_held.mp member]
    rfl
  · rintro ⟨frame, here⟩
    exact ⟨frame, some guard, Option.join_eq_some_iff.mp here, mem_held.mpr rfl⟩

theorem mem_owned {crossing : Crossing} {guard : Guard} : guard ∈ crossing.owned <->
    crossing.wrapper.captured = some guard ∨ crossing.handoff = some guard ∨
      ∃ frame : Nat, (crossing.stage.callGuards[frame]?).join = some guard := by
  unfold Crossing.owned Crossing.captured
  rw [Multiset.mem_add, Multiset.mem_add, mem_held, mem_callGuards, Multiset.mem_coe, Option.mem_toList,
    or_assoc]

theorem Place.handoff_of_guard {crossing : Crossing} {index : CrossingId} {guard : Guard}
    (owns : (Place.handoff index).guard crossing = some guard) : crossing.handoff = some guard := by
  simp only [Place.guard] at owns
  split at owns
  · exact owns
  · cases owns

theorem Place.mem_owned {crossing : Crossing} {place : Place} {guard : Guard}
    (owns : place.guard crossing = some guard) : guard ∈ crossing.owned := by
  rw [Bridge.mem_owned]
  cases place with
  | wrapper index => exact Or.inl owns
  | handoff index => exact Or.inr (Or.inl (Place.handoff_of_guard owns))
  | call index frame => exact Or.inr (Or.inr ⟨frame, owns⟩)

/-- A slot that nobody can reach is empty. -/
theorem Crossing.Shaped.reachable {crossing : Crossing} (shaped : crossing.Shaped) {guard : Guard}
    (parked : crossing.handoff = some guard) : crossing.proxy = .live := by
  unfold Crossing.Shaped at shaped
  split at shaped <;> simp_all

/-- A wrapper with a guard has not filled the slot, and nobody delivers. -/
theorem Crossing.Shaped.captured {crossing : Crossing} (shaped : crossing.Shaped) {guard : Guard}
    (inside : crossing.wrapper.captured = some guard) :
    crossing.handoff = none ∧ crossing.stage.callGuards = [] := by
  unfold Crossing.Shaped at shaped
  split at shaped <;> simp_all [Wrapper.captured, Stage.callGuards]

/-- A call empties the slot first. -/
theorem Crossing.Shaped.parked {crossing : Crossing} (shaped : crossing.Shaped) {guard : Guard}
    (parked : crossing.handoff = some guard) : crossing.stage.callGuards = [] := by
  unfold Crossing.Shaped at shaped
  split at shaped <;> simp_all [Stage.callGuards]

theorem place_of_mem_owned {crossing : Crossing} (shaped : crossing.Shaped) (index : CrossingId)
    {guard : Guard} (member : guard ∈ crossing.owned) :
    ∃ place : Place, place.index = index ∧ place.guard crossing = some guard := by
  rcases mem_owned.mp member with inWrapper | inSlot | ⟨frame, inCall⟩
  · exact ⟨.wrapper index, rfl, inWrapper⟩
  · refine ⟨.handoff index, rfl, ?_⟩
    rw [Place.guard, if_pos (Or.inl (shaped.reachable inSlot)), inSlot]
  · exact ⟨.call index frame, rfl, inCall⟩

/-- A guard is in one place of a crossing. -/
theorem place_unique {crossing : Crossing} (shaped : crossing.Shaped) (nodup : crossing.owned.Nodup)
    {first second : Place} {guard : Guard} (sameIndex : first.index = second.index)
    (atFirst : first.guard crossing = some guard) (atSecond : second.guard crossing = some guard) :
    first = second := by
  have noCall : forall {index frame}, crossing.stage.callGuards = [] ->
      (Place.call index frame).guard crossing ≠ some guard := by
    intro index frame idle owns
    simp only [Place.guard, idle] at owns
    cases owns
  cases first with
  | wrapper index =>
      have others := shaped.captured atFirst
      cases second with
      | wrapper other => exact congrArg Place.wrapper sameIndex
      | handoff other => cases others.1.symm.trans (Place.handoff_of_guard atSecond)
      | call other frame => exact absurd atSecond (noCall others.2)
  | handoff index =>
      have parked := Place.handoff_of_guard atFirst
      cases second with
      | wrapper other => cases (shaped.captured atSecond).1.symm.trans parked
      | handoff other => exact congrArg Place.handoff sameIndex
      | call other frame => exact absurd atSecond (noCall (shaped.parked parked))
  | call index frame =>
      cases second with
      | wrapper other => exact absurd atFirst (noCall (shaped.captured atSecond).2)
      | handoff other => exact absurd atFirst (noCall (shaped.parked (Place.handoff_of_guard atSecond)))
      | call other frame' =>
          have calls : (crossing.stage.callGuards.map held).sum.Nodup :=
            (Multiset.nodup_add.mp nodup).2.1
          have sameFrame := index_unique held calls (Option.join_eq_some_iff.mp atFirst)
            (Option.join_eq_some_iff.mp atSecond) (mem_held.mpr rfl) (mem_held.mpr rfl)
          rw [show index = other from sameIndex, sameFrame]

/-- The owners of a state are what its places hold. -/
theorem mem_owners_iff {state : State} (shaped : ∀ crossing ∈ state.crossings, crossing.Shaped)
    (guard : Guard) : guard ∈ state.owners <-> ∃ place, state.Owns guard place := by
  unfold State.owners
  rw [mem_sum_iff]
  constructor
  · rintro ⟨index, crossing, found, member⟩
    rcases place_of_mem_owned (shaped crossing (List.mem_of_getElem? found)) index member with
      ⟨place, rfl, owns⟩
    exact ⟨place, crossing, found, owns⟩
  · rintro ⟨place, crossing, found, owns⟩
    exact ⟨place.index, crossing, found, Place.mem_owned owns⟩

theorem owns_unique {state : State} (shaped : ∀ crossing ∈ state.crossings, crossing.Shaped)
    (nodup : state.owners.Nodup) {guard : Guard} {first second : Place}
    (atFirst : state.Owns guard first) (atSecond : state.Owns guard second) : first = second := by
  rcases atFirst with ⟨left, foundLeft, ownsLeft⟩
  rcases atSecond with ⟨right, foundRight, ownsRight⟩
  have sameIndex : first.index = second.index :=
    index_unique Crossing.owned nodup foundLeft foundRight (Place.mem_owned ownsLeft)
      (Place.mem_owned ownsRight)
  have same : left = right := Option.some.inj (foundLeft.symm.trans (sameIndex ▸ foundRight))
  subst same
  have share : left.owned ≤ state.owners := share_le_sum Crossing.owned foundLeft
  exact place_unique (shaped left (List.mem_of_getElem? foundLeft)) (Multiset.nodup_of_le share nodup) sameIndex
    ownsLeft ownsRight

/-! ## The accounting -/

/-- Exact accounting, in one state. -/
structure State.Accounted (state : State) : Prop where
  count : state.inFlight.count = state.liveGuards.card
  owned : ∀ guard ∈ state.liveGuards, ∃! place, state.Owns guard place
  live : forall guard place, state.Owns guard place -> guard ∈ state.liveGuards
  once : state.released.Nodup
  issued : ∀ guard ∈ state.released, guard < state.registered
  nonneg : 0 ≤ state.inFlight.count
  gone : (∀ crossing ∈ state.crossings, crossing.wrapper = .dropped ∧ crossing.proxy ≠ .live) ->
    state.inFlight.count = 0 ∧ state.released = Multiset.range state.registered

theorem Tracks.liveGuards {state : State} {ledger : Ledger} (tracks : Tracks state ledger) :
    state.liveGuards = ledger.held := by
  unfold State.liveGuards
  rw [tracks.registered, tracks.released]
  exact ledger.held_eq_filter.symm

/-- With every wrapper and every proxy gone, nobody owns a guard. -/
theorem owners_of_gone {state : State} (shaped : ∀ crossing ∈ state.crossings, crossing.Shaped)
    (gone : ∀ crossing ∈ state.crossings, crossing.wrapper = .dropped ∧ crossing.proxy ≠ .live) :
    state.owners = 0 := by
  refine Multiset.eq_zero_of_forall_notMem (fun guard member => ?_)
  rcases (mem_owners_iff shaped guard).mp member with ⟨place, crossing, found, owns⟩
  have inside := List.mem_of_getElem? found
  have shape := shaped crossing inside
  have absent := gone crossing inside
  cases place with
  | wrapper index =>
      have empty : crossing.wrapper.captured = none := by rw [absent.1]; rfl
      cases empty.symm.trans owns
  | handoff index => exact absent.2 (shape.reachable (Place.handoff_of_guard owns))
  | call index frame =>
      -- A running call keeps the proxy alive.
      simp only [Place.guard, Stage.callGuards] at owns
      split at owns
      · rename_i call stage
        simp only [Crossing.Shaped, stage] at shape
        exact absent.2 shape.2.2
      · cases owns

theorem accounted {state : State} {ledger : Ledger} (tracks : Tracks state ledger)
    (shaped : ∀ crossing ∈ state.crossings, crossing.Shaped) : state.Accounted where
  count := by rw [tracks.count, tracks.liveGuards]
  owned := by
    intro guard live
    rw [tracks.liveGuards, ← tracks.owners, mem_owners_iff shaped] at live
    rcases live with ⟨place, owns⟩
    exact ⟨place, owns, fun other owns' =>
      owns_unique shaped (tracks.owners ▸ ledger.held_nodup) owns' owns⟩
  live := by
    intro guard place owns
    rw [tracks.liveGuards, ← tracks.owners, mem_owners_iff shaped]
    exact ⟨place, owns⟩
  once := tracks.released ▸ ledger.released_nodup
  issued := by
    intro guard member
    rw [tracks.registered]
    exact ledger.released_lt (tracks.released ▸ member)
  nonneg := by
    rw [tracks.count]
    exact Int.natCast_nonneg _
  gone := by
    intro gone
    have empty : ledger.held = 0 := tracks.owners ▸ owners_of_gone shaped gone
    have balanced := ledger.balanced
    rw [empty, zero_add] at balanced
    exact ⟨by rw [tracks.count, empty]; rfl, by rw [tracks.released, balanced, tracks.registered]⟩

/-! ## Untracked futures -/

/-- The crossing whose proxy a running call is about to call. -/
def State.called (state : State) (index : CrossingId) : Option Crossing := do
  let crossing <- state.crossings[index]?
  match crossing.stage with
  | .delivering ⟨_, _, outer :: _, .loopOpen⟩ => state.crossings[outer]?
  | _ => none

theorem called_eq {state : State} {index : CrossingId} {crossing : Crossing} {guard : Option Guard}
    {nested : List (Option Guard)} {outer : CrossingId} {below : List CrossingId}
    (found : state.crossings[index]? = some crossing)
    (stage : crossing.stage = .delivering ⟨guard, nested, outer :: below, .loopOpen⟩) :
    state.called index = state.crossings[outer]? := by
  unfold State.called
  rw [found]
  simp only [Option.bind_eq_bind, Option.bind_some, stage]

/-- The crossing in whose delivery a call goes on to the proxy under its own. -/
def Event.calling : Event -> Option CrossingId
  | .forward index => some index
  | _ => none

/-- The delivery of an untracked future finds no guard in the slots of the
proxies under its own. -/
def UntrackedSpares (state : State) (event : Event) : Prop :=
  ∀ index ∈ event.calling, ∀ crossing ∈ state.crossings[index]?, crossing.origin ≠ .tracked ->
    ∀ called ∈ state.called index, called.handoff = none

instance (state : State) (event : Event) : Decidable (UntrackedSpares state event) := by
  unfold UntrackedSpares
  infer_instance

/-- An untracked crossing without a guard. -/
def Crossing.Untracked (crossing : Crossing) : Prop :=
  crossing.origin ≠ .tracked -> crossing.owned = 0

theorem Acts.origin {count : Int} {submitted : Nat} {eventLoop : EventLoop} {index : CrossingId}
    {crossing : Crossing} {action : Action} {effect : Effect}
    (acts : Acts count submitted eventLoop index crossing action effect) :
    effect.crossing.origin = crossing.origin := by
  cases acts <;> rfl

/-- What owns nothing keeps owning nothing, and drops nothing. -/
theorem Acts.unowned {count : Int} {submitted : Nat} {eventLoop : EventLoop} {index : CrossingId}
    {crossing : Crossing} {action : Action} {effect : Effect} (unowned : crossing.owned = 0)
    (acts : Acts count submitted eventLoop index crossing action effect) :
    effect.crossing.owned = 0 ∧ effect.dropped = [] := by
  have nothing := acts.owned
  rw [unowned, add_eq_zero_iff_of_nonneg (Multiset.zero_le _) (Multiset.zero_le _)] at nothing
  exact ⟨nothing.1, (Multiset.coe_eq_zero _).mp nothing.2⟩

theorem run_untracked {events : List Event} {state : State}
    (along : machine.Along UntrackedSpares .initial events)
    (ran : machine.run .initial events = some state) {index : CrossingId} {crossing : Crossing}
    (found : state.crossings[index]? = some crossing) : crossing.Untracked := by
  refine machine.run_invariant_along UntrackedSpares
    (fun state => forall index crossing, state.crossings[index]? = some crossing -> crossing.Untracked)
    (fun early state event next _ before holds meets stepped index new foundNew => ?_)
    (by intro index new absurd; cases absurd) along ran index crossing found
  cases step_becomes stepped foundNew with
  | submitted origin site loop under _ _ last =>
      intro untracked
      change origin ≠ .tracked at untracked
      rw [Crossing.owned_submitted, if_neg untracked]
      rfl
  | kept _ old => exact holds index new old
  | acted crossing action effect old _ acts _ =>
      exact fun untracked => (acts.unowned (holds index crossing old (acts.origin ▸ untracked))).1
  | emptied crossing caller calling guard nested below old _ _ _ =>
      intro untracked
      have nothing := holds index crossing old untracked
      rw [← crossing.owned_emptied, add_eq_zero_iff_of_nonneg (Multiset.zero_le _) (Multiset.zero_le _)] at nothing
      exact nothing.1
  | forwarded crossing called guard nested outer below old event_eq stage foundOuter =>
      intro untracked
      subst event_eq
      have spared := meets index rfl crossing old untracked called ((called_eq old stage).trans foundOuter)
      rw [Crossing.owned_forwarded stage, spared, holds index crossing old untracked]
      rfl
  | ran crossing loop callback rest _ old _ _ _ => exact holds index crossing old

/-- The events of untracked futures: their submission and their actions. -/
def Event.IsUntracked (state : State) : Event -> Prop
  | .submit origin _ => origin ≠ .tracked
  | .act index _ => ∃ crossing, state.crossings[index]? = some crossing ∧ crossing.origin ≠ .tracked
  | .forward index => ∃ crossing, state.crossings[index]? = some crossing ∧ crossing.origin ≠ .tracked
  | _ => False

theorem untracked_keeps_count {events : List Event} {state next : State} {event : Event}
    (along : machine.Along UntrackedSpares .initial events)
    (ran : machine.run .initial events = some state) (untracked : event.IsUntracked state)
    (stepped : step state event = some next) : next.inFlight.count = state.inFlight.count := by
  cases event with
  | submit origin site =>
      rcases step_submit stepped with ⟨_, _, _, ⟨tracked, _⟩ | ⟨_, rfl⟩⟩
      · exact absurd tracked untracked
      · rfl
  | act index action =>
      rcases untracked with ⟨crossing, found, origin⟩
      rcases step_act stepped with ⟨same, effect, found', acts, rfl⟩
      cases found.symm.trans found'
      have unowned := run_untracked along ran found origin
      rw [State.drop_count, (acts.unowned unowned).2]
      exact Int.sub_zero _
  | forward index =>
      rcases step_forward stepped with ⟨_, _, _, _, _, _, _, _, _, rfl⟩
      rfl
  | closeLoop loop => exact absurd untracked id
  | runCallback loop => exact absurd untracked id

/-- A call that has taken a guard can end by raising, and drops it. -/
theorem taken_released {state : State} {index : CrossingId} {crossing : Crossing} {own : Option Guard}
    {nested : List (Option Guard)} {below : List CrossingId} {guard : Guard}
    (found : state.crossings[index]? = some crossing)
    (stage : crossing.stage = .delivering ⟨own, some guard :: nested, below, .entered⟩) (error : PyErr) :
    ∃ middle last raising, step state (.act index (.isClosed (some error))) = some middle ∧
      step middle (.act index .ret) = some last ∧ middle.crossings[index]? = some raising ∧
        raising.origin = crossing.origin ∧ last.inFlight.count = middle.inFlight.count - 1 := by
  let raising : Crossing :=
    { crossing with
      raised := some error
      stage := .delivering ⟨own, some guard :: nested, below, .returning (.error error)⟩ }
  let ended : Crossing :=
    { raising with stage := .delivering ⟨own, nested, below, .returning (passOn (.error error))⟩ }
  have raised : act state.inFlight.count state.crossings.length (state.loops crossing.loop) index crossing
      (.isClosed (some error)) = some ⟨raising, state.loops crossing.loop, []⟩ := by
    unfold act
    rw [stage]
  have returned : forall count submitted eventLoop,
      act count submitted eventLoop index raising .ret = some ⟨ended, eventLoop, [guard]⟩ := fun _ _ _ => rfl
  let middle : State := ((state.setCrossing index raising).setLoop crossing.loop (state.loops crossing.loop)).drop []
  have raises : step state (.act index (.isClosed (some error))) = some middle :=
    act_step _ found raised (fun _ _ => Bool.and_false _)
  have foundRaising : middle.crossings[index]? = some raising := State.setCrossing_same state found raising
  have returns := act_step .ret foundRaising (returned _ _ _) (fun _ _ => Bool.and_false _)
  exact ⟨middle, _, raising, raises, returns, foundRaising, rfl, State.drop_count _ _⟩

/-- An untracked future that took a guard out of another slot releases it. -/
theorem untracked_changes_count {state next : State} {event : Event} (stepped : step state event = some next)
    (violated : ¬ UntrackedSpares state event) :
    ∃ later final own last, machine.run next later = some final ∧ own.IsUntracked final ∧
      step final own = some last ∧ last.inFlight.count ≠ final.inFlight.count := by
  unfold UntrackedSpares at violated
  push Not at violated
  rcases violated with ⟨index, calls, crossing, found, untracked, called, foundCalled, parked⟩
  rcases Option.ne_none_iff_exists'.mp parked with ⟨guard, parked⟩
  cases event with
  | forward other =>
      cases calls
      rcases step_forward stepped with
        ⟨same, own, nested, outer, below, called', found', stage, foundOuter, rfl⟩
      cases found.symm.trans found'
      rw [called_eq found stage, foundOuter] at foundCalled
      cases foundCalled
      have inside : index < (state.setCrossing outer called.emptied).crossings.length := by
        change index < (state.crossings.set outer called.emptied).length
        rw [List.length_set]
        exact (List.getElem?_eq_some_iff.mp found).1
      let taken : Crossing := { crossing with stage := .delivering ⟨own, called.handoff :: nested, below, .entered⟩ }
      have calling : ((state.setCrossing outer called.emptied).setCrossing index taken).crossings[index]? =
        some taken := List.getElem?_set_self inside
      have stands : taken.stage = .delivering ⟨own, some guard :: nested, below, .entered⟩ := by rw [← parked]
      rcases taken_released calling stands (.runtimeError "") with
        ⟨middle, last, raising, raises, returns, foundRaising, origin, fewer⟩
      refine ⟨[.act index (.isClosed (some (.runtimeError "")))], middle, .act index .ret, last,
        (machine.run_cons).mpr ⟨middle, raises, rfl⟩, ?_, returns, ?_⟩
      · exact ⟨raising, foundRaising, origin ▸ untracked⟩
      · rw [fewer]
        omega
  | submit | act | closeLoop | runCallback => cases calls

/-- Every reachable state is accounted for.  The futures of
`future_into_py_untracked` never touch the count in runs in which their
deliveries find no guard in the slot of another proxy, and any such guard can
come to be released by them. -/
theorem in_flight_accounting {events : List Event} {state : State}
    (ran : machine.run .initial events = some state) :
    state.Accounted ∧
    (machine.Along UntrackedSpares .initial events -> forall event next, event.IsUntracked state ->
      step state event = some next -> next.inFlight.count = state.inFlight.count) ∧
    forall event next, step state event = some next -> ¬ UntrackedSpares state event ->
      ∃ later final own last, machine.run next later = some final ∧ own.IsUntracked final ∧
        step final own = some last ∧ last.inFlight.count ≠ final.inFlight.count := by
  rcases run_tracks ran with ⟨ledger, _, tracks⟩
  refine ⟨accounted tracks (run_shaped ran), ?_, ?_⟩
  · exact fun along _ _ untracked stepped => untracked_keeps_count along ran untracked stepped
  · exact fun _ _ stepped violated => untracked_changes_count stepped violated

/-- One tracked future that is delivered, one that panics, one that is refused
before it enters the bridge, and a drain that is submitted while the first is
polled and is delivered through its proxy. -/
def mixedEvents : List Event :=
  [.submit .tracked (.running 0), .submit .tracked (.running 0), .submit .tracked (.running 1),
    .act 2 .refuse, .act 0 .buildProxy, .act 0 .enter, .act 1 .buildProxy, .act 1 .enter,
    .submit .drain (.within 0), .act 3 .buildProxy, .act 3 .enter, .act 3 .drainTimeout,
    .act 3 .commit, .act 3 .take, .act 3 (.isClosed none), .forward 3, .act 3 (.isClosed none),
    .act 3 (.enqueue none), .act 3 .ret, .act 0 (.complete (.ok 7)), .act 1 .panic, .act 0 .commit,
    .act 0 .take, .act 0 (.isClosed none), .act 0 (.enqueue none), .act 0 .ret]

theorem in_flight_accounting_mixed :
    ∃ state, machine.run .initial mixedEvents = some state ∧ state.registered = 3 ∧
      state.inFlight.count = 0 ∧ state.Accounted ∧
      forall next, step state (.act 3 .ret) = some next -> next.inFlight.count = state.inFlight.count := by
  let drain : Crossing :=
    ⟨.drain, 0, [0], .dropped, none, .live, .pending,
      .delivering ⟨none, [], [], .returning (.ok ())⟩, some (.drained false), none, none⟩
  have observed : (machine.run .initial mixedEvents).map
      (fun state => (state.registered, state.inFlight.count, state.crossings[3]?)) =
      some (3, 0, some drain) := rfl
  rcases Option.map_eq_some_iff.mp observed with ⟨state, ran, same⟩
  simp only [Prod.mk.injEq] at same
  rcases same with ⟨registered, idle, found⟩
  have accounting := in_flight_accounting ran
  refine ⟨state, ran, registered, idle, accounting.1, fun next stepped => ?_⟩
  exact accounting.2.1 (by decide) (.act 3 .ret) next ⟨drain, found, nofun⟩ stepped

/-- A hook of the tracked future calls `drain_pending`, whose timeout ends while
the result of the future is on its way. -/
def hookDrainEvents : List Event :=
  [.submit .tracked (.running 0), .act 0 .buildProxy, .act 0 .enter, .submit .drain (.within 0),
    .act 1 .buildProxy, .act 1 .enter, .act 0 (.complete (.ok 7)), .act 1 .drainTimeout, .act 1 .commit,
    .act 1 .take, .act 1 (.isClosed none), .forward 1, .act 1 (.isClosed none), .act 1 (.enqueue none)]

/-- The call of the drain's delivery on the proxy of the future drops the guard. -/
theorem drain_releases_a_guard :
    ¬ forall (events : List Event) (state next : State) (event : Event),
      machine.run .initial events = some state -> event.IsUntracked state ->
        step state event = some next -> next.inFlight.count = state.inFlight.count := by
  intro claimed
  let drain : Crossing :=
    ⟨.drain, 0, [0], .dropped, none, .live, .pending,
      .delivering ⟨none, [some 0], [], .returning (.ok ())⟩, some (.drained false), none, none⟩
  have observed : (machine.run .initial hookDrainEvents).map (fun state =>
      (state.inFlight.count, state.crossings[1]?)) = some (1, some drain) := rfl
  have after : (machine.run .initial (hookDrainEvents ++ [.act 1 .ret])).map (fun state =>
      state.inFlight.count) = some 0 := rfl
  rcases Option.map_eq_some_iff.mp observed with ⟨state, ran, same⟩
  rcases Prod.mk.inj same with ⟨count, found⟩
  rcases Option.map_eq_some_iff.mp after with ⟨next, ranOn, fewer⟩
  have stepped := machine.step_of_run_snoc ran ranOn
  have kept := claimed hookDrainEvents state next (.act 1 .ret) ran ⟨drain, found, nofun⟩ stepped
  rw [fewer, count] at kept
  cases kept

end Bridge
end Lkrequest
