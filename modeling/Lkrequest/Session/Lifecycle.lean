import Lkrequest.Foundations.Stateful
import Lkrequest.Session.State

namespace Lkrequest
namespace Session

open Foundations

/-!
# A closed session stays closed

The events of the machine are whole operations, the later parts of the two
operations that are not atomic, and the creation of sessions.  Nothing orders
them: between two steps of a running `close()` there can be any other events,
which covers whatever a finalizer does, on this session or another, and other
threads as well.
-/

/-! ## The machine -/

/-- The operations on a handle.  The two halves of `clear_for_gc` are also
operations of their own, since finalizers run between them. -/
inductive Call
  | get
  | head
  | options
  | post (args : BodyArgs)
  | put (args : BodyArgs)
  | patch (args : BodyArgs)
  | delete (args : BodyArgs)
  | request (method : String) (args : BodyArgs)
  | sendStreaming (method : String) (args : BodyArgs)
  | wsConnect
  | preconnect
  | preconnectMany
  | prefetch
  | enter
  | onRequest (callback : PyObject)
  | onResponse (callback : PyObject)
  | emptyRequestHooks
  | emptyResponseHooks
  | clearForGc

def Call.perform (id : StateId) : Call -> Op
  | .get => Session.get id
  | .head => Session.head id
  | .options => Session.options id
  | .post args => Session.post id args
  | .put args => Session.put id args
  | .patch args => Session.patch id args
  | .delete args => Session.delete id args
  | .request method args => Session.request id method args
  | .sendStreaming method args => Session.sendStreaming id method args
  | .wsConnect => Session.wsConnect id
  | .preconnect => Session.preconnect id
  | .preconnectMany => Session.preconnectMany id
  | .prefetch => Session.prefetch id
  | .enter => Session.enter id
  | .onRequest callback => Session.onRequest id callback
  | .onResponse callback => Session.onResponse id callback
  | .emptyRequestHooks => Session.emptyRequestHooks id
  | .emptyResponseHooks => Session.emptyResponseHooks id
  | .clearForGc => Session.clearForGc id

/-- The operations that would start something or register a callback. -/
def Call.Opens : Call -> Prop
  | .emptyRequestHooks | .emptyResponseHooks | .clearForGc => False
  | _ => True

/-- The arguments raise nothing by themselves. -/
def Call.Acceptable : Call -> Prop
  | .post args | .put args | .patch args | .request _ args => args.Acceptable
  | .delete args => ({ args with multipart := none } : BodyArgs).Acceptable
  | _ => True

inductive Event
  | session (middleware : List PyMiddleware) (onRequest onResponse : Option PyObject)
  | call (id : StateId) (call : Call)
  | finishStreaming (index : Nat)
  | close (id : StateId)
  | advance (index : Nat)

/-- `MiddlewareSlots::release` on one middleware of a session, by halves. -/
def updateSlots (id : StateId) (slot : Nat) (take : MiddlewareSlots -> MiddlewareSlots)
    (world : World) : World :=
  let state := world.states id
  world.setState id { state with middleware := state.middleware.modify slot take }

/-- The next step of a running `close()`: what it does to the world, and where
it stands afterwards. -/
def CloseCall.advance (closing : CloseCall) (world : World) : Option (World × ClosePoint) :=
  match closing.point with
  | .marked => some (after (emptyRequestHooks closing.state) world, .requestHooksEmptied)
  | .requestHooksEmptied => some (after (emptyResponseHooks closing.state) world, .releasing 0)
  | .releasing slot =>
      if slot < (world.states closing.state).middleware.length then
        some (updateSlots closing.state slot .takeRequest world, .releasingResponse slot)
      else some (world, .poolClear)
  | .releasingResponse slot =>
      some (updateSlots closing.state slot .takeResponse world, .releasing (slot + 1))
  | .poolClear => some (world.effect closing.state .poolClear, .returned)
  | .returned => none

def step (world : World) : Event -> Option World
  | .session middleware onRequest onResponse =>
      let state : SessionState :=
        { SessionState.default with
          hooks := ⟨onRequest.toList, onResponse.toList⟩
          middleware := middleware.map .fromPy }
      some { world.setState world.created state with created := world.created + 1 }
  | .call id call => if id < world.created then some (after (call.perform id) world) else none
  | .finishStreaming index => do
      let streaming <- world.streaming[index]?
      some (after (Session.finishStreaming streaming.state streaming.method streaming.args)
        { world with streaming := world.streaming.eraseIdx index })
  | .close id =>
      -- `self.closed.send_replace(true)`
      if id < world.created then
        some { world.setState id { world.states id with closed := true } with
          closings := world.closings ++ [⟨id, .marked⟩] }
      else none
  | .advance index => do
      let closing <- world.closings[index]?
      let (next, point) <- closing.advance world
      some { next with closings := next.closings.set index ⟨closing.state, point⟩ }

def machine : Machine World Event := ⟨step⟩

/-! ## How a state evolves -/

/-- A callback slot that is empty stays empty. -/
def MiddlewareSlots.Later (old new : MiddlewareSlots) : Prop :=
  (old.onRequest = none -> new.onRequest = none) ∧ (old.onResponse = none -> new.onResponse = none)

/-- What no event undoes: the flag, and on a closed session an empty list and
an empty slot. -/
structure Evolves (old new : SessionState) : Prop where
  closed : old.closed = true -> new.closed = true
  requestHooks : old.closed = true -> old.hooks.requestHooks = [] -> new.hooks.requestHooks = []
  responseHooks : old.closed = true -> old.hooks.responseHooks = [] -> new.hooks.responseHooks = []
  middleware : forall (slot : Nat) (slots : MiddlewareSlots), new.middleware[slot]? = some slots ->
    ∃ before, old.middleware[slot]? = some before ∧ before.Later slots

theorem evolves_refl (state : SessionState) : Evolves state state where
  closed := id
  requestHooks := fun _ empty => empty
  responseHooks := fun _ empty => empty
  middleware := fun _ slots found => ⟨slots, found, id, id⟩

theorem Evolves.trans {first second third : SessionState} (early : Evolves first second)
    (late : Evolves second third) : Evolves first third where
  closed := late.closed ∘ early.closed
  requestHooks := fun closed empty =>
    late.requestHooks (early.closed closed) (early.requestHooks closed empty)
  responseHooks := fun closed empty =>
    late.responseHooks (early.closed closed) (early.responseHooks closed empty)
  middleware := by
    intro slot slots found
    rcases late.middleware slot slots found with ⟨middle, foundMiddle, later⟩
    rcases early.middleware slot middle foundMiddle with ⟨before, foundBefore, earlier⟩
    exact ⟨before, foundBefore, later.1 ∘ earlier.1, later.2 ∘ earlier.2⟩

/-- Changing the hooks is fine while the session is open, and emptying them is
always. -/
theorem evolves_hooks {state : SessionState} {hooks : EventHooks}
    (request : state.closed = true -> hooks.requestHooks = [] ∨
      hooks.requestHooks = state.hooks.requestHooks)
    (response : state.closed = true -> hooks.responseHooks = [] ∨
      hooks.responseHooks = state.hooks.responseHooks) :
    Evolves state { state with hooks := hooks } where
  closed := id
  requestHooks := by
    intro closed empty
    rcases request closed with emptied | same
    · exact emptied
    · exact same.trans empty
  responseHooks := by
    intro closed empty
    rcases response closed with emptied | same
    · exact emptied
    · exact same.trans empty
  middleware := fun _ slots found => ⟨slots, found, id, id⟩

theorem evolves_modify {state : SessionState} {slot : Nat}
    {take : MiddlewareSlots -> MiddlewareSlots} (later : forall slots : MiddlewareSlots, slots.Later (take slots)) :
    Evolves state { state with middleware := state.middleware.modify slot take } where
  closed := id
  requestHooks := fun _ empty => empty
  responseHooks := fun _ empty => empty
  middleware := by
    intro other slots found
    rw [List.getElem?_modify] at found
    rcases Option.map_eq_some_iff.mp found with ⟨before, foundBefore, same⟩
    refine ⟨before, foundBefore, ?_⟩
    split at same
    · exact same ▸ later before
    · exact same ▸ ⟨id, id⟩

theorem later_takeRequest (slots : MiddlewareSlots) : slots.Later slots.takeRequest :=
  ⟨fun _ => rfl, id⟩

theorem later_takeResponse (slots : MiddlewareSlots) : slots.Later slots.takeResponse :=
  ⟨id, fun _ => rfl⟩

/-! ## What an operation does -/

/-- An operation on one session: others are untouched, `close()` calls are
nobody's business but their own, and the session evolves. -/
structure Touches (id : StateId) (old new : World) : Prop where
  created : new.created = old.created
  closings : new.closings = old.closings
  others : forall other, other ≠ id -> new.states other = old.states other
  evolves : Evolves (old.states id) (new.states id)

theorem touches_of_same {id : StateId} {old new : World} (created : new.created = old.created)
    (closings : new.closings = old.closings) (states : new.states = old.states) :
    Touches id old new :=
  ⟨created, closings, fun other _ => congrFun states other,
    congrFun states id ▸ evolves_refl _⟩

theorem touches_refl (id : StateId) (world : World) : Touches id world world :=
  touches_of_same rfl rfl rfl

theorem Touches.trans {id : StateId} {first second third : World} (early : Touches id first second)
    (late : Touches id second third) : Touches id first third where
  created := late.created.trans early.created
  closings := late.closings.trans early.closings
  others := fun other different => (late.others other different).trans (early.others other different)
  evolves := early.evolves.trans late.evolves

theorem touches_setState {id : StateId} {world : World} {state : SessionState}
    (evolves : Evolves (world.states id) state) : Touches id world (world.setState id state) where
  created := rfl
  closings := rfl
  others := fun _ different => World.setState_other world state different
  evolves := by
    rw [World.setState_same]
    exact evolves

/-- The flag is looked at and nothing is changed. -/
@[simp] theorem ensureOpen_run (id : StateId) (world : World) :
    (ensureOpen id).run world =
      if (world.states id).closed then .error sessionClosed world else .ok () world := by
  cases closed : (world.states id).closed <;> simp [ensureOpen, closed]

@[simp] theorem orRaise_run {Value : Type} (result : Except PyErr Value) (world : World) :
    (orRaise result).run world =
      match result with
      | .ok value => .ok value world
      | .error error => .error error world := by
  cases result <;> rfl

@[simp] theorem start_run (id : StateId) (operation : Operation) (world : World) :
    (start id operation).run world = .ok () (world.effect id (.starts operation)) := rfl

/-- On a closed session a request raises what its arguments raise, and else that
the session is closed.  Nothing changes in either case. -/
theorem makeRequest_closed {id : StateId} {world : World} (closed : (world.states id).closed = true)
    (method : String) (args : BodyArgs) :
    ∃ error, (makeRequest id method args).run world = .error error world ∧
      (args.Acceptable -> error = sessionClosed) := by
  cases extracted : args.extract with
  | error error =>
      refine ⟨error, by simp [makeRequest, extracted], ?_⟩
      rintro ⟨body, accepted, _⟩
      cases extracted.symm.trans accepted
  | ok body =>
      cases validated : validateBodyParams body with
      | error error =>
          refine ⟨error, by simp [makeRequest, extracted, validated], ?_⟩
          rintro ⟨same, accepted, valid⟩
          cases extracted.symm.trans accepted
          cases validated.symm.trans valid
      | ok _ =>
          refine ⟨sessionClosed, ?_, fun _ => rfl⟩
          simp [makeRequest, extracted, validated, closed]

theorem startChecked_closed {id : StateId} {world : World}
    (closed : (world.states id).closed = true) (operation : Operation) :
    (startChecked id operation).run world = .error sessionClosed world := by
  simp [startChecked, closed]

/-- Every operation that would start something or register a callback raises on
a closed session, and changes nothing at all. -/
theorem call_closed {id : StateId} {world : World} (closed : (world.states id).closed = true)
    {call : Call} (opens : call.Opens) :
    ∃ error, (call.perform id).run world = .error error world ∧
      (call.Acceptable -> error = sessionClosed) := by
  cases call with
  | get =>
      rcases makeRequest_closed closed "GET" .empty with ⟨error, raised, reason⟩
      exact ⟨error, raised, fun _ => reason ⟨_, rfl, rfl⟩⟩
  | head =>
      rcases makeRequest_closed closed "HEAD" .empty with ⟨error, raised, reason⟩
      exact ⟨error, raised, fun _ => reason ⟨_, rfl, rfl⟩⟩
  | options =>
      rcases makeRequest_closed closed "OPTIONS" .empty with ⟨error, raised, reason⟩
      exact ⟨error, raised, fun _ => reason ⟨_, rfl, rfl⟩⟩
  | post args => exact makeRequest_closed closed "POST" args
  | put args => exact makeRequest_closed closed "PUT" args
  | patch args => exact makeRequest_closed closed "PATCH" args
  | delete args => exact makeRequest_closed closed "DELETE" _
  | request method args => exact makeRequest_closed closed method.toUpper args
  | sendStreaming method args =>
      exact ⟨sessionClosed, by simp [Call.perform, sendStreaming, closed], fun _ => rfl⟩
  | wsConnect => exact ⟨sessionClosed, startChecked_closed closed _, fun _ => rfl⟩
  | preconnect => exact ⟨sessionClosed, startChecked_closed closed _, fun _ => rfl⟩
  | preconnectMany => exact ⟨sessionClosed, startChecked_closed closed _, fun _ => rfl⟩
  | prefetch => exact ⟨sessionClosed, startChecked_closed closed _, fun _ => rfl⟩
  | enter => exact ⟨sessionClosed, by simp [Call.perform, enter, closed], fun _ => rfl⟩
  | onRequest callback =>
      exact ⟨sessionClosed, by simp [Call.perform, onRequest, closed], fun _ => rfl⟩
  | onResponse callback =>
      exact ⟨sessionClosed, by simp [Call.perform, onResponse, closed], fun _ => rfl⟩
  | emptyRequestHooks => exact opens.elim
  | emptyResponseHooks => exact opens.elim
  | clearForGc => exact opens.elim

/-- These two read the world only. -/
theorem after_orRaise {Value : Type} (result : Except PyErr Value) (world : World) :
    after (orRaise result) world = world := by
  unfold after
  rw [orRaise_run]
  cases result <;> rfl

theorem after_ensureOpen (id : StateId) (world : World) : after (ensureOpen id) world = world := by
  unfold after
  rw [ensureOpen_run]
  cases (world.states id).closed <;> rfl

/-- An operation touches its own session only, in every world. -/
def Keeps {Value : Type} (id : StateId) (op : EStateM PyErr World Value) : Prop :=
  Within (Touches id) op

section Keeps

variable {First Second : Type} {id : StateId}

theorem keeps_bind {first : EStateM PyErr World First} {second : First -> EStateM PyErr World Second}
    (keepsFirst : Keeps id first) (keepsSecond : forall value, Keeps id (second value)) :
    Keeps id (first >>= second) :=
  within_bind keepsFirst keepsSecond Touches.trans

theorem keeps_modify {change : World -> World} (touches : forall world, Touches id world (change world)) :
    Keeps id (modify change : EStateM PyErr World PUnit) := within_modify touches

theorem keeps_orRaise (result : Except PyErr First) : Keeps id (orRaise result) :=
  within_read (touches_refl id) (after_orRaise result)

theorem keeps_ensureOpen : Keeps id (ensureOpen id) :=
  within_read (touches_refl id) (after_ensureOpen id)

theorem keeps_start (operation : Operation) : Keeps id (start id operation) :=
  keeps_modify (fun _ => touches_of_same rfl rfl rfl)

theorem keeps_makeRequest (method : String) (args : BodyArgs) :
    Keeps id (makeRequest id method args) :=
  keeps_bind (keeps_orRaise _) (fun _ => keeps_bind (keeps_orRaise _) (fun _ =>
    keeps_bind keeps_ensureOpen (fun _ => keeps_start _)))

theorem keeps_startChecked (operation : Operation) : Keeps id (startChecked id operation) :=
  keeps_bind keeps_ensureOpen (fun _ => keeps_start operation)

theorem keeps_finishStreaming (method : String) (args : BodyArgs) :
    Keeps id (finishStreaming id method args) :=
  keeps_bind (keeps_orRaise _) (fun _ => keeps_bind (keeps_orRaise _) (fun _ => keeps_start _))

/-- A hook is registered on an open session only. -/
theorem keeps_register (register : EventHooks -> EventHooks) :
    Keeps id (do
      ensureOpen id
      modify (fun world => world.setState id
        { world.states id with hooks := register (world.states id).hooks })) := by
  intro world
  unfold after
  rw [EStateM.run_bind, ensureOpen_run]
  cases closed : (world.states id).closed with
  | true => exact touches_refl id world
  | false =>
      refine touches_setState (evolves_hooks ?_ ?_)
      · intro impossible
        cases closed.symm.trans impossible
      · intro impossible
        cases closed.symm.trans impossible

theorem keeps_emptyRequestHooks : Keeps id (emptyRequestHooks id) :=
  keeps_modify (fun _ => touches_setState
    (evolves_hooks (fun _ => Or.inl rfl) (fun _ => Or.inr rfl)))

theorem keeps_emptyResponseHooks : Keeps id (emptyResponseHooks id) :=
  keeps_modify (fun _ => touches_setState
    (evolves_hooks (fun _ => Or.inr rfl) (fun _ => Or.inl rfl)))

end Keeps

theorem keeps_call (id : StateId) (call : Call) : Keeps id (call.perform id) := by
  cases call with
  | get | head | options => exact keeps_makeRequest _ _
  | post | put | patch | delete | request => exact keeps_makeRequest _ _
  | sendStreaming method args =>
      exact keeps_bind keeps_ensureOpen
        (fun _ => keeps_modify (fun _ => touches_of_same rfl rfl rfl))
  | wsConnect | preconnect | preconnectMany | prefetch => exact keeps_startChecked _
  | enter => exact keeps_ensureOpen
  | onRequest callback =>
      exact keeps_register
        (fun hooks => { hooks with requestHooks := hooks.requestHooks ++ [callback] })
  | onResponse callback =>
      exact keeps_register
        (fun hooks => { hooks with responseHooks := hooks.responseHooks ++ [callback] })
  | emptyRequestHooks => exact keeps_emptyRequestHooks
  | emptyResponseHooks => exact keeps_emptyResponseHooks
  | clearForGc => exact keeps_bind keeps_emptyRequestHooks (fun _ => keeps_emptyResponseHooks)

/-! ## Running a close -/

/-- The middleware before this one has been released. -/
def ReleasedBelow (state : SessionState) (slot : Nat) : Prop :=
  forall (earlier : Nat) (slots : MiddlewareSlots), earlier < slot ->
    state.middleware[earlier]? = some slots -> slots = .released

/-- What a `close()` has achieved by the time it stands at a point. -/
def Reached (state : SessionState) : ClosePoint -> Prop
  | .marked => state.closed = true
  | .requestHooksEmptied => state.closed = true ∧ state.hooks.requestHooks = []
  | .releasing slot =>
      state.closed = true ∧ state.hooks = ⟨[], []⟩ ∧ ReleasedBelow state slot
  | .releasingResponse slot =>
      state.closed = true ∧ state.hooks = ⟨[], []⟩ ∧ ReleasedBelow state slot ∧
        forall slots, state.middleware[slot]? = some slots -> slots.onRequest = none
  | .poolClear | .returned =>
      state.closed = true ∧ state.hooks = ⟨[], []⟩ ∧ ∀ slots ∈ state.middleware, slots = .released

theorem Reached.closed {state : SessionState} {point : ClosePoint} (reached : Reached state point) :
    state.closed = true := by
  cases point with
  | marked => exact reached
  | _ => exact reached.1

theorem MiddlewareSlots.Later.released {old new : MiddlewareSlots} (later : old.Later new)
    (empty : old = .released) : new = .released := by
  subst empty
  have request := later.1 rfl
  have response := later.2 rfl
  cases new
  simp only at request response
  rw [request, response]
  rfl

theorem Evolves.hooks {old new : SessionState} (evolves : Evolves old new)
    (closed : old.closed = true) (empty : old.hooks = ⟨[], []⟩) : new.hooks = ⟨[], []⟩ := by
  have request := evolves.requestHooks closed (by rw [empty])
  have response := evolves.responseHooks closed (by rw [empty])
  cases hooks : new.hooks with
  | mk requestHooks responseHooks =>
      rw [hooks] at request response
      simp only at request response
      rw [request, response]

theorem ReleasedBelow.evolves {old new : SessionState} {slot : Nat}
    (below : ReleasedBelow old slot) (evolves : Evolves old new) : ReleasedBelow new slot := by
  intro earlier slots less found
  rcases evolves.middleware earlier slots found with ⟨before, foundBefore, later⟩
  exact later.released (below earlier before less foundBefore)

/-- What a `close()` has achieved stays. -/
theorem Reached.evolves {old new : SessionState} {point : ClosePoint} (reached : Reached old point)
    (evolves : Evolves old new) : Reached new point := by
  cases point with
  | marked => exact evolves.closed reached
  | requestHooksEmptied =>
      exact ⟨evolves.closed reached.1, evolves.requestHooks reached.1 reached.2⟩
  | releasing slot =>
      exact ⟨evolves.closed reached.1, evolves.hooks reached.1 reached.2.1,
        reached.2.2.evolves evolves⟩
  | releasingResponse slot =>
      refine ⟨evolves.closed reached.1, evolves.hooks reached.1 reached.2.1,
        reached.2.2.1.evolves evolves, fun slots found => ?_⟩
      rcases evolves.middleware slot slots found with ⟨before, foundBefore, later⟩
      exact later.1 (reached.2.2.2 before foundBefore)
  | poolClear | returned =>
      refine ⟨evolves.closed reached.1, evolves.hooks reached.1 reached.2.1, fun slots member => ?_⟩
      rcases List.getElem?_of_mem member with ⟨slot, found⟩
      rcases evolves.middleware slot slots found with ⟨before, foundBefore, later⟩
      exact later.released (reached.2.2 before (List.mem_of_getElem? foundBefore))

theorem touches_updateSlots (id : StateId) (slot : Nat) {take : MiddlewareSlots -> MiddlewareSlots}
    (later : forall slots : MiddlewareSlots, slots.Later (take slots)) (world : World) :
    Touches id world (updateSlots id slot take world) := touches_setState (evolves_modify later)

theorem CloseCall.touches {closing : CloseCall} {world next : World} {point : ClosePoint}
    (advanced : closing.advance world = some (next, point)) : Touches closing.state world next := by
  unfold CloseCall.advance at advanced
  split at advanced
  · cases advanced
    exact keeps_emptyRequestHooks world
  · cases advanced
    exact keeps_emptyResponseHooks world
  · split at advanced
    · cases advanced
      exact touches_updateSlots _ _ later_takeRequest world
    · cases advanced
      exact touches_refl _ _
  · cases advanced
    exact touches_updateSlots _ _ later_takeResponse world
  · cases advanced
    exact touches_of_same rfl rfl rfl
  · cases advanced

theorem updateSlots_middleware {id : StateId} {slot : Nat}
    {take : MiddlewareSlots -> MiddlewareSlots} {world : World} {slots : MiddlewareSlots}
    (found : ((updateSlots id slot take world).states id).middleware[slot]? = some slots) :
    ∃ before, (world.states id).middleware[slot]? = some before ∧ take before = slots := by
  simp only [updateSlots, World.setState_same, List.getElem?_modify_eq] at found
  exact Option.map_eq_some_iff.mp found

/-- Each step of a `close()` gets it one point further. -/
theorem CloseCall.reaches {closing : CloseCall} {world next : World} {point : ClosePoint}
    (reached : Reached (world.states closing.state) closing.point)
    (advanced : closing.advance world = some (next, point)) :
    Reached (next.states closing.state) point := by
  have kept := reached.evolves (CloseCall.touches advanced).evolves
  unfold CloseCall.advance at advanced
  split at advanced
  · rename_i stands
    rw [stands] at kept
    cases advanced
    refine ⟨kept, ?_⟩
    change ((world.setState _ _).states closing.state).hooks.requestHooks = []
    rw [World.setState_same]
  · rename_i stands
    rw [stands] at kept
    cases advanced
    refine ⟨kept.1, ?_, fun earlier slots below _ => absurd below (Nat.not_lt_zero earlier)⟩
    have request := kept.2
    change ((world.setState _ _).states closing.state).hooks.requestHooks = [] at request
    change ((world.setState _ _).states closing.state).hooks = ⟨[], []⟩
    rw [World.setState_same] at request ⊢
    exact congrArg (EventHooks.mk · []) request
  · rename_i slot stands
    rw [stands] at kept
    split at advanced
    · cases advanced
      refine ⟨kept.1, kept.2.1, kept.2.2, fun slots found => ?_⟩
      rcases updateSlots_middleware found with ⟨before, _, rfl⟩
      rfl
    · rename_i beyond
      cases advanced
      refine ⟨kept.1, kept.2.1, fun slots member => ?_⟩
      rcases List.getElem?_of_mem member with ⟨earlier, found⟩
      have inside := (List.getElem?_eq_some_iff.mp found).1
      exact kept.2.2 earlier slots (by omega) found
  · rename_i slot stands
    rw [stands] at kept
    cases advanced
    refine ⟨kept.1, kept.2.1, fun earlier slots below found => ?_⟩
    rcases Nat.lt_succ_iff_lt_or_eq.mp below with less | rfl
    · exact kept.2.2.1 earlier slots less found
    · have request := kept.2.2.2 slots found
      rcases updateSlots_middleware found with ⟨before, _, rfl⟩
      unfold MiddlewareSlots.takeResponse at request ⊢
      simp only at request
      rw [request]
      rfl
  · rename_i stands
    rw [stands] at kept
    cases advanced
    exact kept
  · cases advanced

/-! ## Whole runs -/

theorem Touches.every {id : StateId} {old new : World} (touches : Touches id old new)
    (other : StateId) : Evolves (old.states other) (new.states other) := by
  by_cases same : other = id
  · exact same ▸ touches.evolves
  · rw [touches.others other same]
    exact evolves_refl _

/-- Sessions are only ever added, and those there are evolve. -/
structure Extends (old new : World) : Prop where
  created : old.created ≤ new.created
  evolves : forall id, id < old.created -> Evolves (old.states id) (new.states id)

theorem extends_refl (world : World) : Extends world world :=
  ⟨Nat.le_refl _, fun _ _ => evolves_refl _⟩

theorem Extends.trans {first second third : World} (early : Extends first second)
    (late : Extends second third) : Extends first third where
  created := Nat.le_trans early.created late.created
  evolves := fun id inside =>
    (early.evolves id inside).trans (late.evolves id (Nat.lt_of_lt_of_le inside early.created))

theorem Touches.extends {id : StateId} {old new : World} (touches : Touches id old new) :
    Extends old new := ⟨Nat.le_of_eq touches.created.symm, fun other _ => touches.every other⟩

theorem evolves_close (state : SessionState) : Evolves state { state with closed := true } where
  closed := fun _ => rfl
  requestHooks := fun _ empty => empty
  responseHooks := fun _ empty => empty
  middleware := fun _ slots found => ⟨slots, found, id, id⟩

/-- What a step does, and what it needs. -/
inductive Steps (world : World) : Event -> World -> Prop
  | session {middleware : List PyMiddleware} {onRequest onResponse : Option PyObject} :
      Steps world (.session middleware onRequest onResponse)
        { world.setState world.created { SessionState.default with
            hooks := ⟨onRequest.toList, onResponse.toList⟩
            middleware := middleware.map .fromPy } with
          created := world.created + 1 }
  | call {id : StateId} {call : Call} (inside : id < world.created) :
      Steps world (.call id call) (after (call.perform id) world)
  | finishStreaming {index : Nat} {streaming : Streaming}
      (found : world.streaming[index]? = some streaming) :
      Steps world (.finishStreaming index)
        (after (Session.finishStreaming streaming.state streaming.method streaming.args)
          { world with streaming := world.streaming.eraseIdx index })
  | close {id : StateId} (inside : id < world.created) :
      Steps world (.close id) { world.setState id { world.states id with closed := true } with
        closings := world.closings ++ [⟨id, .marked⟩] }
  | advance {index : Nat} {closing : CloseCall} {middle : World} {point : ClosePoint}
      (found : world.closings[index]? = some closing)
      (advanced : closing.advance world = some (middle, point)) :
      Steps world (.advance index)
        { middle with closings := middle.closings.set index ⟨closing.state, point⟩ }

theorem step_steps {world next : World} {event : Event} (stepped : step world event = some next) :
    Steps world event next := by
  cases event with
  | session middleware onRequest onResponse =>
      cases stepped
      exact .session
  | call id call =>
      simp only [step] at stepped
      split at stepped
      · rename_i inside
        cases stepped
        exact .call inside
      · cases stepped
  | finishStreaming index =>
      simp only [step, Option.bind_eq_bind, Option.bind_eq_some_iff] at stepped
      rcases stepped with ⟨streaming, found, same⟩
      cases same
      exact .finishStreaming found
  | close id =>
      simp only [step] at stepped
      split at stepped
      · rename_i inside
        cases stepped
        exact .close inside
      · cases stepped
  | advance index =>
      simp only [step, Option.bind_eq_bind, Option.bind_eq_some_iff] at stepped
      rcases stepped with ⟨closing, found, ⟨middle, point⟩, advanced, same⟩
      cases same
      exact .advance found advanced

theorem step_extends {world next : World} {event : Event} (stepped : step world event = some next) :
    Extends world next := by
  cases step_steps stepped with
  | session =>
      refine ⟨Nat.le_succ _, fun id inside => ?_⟩
      change Evolves _ ((world.setState world.created _).states id)
      rw [World.setState_other world _ (Nat.ne_of_lt inside)]
      exact evolves_refl _
  | @call id call inside => exact (keeps_call id call world).extends
  | @finishStreaming index streaming found =>
      have touches : Touches streaming.state world
          { world with streaming := world.streaming.eraseIdx index } :=
        touches_of_same rfl rfl rfl
      exact (touches.trans (keeps_finishStreaming _ _ _)).extends
  | close inside =>
      exact ⟨Nat.le_refl _, fun other _ => (touches_setState (evolves_close _)).every other⟩
  | advance found advanced =>
      have touches := (CloseCall.touches advanced).extends
      exact ⟨touches.created, touches.evolves⟩

/-- Every `close()` has achieved what its point says. -/
def World.Consistent (world : World) : Prop :=
  ∀ closing ∈ world.closings,
    closing.state < world.created ∧ Reached (world.states closing.state) closing.point

theorem World.Consistent.extends {old new : World} (consistent : old.Consistent)
    (stepped : Extends old new) {closing : CloseCall} (member : closing ∈ old.closings) :
    closing.state < new.created ∧ Reached (new.states closing.state) closing.point := by
  have before := consistent closing member
  exact ⟨Nat.lt_of_lt_of_le before.1 stepped.created,
    before.2.evolves (stepped.evolves closing.state before.1)⟩

theorem step_consistent {world next : World} {event : Event} (consistent : world.Consistent)
    (stepped : step world event = some next) : next.Consistent := by
  have extends' := step_extends stepped
  intro closing member
  cases step_steps stepped with
  | session => exact consistent.extends extends' member
  | @call id call inside =>
      exact consistent.extends extends' ((keeps_call id call world).closings ▸ member)
  | @finishStreaming index streaming found =>
      have keeps : Keeps streaming.state
          (finishStreaming streaming.state streaming.method streaming.args) :=
        keeps_finishStreaming _ _
      rw [(keeps _).closings] at member
      exact consistent.extends extends' member
  | @close id inside =>
      rcases List.mem_append.mp member with old | added
      · exact consistent.extends extends' old
      · cases List.mem_singleton.mp added
        refine ⟨inside, ?_⟩
        change ((world.setState id _).states id).closed = true
        rw [World.setState_same]
  | advance found advanced =>
      have present := List.mem_of_getElem? found
      rcases List.mem_or_eq_of_mem_set member with kept | rfl
      · exact consistent.extends extends' ((CloseCall.touches advanced).closings ▸ kept)
      · have reached := CloseCall.reaches (consistent _ present).2 advanced
        exact ⟨(consistent.extends extends' present).1, reached⟩

theorem run_consistent {events : List Event} {world : World}
    (ran : machine.run .initial events = some world) : world.Consistent :=
  machine.run_invariant World.Consistent
    (fun _ _ _ consistent stepped => step_consistent consistent stepped)
    (by intro closing member; cases member) ran

theorem run_extends {events : List Event} {world final : World}
    (ran : machine.run world events = some final) : Extends world final :=
  machine.run_related Extends extends_refl Extends.trans (fun _ _ _ => step_extends) ran

/-! ## A session that was closed -/

/-- The operations that concern one session. -/
def Event.Concerns (world : World) (id : StateId) : Event -> Prop
  | .call other _ => other = id
  | .close other => other = id
  | .advance index => ∃ closing, world.closings[index]? = some closing ∧ closing.state = id
  | .session _ _ _ | .finishStreaming _ => False

/-- Nothing can be started or registered through the session. -/
def World.Refuses (world : World) (id : StateId) : Prop :=
  forall call : Call, call.Opens ->
    ∃ error, (call.perform id).run world = .error error world ∧
      (call.Acceptable -> error = sessionClosed)

/-- A session after `close()` returned. -/
structure World.Sealed (world : World) (id : StateId) : Prop where
  closed : (world.states id).closed = true
  hooks : (world.states id).hooks = ⟨[], []⟩
  middleware : ∀ slots ∈ (world.states id).middleware, slots = .released
  passes : ∀ slots ∈ (world.states id).middleware, forall {Message Error : Type}
    (call : PyObject -> Message -> Except Error Message) (before : MiddlewareSlots)
    (message : Message), MiddlewareSlots.passRequest call before slots message = .ok message ∧
      MiddlewareSlots.passResponse call before slots message = .ok message
  refuses : world.Refuses id
  frame : forall event next, event.Concerns world id -> step world event = some next ->
    next.states = world.states
  silent : forall event next, event.Concerns world id -> step world event = some next ->
    next.effects = world.effects ∨ next.effects = world.effects ++ [(id, .poolClear)]

theorem setState_unchanged {world : World} {id : StateId} {state : SessionState}
    (same : state = world.states id) : (world.setState id state).states = world.states := by
  subst same
  exact Function.update_eq_self id world.states

theorem emptyRequestHooks_unchanged {world : World} {id : StateId}
    (empty : (world.states id).hooks = ⟨[], []⟩) :
    (after (emptyRequestHooks id) world).states = world.states := by
  apply setState_unchanged
  rw [empty, ← empty]

theorem emptyResponseHooks_unchanged {world : World} {id : StateId}
    (empty : (world.states id).hooks = ⟨[], []⟩) :
    (after (emptyResponseHooks id) world).states = world.states := by
  apply setState_unchanged
  rw [empty, ← empty]

/-- An operation on a shut session leaves every session and the network alone. -/
theorem call_shut {world : World} {id : StateId} (closed : (world.states id).closed = true)
    (empty : (world.states id).hooks = ⟨[], []⟩) (call : Call) :
    (after (call.perform id) world).states = world.states ∧
      (after (call.perform id) world).effects = world.effects := by
  by_cases opens : call.Opens
  · rcases call_closed closed opens with ⟨error, raised, _⟩
    have unchanged : after (call.perform id) world = world := by
      unfold after
      rw [raised]
    rw [unchanged]
    exact ⟨rfl, rfl⟩
  · cases call with
    | emptyRequestHooks => exact ⟨emptyRequestHooks_unchanged empty, rfl⟩
    | emptyResponseHooks => exact ⟨emptyResponseHooks_unchanged empty, rfl⟩
    | clearForGc =>
        have first := emptyRequestHooks_unchanged empty
        have second : (after (emptyResponseHooks id) (after (emptyRequestHooks id) world)).states =
            (after (emptyRequestHooks id) world).states :=
          emptyResponseHooks_unchanged (by rw [first, empty])
        exact ⟨second.trans first, rfl⟩
    | _ => exact absurd trivial opens

theorem updateSlots_unchanged {world : World} {id : StateId} {slot : Nat}
    {take : MiddlewareSlots -> MiddlewareSlots} (fixed : take .released = .released)
    (released : ∀ slots ∈ (world.states id).middleware, slots = .released) :
    (updateSlots id slot take world).states = world.states := by
  apply setState_unchanged
  have same : (world.states id).middleware.modify slot take = (world.states id).middleware := by
    apply List.ext_getElem?
    intro index
    rw [List.getElem?_modify]
    cases found : (world.states id).middleware[index]? with
    | none => rfl
    | some slots =>
        have empty := released slots (List.mem_of_getElem? found)
        rw [empty]
        simp [fixed]
  rw [same]

/-- Another `close()`, at whatever point it stands, finds nothing to do but
clear the pool. -/
theorem advance_shut {world next : World} {closing : CloseCall} {point : ClosePoint}
    (empty : (world.states closing.state).hooks = ⟨[], []⟩)
    (released : ∀ slots ∈ (world.states closing.state).middleware, slots = .released)
    (advanced : closing.advance world = some (next, point)) :
    next.states = world.states ∧
      (next.effects = world.effects ∨ next.effects = world.effects ++ [(closing.state, .poolClear)]) := by
  unfold CloseCall.advance at advanced
  split at advanced
  · cases advanced
    exact ⟨emptyRequestHooks_unchanged empty, Or.inl rfl⟩
  · cases advanced
    exact ⟨emptyResponseHooks_unchanged empty, Or.inl rfl⟩
  · split at advanced
    · cases advanced
      exact ⟨updateSlots_unchanged rfl released, Or.inl rfl⟩
    · cases advanced
      exact ⟨rfl, Or.inl rfl⟩
  · cases advanced
    exact ⟨updateSlots_unchanged rfl released, Or.inl rfl⟩
  · cases advanced
    exact ⟨rfl, Or.inr rfl⟩
  · cases advanced

theorem concerns_shut {world next : World} {id : StateId} {event : Event}
    (closed : (world.states id).closed = true) (empty : (world.states id).hooks = ⟨[], []⟩)
    (released : ∀ slots ∈ (world.states id).middleware, slots = .released)
    (concerns : event.Concerns world id) (stepped : step world event = some next) :
    next.states = world.states ∧
      (next.effects = world.effects ∨ next.effects = world.effects ++ [(id, .poolClear)]) := by
  cases step_steps stepped with
  | session => exact concerns.elim
  | finishStreaming found => exact concerns.elim
  | @call other call inside =>
      cases concerns
      have unchanged := call_shut closed empty call
      exact ⟨unchanged.1, Or.inl unchanged.2⟩
  | close inside =>
      cases concerns
      exact ⟨setState_unchanged (by rw [← closed]), Or.inl rfl⟩
  | advance found' advanced =>
      rcases concerns with ⟨closing, found, rfl⟩
      cases found.symm.trans found'
      have unchanged := advance_shut empty released advanced
      exact unchanged

theorem sealed_of_returned {world : World} {id : StateId}
    (reached : Reached (world.states id) .returned) : world.Sealed id where
  closed := reached.1
  hooks := reached.2.1
  middleware := reached.2.2
  passes := by
    intro slots member Message Error call before message
    rw [reached.2.2 slots member]
    exact ⟨MiddlewareSlots.bridge_none call _ message, MiddlewareSlots.bridge_none call _ message⟩
  refuses := fun call opens => call_closed reached.1 opens
  frame := fun _ _ concerns stepped =>
    (concerns_shut reached.1 reached.2.1 reached.2.2 concerns stepped).1
  silent := fun _ _ concerns stepped =>
    (concerns_shut reached.1 reached.2.1 reached.2.2 concerns stepped).2

/-- From the moment a `close()` has set the flag, in every later world, the
session is closed and refuses; from the moment it has returned, it is sealed. -/
theorem closed_session_stays_closed {early late : List Event} {world final : World}
    (ran : machine.run .initial early = some world)
    (continued : machine.run world late = some final) {closing : CloseCall}
    (called : closing ∈ world.closings) :
    (final.states closing.state).closed = true ∧ final.Refuses closing.state ∧
      (closing.point = .returned -> final.Sealed closing.state) := by
  have reached := ((run_consistent ran).extends (run_extends continued) called).2
  have closed := reached.closed
  refine ⟨closed, fun call opens => call_closed closed opens, fun returned => ?_⟩
  rw [returned] at reached
  exact sealed_of_returned reached

/-- A session with a hook and a middleware is closed; a finalizer registers a
hook and sends a request while the lists are being emptied, and both again
afterwards. -/
def reentrantEvents : List Event :=
  [.session [⟨some 1, some 2⟩] (some 3) none, .call 0 (.onResponse 4), .close 0, .advance 0,
    .call 0 (.onRequest 5), .call 0 .get, .advance 0, .advance 0, .advance 0, .advance 0,
    .advance 0]

def laterEvents : List Event :=
  [.call 0 (.onResponse 6), .call 0 .get, .close 0, .advance 1]

theorem closed_session_stays_closed_reentrantly :
    ∃ world final, machine.run .initial reentrantEvents = some world ∧
      machine.run world laterEvents = some final ∧ final.Sealed 0 := by
  have observed : (machine.run .initial reentrantEvents).map World.closings =
      some [⟨0, .returned⟩] := by decide
  rcases Option.map_eq_some_iff.mp observed with ⟨world, ran, closings⟩
  have completes : (machine.run .initial (reentrantEvents ++ laterEvents)).isSome = true := by
    decide
  rcases Option.isSome_iff_exists.mp completes with ⟨final, whole⟩
  rcases (machine.run_append).mp whole with ⟨same, ran', continued⟩
  cases ran.symm.trans ran'
  have called : (⟨0, .returned⟩ : CloseCall) ∈ world.closings := by
    rw [closings]
    exact List.mem_singleton_self _
  exact ⟨world, final, ran, continued, (closed_session_stays_closed ran continued called).2.2 rfl⟩

end Session
end Lkrequest
