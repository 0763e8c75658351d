import Lkrequest.WebSocket.Classes
import Lkrequest.WebSocket.Operations

namespace Lkrequest
namespace WebSocket

open Foundations

/-!
# The contract of a WebSocket connection

An operation that finds the slot empty is refused without a call, one that has
a handle completes on the connection with what its call brought, and nothing is
done under the lock but to clone or to take the slot.  The two classes give the
same results only as long as no `send` or `close` succeeds.
-/

section Contract

variable {Error : Type} {toPyErr : Error -> PyErr} {bodies : Operation -> Body Error} {api : Api}
variable {conn : ConnId} {state : State Error} {index : Nat} {running : Running}

/-! ## What the log says of an operation -/

theorem Story.refused_of_opened {body : Body Error} {stage : Stage} {entries : List (Entry Error)}
    (story : Story body index stage entries) (opened : .opened index none ∈ entries) :
    stage = .returned body.absent ∧ forall own call, .called index own call ∉ entries := by
  cases story with
  | refused => exact ⟨rfl, by simp⟩
  | _ => simp [begun] at opened

theorem Story.opened_of_called {body : Body Error} {stage : Stage} {entries : List (Entry Error)}
    (story : Story body index stage entries) {own : ConnId} {call : Call}
    (called : .called index own call ∈ entries) :
    .opened index (some own) ∈ entries ∧ call = body.call := by
  cases story <;> simp [begun] at called <;> simp [begun, called]

/-- A returned operation was refused, or it returns what it made of the answer to its call. -/
theorem Story.returns {body : Body Error} {result : Result} {entries : List (Entry Error)}
    (story : Story body index (.returned result) entries) :
    .opened index none ∈ entries ∧ result = body.absent ∨
      ∃ own outcome releases, .called index own body.call ∈ entries ∧ .answered index outcome ∈ entries ∧
        body.after outcome = some (releases, result) := by
  generalize same : Stage.returned result = stage at story
  cases story with
  | refused => exact Or.inl ⟨List.mem_cons_self, Stage.returned.inj same⟩
  | keptReturned own outcome result' after =>
      rw [← Stage.returned.inj same] at after ⊢
      exact Or.inr ⟨own, outcome, false, by simp [begun], by simp [begun], after⟩
  | releasedReturned own outcome result' after released =>
      rw [← Stage.returned.inj same] at after ⊢
      exact Or.inr ⟨own, outcome, true, by simp [begun], by simp [begun], after⟩
  | _ => exact (nomatch same)

theorem Story.kept_of_answered {body : Body Error} {stage : Stage} {entries : List (Entry Error)}
    (story : Story body index stage entries) {outcome : Outcome Error} {result : Result}
    (after : body.after outcome = some (false, result)) (answered : .answered index outcome ∈ entries)
    (handle : Option ConnId) : .released index handle ∉ entries := by
  have other : forall {outcome' : Outcome Error} {result' : Result},
      body.after outcome' = some (true, result') -> outcome ≠ outcome' := by
    rintro outcome' result' releases rfl
    rw [after] at releases
    exact (nomatch releases)
  cases story with
  | releasing own outcome' result' releases => exact absurd (by simpa [begun] using answered) (other releases)
  | taking own outcome' result' releases => exact absurd (by simpa [begun] using answered) (other releases)
  | dropping own outcome' result' releases => exact absurd (by simpa [begun] using answered) (other releases)
  | released own outcome' result' releases => exact absurd (by simpa [begun] using answered) (other releases)
  | releasedReturned own outcome' result' releases =>
      exact absurd (by simpa [begun] using answered) (other releases)
  | _ => simp [begun]

/-- A method that releases for every answer that is no exception has released when it returns a value. -/
theorem Story.released_of_ok {body : Body Error} {value : PyValue} {entries : List (Entry Error)}
    (story : Story body index (.returned (.ok value)) entries)
    (absent : forall value, body.absent ≠ .ok value)
    (releases : forall outcome value, body.after outcome ≠ some (false, .ok value)) :
    ∃ handle, .released index handle ∈ entries := by
  generalize same : Stage.returned (.ok value) = stage at story
  cases story with
  | refused => exact absurd (Stage.returned.inj same).symm (absent value)
  | keptReturned own outcome result after =>
      rw [← Stage.returned.inj same] at after
      exact absurd after (releases outcome value)
  | releasedReturned own outcome result after released => exact ⟨released, by simp [begun]⟩
  | _ => exact (nomatch same)

namespace Sound

variable (sound : Sound bodies conn state)

include sound

theorem story (found : state.operations[index]? = some running) :
    Story (bodies running.operation) index running.stage (slice Entry.by_ index state.log) :=
  sound.told.story index running found

theorem slot_own : state.slot = none ∨ state.slot = some conn := by
  have slot := slot_eq sound.released sound.freed sound.counted
  by_cases before : state.log.any Entry.isRelease = true
  · exact Or.inl (slot.trans (if_pos before))
  · exact Or.inr (slot.trans (if_neg before))

theorem sees_slot {handle : Option ConnId}
    (among : .opened index handle ∈ state.log ∨ .released index handle ∈ state.log) :
    handle = none ∧ state.slot = none ∨ handle = some conn := by
  have entry : ∃ entry ∈ state.log, entry = .opened index handle ∨ entry = .released index handle := by
    rcases among with opened | released
    · exact ⟨_, opened, Or.inl rfl⟩
    · exact ⟨_, released, Or.inr rfl⟩
  rcases entry with ⟨entry, inLog, same⟩
  rcases List.append_of_mem inLog with ⟨early, late, split⟩
  have seen := sound.sees early entry late split index handle same
  by_cases before : early.any Entry.isRelease = true
  · rw [if_pos before] at seen
    refine Or.inl ⟨seen, sound.released.any_iff.mp ?_⟩
    rw [split, List.any_append, before]
    rfl
  · rw [if_neg before] at seen
    exact Or.inr seen

theorem refused (found : state.operations[index]? = some running) (opened : .opened index none ∈ state.log) :
    running.stage = .returned (bodies running.operation).absent ∧
      forall own call, .called index own call ∉ state.log := by
  have story := sound.story found
  rcases story.refused_of_opened (mem_slice.mpr ⟨opened, rfl⟩) with ⟨stage, uncalled⟩
  refine ⟨stage, ?_⟩
  intro own call called
  exact uncalled own call (mem_slice.mpr ⟨called, rfl⟩)

theorem called {own : ConnId} {call : Call} (called : .called index own call ∈ state.log) :
    own = conn ∧ .opened index (some conn) ∈ state.log := by
  have inRange := sound.told.known _ called index rfl
  have story := sound.story (List.getElem?_eq_getElem inRange)
  have opened := (mem_slice.mp (story.opened_of_called (mem_slice.mpr ⟨called, rfl⟩)).1).1
  rcases sound.sees_slot (Or.inl opened) with ⟨none, _⟩ | same
  · exact (nomatch none)
  · cases same
    exact ⟨rfl, opened⟩

theorem returns {result : Result} (found : state.operations[index]? = some running)
    (stage : running.stage = .returned result) :
    .opened index none ∈ state.log ∧ result = (bodies running.operation).absent ∨
      ∃ outcome releases, .called index conn (bodies running.operation).call ∈ state.log ∧
        .answered index outcome ∈ state.log ∧
        (bodies running.operation).after outcome = some (releases, result) := by
  have story := sound.story found
  rw [stage] at story
  rcases story.returns with ⟨opened, same⟩ | ⟨own, outcome, releases, called, answered, after⟩
  · exact Or.inl ⟨(mem_slice.mp opened).1, same⟩
  · have onConn := (mem_slice.mp called).1
    rw [(sound.called onConn).1] at onConn
    exact Or.inr ⟨outcome, releases, onConn, (mem_slice.mp answered).1, after⟩

theorem slot_of_released {handle : Option ConnId} (released : .released index handle ∈ state.log) :
    state.slot = none := by
  rcases sound.sees_slot (Or.inr released) with ⟨_, empty⟩ | same
  · exact empty
  · apply sound.released.any_iff.mp
    rw [List.any_eq_true]
    exact ⟨_, released, by rw [same]; rfl⟩

/-- A value of a method that releases before it returns one. -/
theorem slot_of_ok {value : PyValue} (found : state.operations[index]? = some running)
    (stage : running.stage = .returned (.ok value))
    (absent : forall value, (bodies running.operation).absent ≠ .ok value)
    (releases : forall outcome value, (bodies running.operation).after outcome ≠ some (false, .ok value)) :
    state.slot = none := by
  have story := sound.story found
  rw [stage] at story
  rcases story.released_of_ok absent releases with ⟨handle, released⟩
  exact sound.slot_of_released (mem_slice.mp released).1

/-- The connection is freed when nobody has a handle. -/
theorem freed_iff : .freed conn ∈ state.log <->
    state.slot = none ∧ ∀ running ∈ state.operations, running.stage.holds conn = 0 := by
  have handles : state.strong conn = 0 <->
      state.slot = none ∧ ∀ running ∈ state.operations, running.stage.holds conn = 0 := by
    rw [sound.counted conn, Nat.add_eq_zero_iff, List.sum_eq_zero_iff_forall_eq_nat]
    apply and_congr
    · constructor
      · intro nothing
        cases there : state.slot with
        | none => rfl
        | some own =>
            have slot := slot_eq sound.released sound.freed sound.counted
            rw [there] at slot nothing
            by_cases before : state.log.any Entry.isRelease = true
            · rw [if_pos before] at slot
              cases slot
            · rw [if_neg before] at slot
              rw [slot, slotHolds, if_pos rfl] at nothing
              cases nothing
      · intro empty
        rw [empty]
        rfl
    · exact List.forall_mem_map
  have logged : .freed conn ∈ state.log <-> 0 < state.log.countP Entry.isFreed := by
    rw [List.countP_pos_iff]
    constructor
    · intro among
      exact ⟨_, among, rfl⟩
    · rintro ⟨entry, among, isFreed⟩
      cases entry with
      | freed other => exact sound.freed.named other among ▸ among
      | _ => exact Bool.noConfusion isFreed
  rw [logged, sound.freed.once, ← handles]
  by_cases last : state.strong conn = 0
  · simp [last]
  · simp [last]

end Sound

/-! ## Operations complete -/

/-- These events lead to a state in which the operation stands so. -/
def Leads (bodies : Operation -> Body Error) (api : Api) (state : State Error) (events : List (Event Error))
    (index : Nat) (running : Running) : Prop :=
  ∃ final, (Machine.mk (fun state => State.step bodies api state)).run state events = some final ∧
    final.operations[index]? = some running

theorem Leads.cons {next : State Error} {event : Event Error} {rest : List (Event Error)}
    (stepped : state.step bodies api event = some next) (leads : Leads bodies api next rest index running) :
    Leads bodies api state (event :: rest) index running := by
  rcases leads with ⟨final, ran, there⟩
  exact ⟨final, (Machine.run_cons _).mpr ⟨next, stepped, ran⟩, there⟩

theorem dropHandle_operations (state : State Error) (own : ConnId) :
    (state.dropHandle own).operations = state.operations := by
  rw [dropHandle_eq]

theorem dropReleased_operations (state : State Error) (released : Option ConnId) :
    (state.dropReleased released).operations = state.operations := by
  cases released with
  | none => rfl
  | some own => exact dropHandle_operations state own

variable {operation : Operation} {own : ConnId} {result : Result}

/-- After a step of its own the operation is at its next stage. -/
theorem stands_after {next : State Error} {stage : Stage} (found : state.operations[index]? = some running)
    (operations : next.operations = state.operations.set index ⟨operation, stage⟩) :
    next.operations[index]? = some ⟨operation, stage⟩ := by
  rw [operations]
  exact List.getElem?_set_self (List.getElem?_eq_some_iff.mp found).1

theorem step_go (found : state.operations[index]? = some running) :
    state.step bodies api (.go index) = state.go bodies index running := by
  change (state.operations[index]?).bind _ = _
  rw [found]
  rfl

theorem leaving_returns (found : state.operations[index]? = some ⟨operation, .leaving own result⟩) :
    Leads bodies api state [.go index] index ⟨operation, .returned result⟩ := by
  refine Leads.cons (step_go found) ⟨_, rfl, stands_after found ?_⟩
  change (state.dropHandle own).operations.set index _ = _
  rw [dropHandle_operations]

theorem dropping_returns {released : Option ConnId}
    (found : state.operations[index]? = some ⟨operation, .dropping own released result⟩) :
    Leads bodies api state [.go index, .go index] index ⟨operation, .returned result⟩ := by
  have operations : ((state.dropReleased released).setStage index ⟨operation, .dropping own released result⟩
      (.leaving own result)).operations = state.operations.set index ⟨operation, .leaving own result⟩ := by
    change (state.dropReleased released).operations.set index _ = _
    rw [dropReleased_operations]
  exact Leads.cons (step_go found) (leaving_returns (stands_after found operations))

theorem releasing_returns (found : state.operations[index]? = some ⟨operation, .releasing own result⟩)
    (free : state.locked = none) :
    Leads bodies api state [.lock index, .go index, .go index, .go index] index
      ⟨operation, .returned result⟩ := by
  have locks : state.step bodies api (.lock index) =
      some ({ state with locked := some index }.setStage index ⟨operation, .releasing own result⟩
        (.taking own result)) := by
    change (state.operations[index]?).bind _ = _
    rw [found]
    exact if_pos free
  have inside : ({ state with locked := some index }.setStage index ⟨operation, .releasing own result⟩
      (.taking own result)).operations[index]? = some ⟨operation, .taking own result⟩ :=
    stands_after found rfl
  exact Leads.cons locks (Leads.cons (step_go inside) (dropping_returns (stands_after inside rfl)))

/-- The holder of the lock leaves it by its next step, and tears nothing down before. -/
theorem holder_leaves (held : Locked state) {holder : Nat} (locked : state.locked = some holder) :
    ∃ next, state.step bodies api (.go holder) = some next ∧ next.locked = none ∧
      next.log.countP Entry.isFreed = state.log.countP Entry.isFreed ∧
      forall other, other ≠ holder -> next.operations[other]? = state.operations[other]? := by
  rcases (held holder).mp locked with ⟨running, found, locks⟩
  dsimp only at locks
  have others : forall (stage : Stage) (other : Nat), other ≠ holder ->
      (state.operations.set holder { running with stage := stage })[other]? = state.operations[other]? :=
    fun _ _ foreign => List.getElem?_set_ne (Ne.symm foreign)
  rw [step_go found]
  cases stands : running.stage with
  | reading =>
      refine ⟨state.read bodies holder running, ?_, ?_⟩
      · unfold State.go
        rw [stands]
      · unfold State.read
        cases state.slot with
        | none => exact ⟨rfl, List.countP_append, others _⟩
        | some own => exact ⟨rfl, List.countP_append, others _⟩
  | taking own result =>
      refine ⟨({ state with slot := none, locked := none }.setStage holder running
        (.dropping own state.slot result)).record [.released holder state.slot], ?_, rfl, ?_, others _⟩
      · unfold State.go
        rw [stands]
      · exact List.countP_append
  | _ =>
      rw [stands] at locks
      exact Bool.noConfusion locks

/-- What `open` makes of the slot. -/
def opened (bodies : Operation -> Body Error) (operation : Operation) : Option ConnId -> Stage
  | none => .returned (bodies operation).absent
  | some own => .calling own

theorem opening_opens (found : state.operations[index]? = some ⟨operation, .opening⟩)
    (free : state.locked = none) :
    Leads bodies api state [.lock index, .go index] index ⟨operation, opened bodies operation state.slot⟩ := by
  have locks : state.step bodies api (.lock index) =
      some ({ state with locked := some index }.setStage index ⟨operation, .opening⟩ .reading) := by
    change (state.operations[index]?).bind _ = _
    rw [found]
    exact if_pos free
  have inside : ({ state with locked := some index }.setStage index ⟨operation, .opening⟩
      .reading).operations[index]? = some ⟨operation, .reading⟩ := stands_after found rfl
  refine Leads.cons locks (Leads.cons (step_go inside) ⟨_, rfl, stands_after inside ?_⟩)
  unfold State.read
  change (match state.slot with | none => _ | some own => _ : State Error).operations = _
  cases state.slot with
  | none => rfl
  | some own => rfl

/-- The events of an operation, with a step of whoever has the lock. -/
def Unhindered (state : State Error) (index : Nat) (events : List (Event Error)) : Prop :=
  ∀ event ∈ events, event = .lock index ∨ event = .go index ∨
    ∃ holder, state.locked = some holder ∧ event = .go holder

/-- An operation comes to its handle, whoever has the lock. -/
theorem opening_leads (sound : Sound bodies conn state)
    (found : state.operations[index]? = some ⟨operation, .opening⟩) :
    ∃ more slot, Leads bodies api state more index ⟨operation, opened bodies operation slot⟩ ∧
      (slot = none ∨ slot = some conn) ∧ Unhindered state index more := by
  cases locked : state.locked with
  | none =>
      refine ⟨_, state.slot, opening_opens found locked, sound.slot_own, ?_⟩
      simp [Unhindered]
  | some holder =>
      have foreign : index ≠ holder := by
        rintro rfl
        rcases (sound.locked index).mp locked with ⟨other, there, locks⟩
        cases found.symm.trans there
        exact Bool.noConfusion locks
      have leaves : ∃ next, State.step bodies api state (.go holder) = some next ∧ _ :=
        holder_leaves sound.locked locked
      rcases leaves with ⟨next, left, free, _, others⟩
      have later : Leads bodies api next [.lock index, .go index] index
          ⟨operation, opened bodies operation next.slot⟩ :=
        opening_opens ((others index foreign).trans found) free
      refine ⟨_, next.slot, Leads.cons left later, (sound.step left).slot_own, ?_⟩
      simp [Unhindered, locked]

/-- A call that is over leads to the return of its operation, whoever has the
lock and whatever is in the slot.  Only the holder of the lock must leave it. -/
theorem calling_returns (held : Locked state) {outcome : Outcome Error} {releases : Bool}
    (found : state.operations[index]? = some ⟨operation, .calling own⟩)
    (after : (bodies operation).after outcome = some (releases, result)) :
    ∃ more, Leads bodies api state (.answer index outcome :: more) index ⟨operation, .returned result⟩ ∧
      Unhindered state index more := by
  have answered : forall stage, (if releases then .releasing own result else .leaving own result) = stage ->
      state.step bodies api (.answer index outcome) =
        some ((state.setStage index ⟨operation, .calling own⟩ stage).record [.answered index outcome]) := by
    rintro stage rfl
    change (state.operations[index]?).bind _ = _
    rw [found]
    change Option.map _ ((bodies operation).after outcome) = _
    rw [after]
    rfl
  cases releases with
  | false =>
      refine ⟨[.go index], Leads.cons (answered _ rfl) (leaving_returns (stands_after found rfl)), ?_⟩
      intro event among
      exact Or.inr (Or.inl (List.mem_singleton.mp among))
  | true =>
      have releasing := answered (.releasing own result) rfl
      have inside : ((state.setStage index ⟨operation, .calling own⟩ (.releasing own result)).record
          [.answered index outcome]).operations[index]? = some ⟨operation, .releasing own result⟩ :=
        stands_after found rfl
      cases locked : state.locked with
      | none =>
          refine ⟨_, Leads.cons releasing (releasing_returns inside locked), ?_⟩
          simp [Unhindered]
      | some holder =>
          have foreign : index ≠ holder := by
            rintro rfl
            rcases (held index).mp locked with ⟨other, there, locks⟩
            cases found.symm.trans there
            exact Bool.noConfusion locks
          have heldAfter := locked_step held (step_steps releasing)
          have leaves : ∃ next, State.step bodies api _ (.go holder) = some next ∧ _ :=
            holder_leaves heldAfter locked
          rcases leaves with ⟨next, left, free, _, others⟩
          have later : Leads bodies api next [.lock index, .go index, .go index, .go index] index
              ⟨operation, .returned result⟩ :=
            releasing_returns ((others index foreign).trans inside) free
          refine ⟨_, Leads.cons releasing (Leads.cons left later), ?_⟩
          simp [Unhindered, locked]

/-! ## The contract -/

/-- An upstream call brings what it is documented to bring. -/
def Outcome.answers : Outcome Error -> Call -> Bool
  | .message _, .recv => true
  | .message _, _ => false
  | .done _, .recv => false
  | .done _, _ => true

/-- What an operation raises for an empty slot. -/
def Api.refusal (api : Api) : Operation -> PyErr
  | .next => api.stop
  | _ => closed

section Bodies

variable (toPyErr) (api) (operation)

theorem body_absent : (api.body toPyErr operation).absent = .error (api.refusal operation) := by
  cases api <;> cases operation <;> rfl

theorem after_of_answers (outcome : Outcome Error)
    (answers : outcome.answers (api.body toPyErr operation).call = true) :
    ∃ releases result, (api.body toPyErr operation).after outcome = some (releases, result) := by
  cases operation <;> cases api <;> rcases outcome with ⟨error | ⟨⟩⟩ | ⟨error | message⟩ <;>
    first
    | exact Bool.noConfusion answers
    | exact ⟨_, _, rfl⟩
    | cases message <;> exact ⟨_, _, rfl⟩

/-- A `close` keeps the handle of the slot when its call failed. -/
theorem close_after_error (code : Option Nat) (reason : String) (error : Error) :
    (api.body toPyErr (.close code reason)).after (.done (.error error)) =
      some (false, .error (toPyErr error)) := by
  cases api <;> rfl

theorem close_after_ok (code : Option Nat) (reason : String) (outcome : Outcome Error) (value : PyValue) :
    (api.body toPyErr (.close code reason)).after outcome ≠ some (false, .ok value) := by
  cases api <;> rcases outcome with ⟨⟨⟩⟩ | _ <;> nofun

end Bodies

/-- What a connection promises in a state of a run. -/
structure Contract (toPyErr : Error -> PyErr) (api : Api) (conn : ConnId) (state : State Error) : Prop where
  /-- The slot is emptied once, by whatever operations. -/
  released_once : state.log.countP Entry.isRelease = if state.slot = none then 1 else 0
  slot_own : state.slot = none ∨ state.slot = some conn
  stays_empty : forall events later, (connection toPyErr api).run state events = some later ->
    state.slot = none -> later.slot = none
  takes : forall early late index handle, state.log = early ++ .opened index handle :: late ->
    handle = if early.any Entry.isRelease then none else some conn
  refused : forall index running, state.operations[index]? = some running ->
    .opened index none ∈ state.log ->
      running.stage = .returned (.error (api.refusal running.operation)) ∧
        forall own call, .called index own call ∉ state.log
  called : forall index own call, .called index own call ∈ state.log ->
    own = conn ∧ .opened index (some conn) ∈ state.log
  opens : forall index operation, state.operations[index]? = some ⟨operation, .opening⟩ ->
    ∃ more stage,
      Leads (api.body toPyErr) api state more index ⟨operation, stage⟩ ∧
      (stage = .calling conn ∨ stage = .returned (.error (api.refusal operation))) ∧
      Unhindered state index more
  completes : forall index operation own outcome,
    state.operations[index]? = some ⟨operation, .calling own⟩ ->
    outcome.answers (api.body toPyErr operation).call = true ->
      ∃ more,
        Leads (api.body toPyErr) api state (.answer index outcome :: more) index
          ⟨operation, .returned (api.served toPyErr operation outcome)⟩ ∧ Unhindered state index more
  /-- What is returned is the refusal, or what the operation is to return for
  what its call on the connection brought. -/
  returns : forall index operation result, state.operations[index]? = some ⟨operation, .returned result⟩ ->
    .opened index none ∈ state.log ∧ result = .error (api.refusal operation) ∨
      ∃ outcome, .called index conn (api.body toPyErr operation).call ∈ state.log ∧
        .answered index outcome ∈ state.log ∧ result = api.served toPyErr operation outcome
  /-- The lock is held for one step, which neither calls nor frees. -/
  lock_left : forall holder, state.locked = some holder ->
    (∃ running, state.operations[holder]? = some running ∧ running.stage.locks = true) ∧
    ∃ next, (connection toPyErr api).step state (.go holder) = some next ∧ next.locked = none ∧
      next.log.countP Entry.isFreed = state.log.countP Entry.isFreed
  failed_close : forall index code reason stage error,
    state.operations[index]? = some ⟨.close code reason, stage⟩ ->
    .answered index (.done (.error error)) ∈ state.log ->
      forall handle, .released index handle ∉ state.log
  closed_by : forall (index : Nat) (code : Option Nat) (reason : String) (value : PyValue),
    state.operations[index]? = some ⟨.close code reason, .returned (.ok value)⟩ -> state.slot = none
  freed_iff : .freed conn ∈ state.log <->
    state.slot = none ∧ ∀ running ∈ state.operations, running.stage.holds conn = 0
  freed_once : state.log.countP Entry.isFreed ≤ 1 ∧ forall other, .freed other ∈ state.log -> other = conn

/-- A connection keeps its contract in every run of either class. -/
theorem contract_run {events : List (Event Error)}
    (ran : (connection toPyErr api).run (.initial conn) events = some state) :
    Contract toPyErr api conn state := by
  have sound := sound_run ran
  constructor
  case released_once => exact sound.released
  case slot_own => exact sound.slot_own
  case stays_empty =>
    intro events later ran empty
    exact (connection toPyErr api).run_invariant (fun state => state.slot = none)
      (fun _ _ _ empty stepped => slot_none_step empty (step_steps stepped)) empty ran
  case takes =>
    intro early late index handle split
    exact sound.sees early _ late split index handle (Or.inl rfl)
  case refused =>
    intro index running found opened
    rw [← body_absent toPyErr]
    exact sound.refused found opened
  case called => exact fun index own call among => sound.called among
  case opens =>
    intro index operation found
    rcases opening_leads sound found with ⟨more, slot, leads, rfl | rfl, waits⟩
    · exact ⟨more, _, leads, Or.inr (congrArg Stage.returned (body_absent toPyErr api operation)), waits⟩
    · exact ⟨more, _, leads, Or.inl rfl, waits⟩
  case completes =>
    intro index operation own outcome found answers
    rcases after_of_answers toPyErr api operation outcome answers with ⟨releases, result, after⟩
    rcases calling_returns sound.locked found after with ⟨more, leads, waits⟩
    rw [after_served toPyErr after] at leads
    exact ⟨more, leads, waits⟩
  case returns =>
    intro index operation result found
    rcases sound.returns found rfl with ⟨opened, same⟩ | ⟨outcome, releases, called, answered, after⟩
    · exact Or.inl ⟨opened, same.trans (body_absent toPyErr api operation)⟩
    · exact Or.inr ⟨outcome, called, answered, after_served toPyErr after⟩
  case lock_left =>
    intro holder locked
    have leaves : ∃ next, State.step (api.body toPyErr) api state (.go holder) = some next ∧ _ :=
      holder_leaves sound.locked locked
    rcases leaves with ⟨next, stepped, free, freed, _⟩
    exact ⟨(sound.locked holder).mp locked, next, stepped, free, freed⟩
  case failed_close =>
    intro index code reason stage error found answered handle released
    exact (sound.story found).kept_of_answered (close_after_error toPyErr api code reason error)
      (mem_slice.mpr ⟨answered, rfl⟩) handle (mem_slice.mpr ⟨released, rfl⟩)
  case closed_by =>
    intro index code reason value found
    refine sound.slot_of_ok found rfl ?_ (close_after_ok toPyErr api code reason)
    intro value
    rw [body_absent]
    exact nofun
  case freed_iff => exact sound.freed_iff
  case freed_once =>
    refine ⟨?_, sound.freed.named⟩
    rw [sound.freed.once]
    split
    · exact Nat.le_refl 1
    · exact Nat.zero_le 1

/-- A connection keeps its contract in every run, and the same events lead to the
same state in both classes, up to the exception that ends an iteration and to
what `()` becomes.  The results are the same, up to that exception, if and only
if no upstream `send` or `close` succeeds. -/
theorem websocket_lifecycle (toPyErr : Error -> PyErr) (conn : ConnId) (events : List (Event Error)) :
    (forall api state, (connection toPyErr api).run (.initial conn) events = some state ->
      Contract toPyErr api conn state) ∧
    ((forall index, .cancel index ∉ events) ->
      ((connection toPyErr .async).run (.initial conn) events).map (State.mapResult plain) =
        ((connection toPyErr .blocking).run (.initial conn) events).map (State.mapResult plain) ∧
      ((connection toPyErr .async).run (.initial conn) events ≠ none ->
        (((connection toPyErr .async).run (.initial conn) events).map (State.mapResult comparable) =
            ((connection toPyErr .blocking).run (.initial conn) events).map (State.mapResult comparable) <->
          forall index, .answer index (.done (.ok ())) ∉ events))) := by
  constructor
  · intro api state ran
    exact contract_run ran
  · intro uncancelled
    refine ⟨classes_agree toPyErr conn uncancelled, ?_⟩
    intro runs
    rcases Option.ne_none_iff_exists'.mp runs with ⟨state, ran⟩
    exact results_agree_iff toPyErr conn uncancelled ran

/-- A text is sent. -/
def sendOne : List (Event String) :=
  [.start (.sendText "hi"), .lock 0, .go 0, .answer 0 (.done (.ok ())), .go 0]

/-- The future of the one class resolves to the empty tuple, the method of the other returns `None`. -/
theorem sent_text_returns_differ :
    ((connection PyErr.runtimeError .async).run (.initial 7) sendOne).map State.operations =
        some [⟨.sendText "hi", .returned (.ok .emptyTuple)⟩] ∧
      ((connection PyErr.runtimeError .blocking).run (.initial 7) sendOne).map State.operations =
        some [⟨.sendText "hi", .returned (.ok .none)⟩] ∧
      (forall index, .cancel index ∉ sendOne) ∧
      ((connection PyErr.runtimeError .async).run (.initial 7) sendOne).map (State.mapResult comparable) ≠
        ((connection PyErr.runtimeError .blocking).run (.initial 7) sendOne).map (State.mapResult comparable) := by
  have async : ((connection PyErr.runtimeError .async).run (.initial 7) sendOne).map State.operations =
      some [⟨.sendText "hi", .returned (.ok .emptyTuple)⟩] := by
    decide +kernel
  have blocking : ((connection PyErr.runtimeError .blocking).run (.initial 7) sendOne).map State.operations =
      some [⟨.sendText "hi", .returned (.ok .none)⟩] := by
    decide +kernel
  refine ⟨async, blocking, by simp [sendOne], ?_⟩
  rcases Option.map_eq_some_iff.mp async with ⟨one, ranOne, operations⟩
  rcases Option.map_eq_some_iff.mp blocking with ⟨two, ranTwo, operations'⟩
  rw [ranOne, ranTwo]
  intro same
  have alike := congrArg State.operations (Option.some.inj same)
  change one.operations.map _ = two.operations.map _ at alike
  rw [operations, operations'] at alike
  exact (nomatch alike)

/-- A `recv` that waits while one of two concurrent `close` calls releases the handle. -/
def overtaken : List (Event String) :=
  [.start .recv, .start (.close none ""), .start (.close (some 1000) "bye"),
    .lock 0, .go 0, .lock 1, .go 1, .lock 2, .go 2,
    .answer 1 (.done (.ok ())), .lock 1, .go 1, .go 1, .go 1,
    .answer 2 (.done (.error "reset")), .go 2,
    .start (.sendText "late"), .lock 3, .go 3,
    .answer 0 (.message (.ok (.text "hello"))), .go 0]

/-- The `recv` gets its message, the connection is freed after it, and the late call is refused. -/
theorem overtaken_recv_returns :
    ∃ state, (connection PyErr.runtimeError .async).run (.initial 7) overtaken = some state ∧
      Contract PyErr.runtimeError .async 7 state ∧
      (state.slot = none ∧ state.strong 7 = 0 ∧ state.log.countP Entry.isRelease = 1 ∧
        state.log.countP Entry.isFreed = 1) ∧
      ((connection PyErr.runtimeError .async).run (.initial 7) overtaken).map (State.mapResult comparable) ≠
        ((connection PyErr.runtimeError .blocking).run (.initial 7) overtaken).map
          (State.mapResult comparable) := by
  have ran : ((connection PyErr.runtimeError .async).run (.initial 7) overtaken).map (fun state =>
      decide (state.slot = none ∧ state.strong 7 = 0 ∧ state.log.countP Entry.isRelease = 1 ∧
        state.log.countP Entry.isFreed = 1)) = some true := by
    decide +kernel
  rcases Option.map_eq_some_iff.mp ran with ⟨state, ran, facts⟩
  have uncancelled : forall index, .cancel index ∉ overtaken := by simp [overtaken]
  rcases websocket_lifecycle PyErr.runtimeError 7 overtaken with ⟨contract, classes⟩
  refine ⟨state, ran, contract .async state ran, of_decide_eq_true facts, fun same => ?_⟩
  have runs : (connection PyErr.runtimeError .async).run (.initial 7) overtaken ≠ none := by
    rw [ran]
    exact nofun
  exact ((classes uncancelled).2 runs).mp same 1 (by simp [overtaken])

end Contract

end WebSocket
end Lkrequest
