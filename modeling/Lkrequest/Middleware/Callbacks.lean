import Lkrequest.Foundations.Runs
import Lkrequest.Middleware.Observers

namespace Lkrequest
namespace Middleware

open Foundations
open Session (MiddlewareSlots)

/-!
# What a callback returns is sent

A call of a wrapper looks at its slot before the GIL is taken and again under
it, and the slots can be released between any two of its steps.  What it answers
is what the callback returned, read entry by entry, unless a release came before
the callback was fetched.
-/

/-! ## A call while the slots are released -/

inductive Direction
  | request
  | response
deriving DecidableEq

/-- Where a call of a wrapper stands. -/
inductive Passing (Message : Type)
  | entered
  | checked
  | calling (func : PyObject)
  | returned (result : Except Error Message)

/-- The slots, a call, and the callbacks that were called. -/
structure Pass (Message : Type) where
  slots : MiddlewareSlots
  stage : Passing Message
  calls : List PyObject

/-- `has_on_request`, the clone under the GIL, the callback with the conversions,
and the two halves of `release`. -/
inductive PassEvent
  | check
  | fetch
  | finish
  | takeRequest
  | takeResponse
deriving DecidableEq

namespace Direction

/-- The slot of a direction. -/
def look : Direction -> MiddlewareSlots -> Option PyObject
  | request => MiddlewareSlots.onRequest
  | response => MiddlewareSlots.onResponse

/-- The half of `release` that empties it. -/
def take : Direction -> PassEvent
  | request => .takeRequest
  | response => .takeResponse

end Direction

section Passes

variable {Message : Type} (direction : Direction) (call : PyObject -> Message -> Except Error Message)
variable (message : Message)

namespace Pass

def initial (slots : MiddlewareSlots) : Pass Message := ⟨slots, .entered, []⟩

def step (state : Pass Message) : PassEvent -> Option (Pass Message)
  | .check =>
      match state.stage with
      | .entered =>
          if (direction.look state.slots).isNone then some { state with stage := .returned (.ok message) }
          else some { state with stage := .checked }
      | _ => none
  | .fetch =>
      match state.stage with
      | .checked =>
          match direction.look state.slots with
          | none => some { state with stage := .returned (.ok message) }
          | some func => some { state with stage := .calling func }
      | _ => none
  | .finish =>
      match state.stage with
      | .calling func =>
          some { state with stage := .returned (call func message), calls := state.calls ++ [func] }
      | _ => none
  | .takeRequest => some { state with slots := state.slots.takeRequest }
  | .takeResponse => some { state with slots := state.slots.takeResponse }

end Pass

/-- `on_request` or `on_response`, with the conversions in `call`. -/
def passing : Machine (Pass Message) PassEvent := ⟨Pass.step direction call message⟩

/-- A release lands before the callback is fetched. -/
def ReleasedEarly (events : List PassEvent) : Prop :=
  ∃ early late, events = early ++ direction.take :: late ∧ PassEvent.fetch ∉ early

/-- Where a call can stand after the events, for what the slot held. -/
inductive Story (had : Option PyObject) (events : List PassEvent) : Passing Message -> List PyObject -> Prop
  | entered (unfetched : PassEvent.fetch ∉ events) : Story had events .entered []
  | checked (unfetched : PassEvent.fetch ∉ events) (has : had.isSome) : Story had events .checked []
  | calling (func : PyObject) (has : had = some func) (fetched : PassEvent.fetch ∈ events)
      (inTime : ¬ ReleasedEarly direction events) : Story had events (.calling func) []
  | skipped (nothing : had = none ∨ ReleasedEarly direction events) :
      Story had events (.returned (.ok message)) []
  | called (func : PyObject) (has : had = some func) (fetched : PassEvent.fetch ∈ events)
      (inTime : ¬ ReleasedEarly direction events) : Story had events (.returned (call func message)) [func]

/-- The slot is as it was until it is released, and the call is in its story. -/
structure Told (slots : MiddlewareSlots) (events : List PassEvent) (state : Pass Message) : Prop where
  slot : direction.look state.slots = if direction.take ∈ events then none else direction.look slots
  story : Story direction call message (direction.look slots) events state.stage state.calls

variable {direction call message}
variable {slots : MiddlewareSlots} {events : List PassEvent} {state next : Pass Message} {event : PassEvent}

theorem take_ne_fetch : direction.take ≠ .fetch := by
  cases direction <;> exact nofun

theorem releasedEarly_snoc : ReleasedEarly direction (events ++ [event]) <->
    ReleasedEarly direction events ∨ event = direction.take ∧ PassEvent.fetch ∉ events := by
  constructor
  · rintro ⟨early, late, split, unfetched⟩
    rcases List.eq_nil_or_concat late with rfl | ⟨init, last, rfl⟩
    · rcases List.append_inj' split rfl with ⟨rfl, same⟩
      exact Or.inr ⟨(List.cons.inj same).1, unfetched⟩
    · have shape : events ++ [event] = (early ++ direction.take :: init) ++ [last] := by
        rw [split]
        simp
      exact Or.inl ⟨early, init, (List.append_inj' shape rfl).1, unfetched⟩
  · rintro (⟨early, late, rfl, unfetched⟩ | ⟨rfl, unfetched⟩)
    · exact ⟨early, late ++ [event], by simp, unfetched⟩
    · exact ⟨events, [], rfl, unfetched⟩

/-- A release before anything was fetched is an early one. -/
theorem releasedEarly_of_mem (released : direction.take ∈ events) (unfetched : PassEvent.fetch ∉ events) :
    ReleasedEarly direction events := by
  rcases List.append_of_mem released with ⟨early, late, rfl⟩
  exact ⟨early, late, rfl, fun among => unfetched (List.mem_append_left _ among)⟩

theorem ReleasedEarly.mem (early : ReleasedEarly direction events) : direction.take ∈ events := by
  rcases early with ⟨before, after, rfl, _⟩
  exact List.mem_append_right _ List.mem_cons_self

theorem told_initial (slots : MiddlewareSlots) :
    Told direction call message slots [] (Pass.initial slots) where
  slot := rfl
  story := .entered List.not_mem_nil

/-- A release changes nothing for a call that has its callback. -/
theorem Story.release {had : Option PyObject} {stage : Passing Message} {calls : List PyObject}
    (story : Story direction call message had events stage calls) (release : event ≠ .fetch) :
    Story direction call message had (events ++ [event]) stage calls := by
  have unfetched : PassEvent.fetch ∉ events -> PassEvent.fetch ∉ events ++ [event] := by
    intro absent among
    rcases List.mem_append.mp among with before | now
    · exact absent before
    · exact release (List.mem_singleton.mp now).symm
  have inTime : PassEvent.fetch ∈ events -> ¬ ReleasedEarly direction events ->
      ¬ ReleasedEarly direction (events ++ [event]) := by
    intro fetched inTime early
    rcases releasedEarly_snoc.mp early with before | ⟨_, absent⟩
    · exact inTime before
    · exact absent fetched
  cases story with
  | entered absent => exact .entered (unfetched absent)
  | checked absent has => exact .checked (unfetched absent) has
  | calling func has fetched early =>
      exact .calling func has (List.mem_append_left _ fetched) (inTime fetched early)
  | skipped nothing => exact .skipped (nothing.imp_right (fun early => releasedEarly_snoc.mpr (Or.inl early)))
  | called func has fetched early =>
      exact .called func has (List.mem_append_left _ fetched) (inTime fetched early)

/-- What a step does. -/
inductive Steps (direction : Direction) (call : PyObject -> Message -> Except Error Message)
    (message : Message) (state : Pass Message) : PassEvent -> Pass Message -> Prop
  | unset (stands : state.stage = .entered) (none : direction.look state.slots = none) :
      Steps direction call message state .check { state with stage := .returned (.ok message) }
  | set (stands : state.stage = .entered) (has : (direction.look state.slots).isSome) :
      Steps direction call message state .check { state with stage := .checked }
  | gone (stands : state.stage = .checked) (none : direction.look state.slots = none) :
      Steps direction call message state .fetch { state with stage := .returned (.ok message) }
  | fetched {func : PyObject} (stands : state.stage = .checked) (has : direction.look state.slots = some func) :
      Steps direction call message state .fetch { state with stage := .calling func }
  | finished {func : PyObject} (stands : state.stage = .calling func) :
      Steps direction call message state .finish
        { state with stage := .returned (call func message), calls := state.calls ++ [func] }
  | request : Steps direction call message state .takeRequest { state with slots := state.slots.takeRequest }
  | response :
      Steps direction call message state .takeResponse { state with slots := state.slots.takeResponse }

theorem step_steps (stepped : Pass.step direction call message state event = some next) :
    Steps direction call message state event next := by
  unfold Pass.step at stepped
  cases event with
  | takeRequest => exact Option.some.inj stepped ▸ .request
  | takeResponse => exact Option.some.inj stepped ▸ .response
  | check =>
      dsimp only at stepped
      split at stepped
      case h_2 => exact (nomatch stepped)
      case h_1 stands =>
        split at stepped
        case isTrue none => exact Option.some.inj stepped ▸ .unset stands (Option.isNone_iff_eq_none.mp none)
        case isFalse some =>
          have has : (direction.look state.slots).isSome :=
            Option.isSome_iff_ne_none.mpr (fun none => some (Option.isNone_iff_eq_none.mpr none))
          exact Option.some.inj stepped ▸ .set stands has
  | fetch =>
      dsimp only at stepped
      split at stepped
      case h_2 => exact (nomatch stepped)
      case h_1 stands =>
        split at stepped
        case h_1 none => exact Option.some.inj stepped ▸ .gone stands none
        case h_2 func has => exact Option.some.inj stepped ▸ .fetched stands has
  | finish =>
      dsimp only at stepped
      split at stepped
      case h_2 => exact (nomatch stepped)
      case h_1 func stands => exact Option.some.inj stepped ▸ .finished stands

/-- What an event leaves in the slot. -/
theorem Steps.look (steps : Steps direction call message state event next) :
    direction.look next.slots = if event = direction.take then none else direction.look state.slots := by
  cases steps <;> cases direction <;> rfl

theorem Told.emptied (told : Told direction call message slots events state)
    (none : direction.look state.slots = none) (unfetched : PassEvent.fetch ∉ events) :
    direction.look slots = .none ∨ ReleasedEarly direction events := by
  have slot := told.slot
  rw [none] at slot
  by_cases released : direction.take ∈ events
  · exact Or.inr (releasedEarly_of_mem released unfetched)
  · rw [if_neg released] at slot
    exact Or.inl slot.symm

theorem Told.held {func : PyObject} (told : Told direction call message slots events state)
    (has : direction.look state.slots = some func) :
    direction.look slots = some func ∧ direction.take ∉ events := by
  have slot := told.slot
  rw [has] at slot
  by_cases released : direction.take ∈ events
  · rw [if_pos released] at slot
    exact (nomatch slot)
  · rw [if_neg released] at slot
    exact ⟨slot.symm, released⟩

theorem told_step (told : Told direction call message slots events state)
    (steps : Steps direction call message state event next) :
    Told direction call message slots (events ++ [event]) next := by
  constructor
  case slot =>
    rw [steps.look, told.slot]
    by_cases own : event = direction.take
    · rw [if_pos own, if_pos (own ▸ List.mem_append_right _ (List.mem_singleton_self _))]
    · rw [if_neg own]
      have same : direction.take ∈ events ++ [event] <-> direction.take ∈ events := by
        simp [Ne.symm own]
      rw [if_congr same rfl rfl]
  case story =>
    have story := told.story
    cases steps with
    | request => exact story.release nofun
    | response => exact story.release nofun
    | unset stands none =>
        rw [stands] at story
        generalize state.calls = calls at story ⊢
        cases story with
        | entered unfetched =>
            exact .skipped ((told.emptied none unfetched).imp_right
              (fun early => releasedEarly_snoc.mpr (Or.inl early)))
    | set stands has =>
        rw [stands] at story
        rcases Option.isSome_iff_exists.mp has with ⟨func, found⟩
        have had : (direction.look slots).isSome := Option.isSome_iff_exists.mpr ⟨func, (told.held found).1⟩
        generalize state.calls = calls at story ⊢
        cases story.release (show PassEvent.check ≠ .fetch from nofun) with
        | entered unfetched => exact .checked unfetched had
    | gone stands none =>
        rw [stands] at story
        generalize state.calls = calls at story ⊢
        cases story with
        | checked unfetched had =>
            exact .skipped ((told.emptied none unfetched).imp_right
              (fun early => releasedEarly_snoc.mpr (Or.inl early)))
    | @fetched func stands has =>
        rw [stands] at story
        rcases told.held has with ⟨had, unreleased⟩
        have inTime : ¬ ReleasedEarly direction (events ++ [.fetch]) := by
          intro early
          rcases List.mem_append.mp early.mem with before | now
          · exact unreleased before
          · exact take_ne_fetch (List.mem_singleton.mp now)
        generalize state.calls = calls at story ⊢
        cases story with
        | checked unfetched some =>
            exact .calling func had (List.mem_append_right _ (List.mem_singleton_self _)) inTime
    | @finished func stands =>
        rw [stands] at story
        have onward : Story direction call message (direction.look slots) (events ++ [.finish])
            (.calling func) state.calls := story.release nofun
        generalize state.calls = calls at onward ⊢
        cases onward with
        | calling _ had fetched inTime => exact .called func had fetched inTime

theorem told_run (ran : (passing direction call message).run (.initial slots) events = some state) :
    Told direction call message slots events state := by
  induction events using List.reverseRecOn generalizing state with
  | nil => exact Option.some.inj ran ▸ told_initial slots
  | append_singleton events event ih =>
      rcases ((passing direction call message).run_append_cons).mp ran with ⟨middle, next, early, stepped, ended⟩
      cases Option.some.inj ended
      exact told_step (ih early) (step_steps stepped)

end Passes

/-! ## What is read of a returned dict -/

/-- The value that a callback returned under a key. -/
def Returned.field (returned : Returned) (key : String) : Option Field :=
  match returned with
  | .dict info => info.getItem (.text key)
  | _ => Option.none

section Law

variable {Name Value Map : Type} (http : Http Name Value Map)

/-- The headers that are sent: those of the returned dict, or the original ones. -/
structure SentHeaders [DecidableEq Name] (capacity : Nat) (returned : Returned) (before after : Map) :
    Prop where
  fields : forall headers, returned.field "headers" = some (.dict headers) ->
    ((fieldsOf http headers).map Prod.fst).dedup.length ≤ capacity ->
      forall name, http.getAll after name = valuesOf name (fieldsOf http headers)
  original : (forall headers, returned.field "headers" ≠ some (.dict headers)) -> after = before

structure SentRequest [DecidableEq Name] (capacity : Nat) (returned : Returned)
    (req after : MiddlewareRequest Map) : Prop where
  method : after.method = req.method
  url : forall text, returned.field "url" = some (.leaf (.text text)) -> after.url = text
  originalUrl : (forall text, returned.field "url" ≠ some (.leaf (.text text))) -> after.url = req.url
  headers : SentHeaders http capacity returned req.headers after.headers

structure SentResponse [DecidableEq Name] (capacity : Nat) (returned : Returned)
    (resp after : MiddlewareResponse Map) : Prop where
  status : after.status = resp.status
  headers : SentHeaders http capacity returned resp.headers after.headers

/-- What a call answers, for what the slot held, the events and what a callback does. -/
structure Answers {Message : Type} (direction : Direction) (slots : MiddlewareSlots)
    (events : List PassEvent) (outcome : PyObject -> Except PyErr Returned)
    (Sent : Returned -> Message -> Message -> Prop) (message : Message) (calls : List PyObject)
    (result : Except Error Message) : Prop where
  error_iff : (∃ error, result = .error error) <->
    ∃ func ∈ calls, ∃ raised, outcome func = .error raised
  /-- Without a callback and after an early release the call is the identity. -/
  identity : direction.look slots = none ∨ ReleasedEarly direction events ->
    calls = [] ∧ result = .ok message
  /-- A later release does not matter. -/
  called : forall func, direction.look slots = some func -> ¬ ReleasedEarly direction events ->
    calls = [func]
  sent : ∀ func ∈ calls, forall returned, outcome func = .ok returned ->
    ∃ after, result = .ok after ∧ Sent returned message after

variable {http}

/-- What either direction makes of what a callback did. -/
def converted {Message : Type} (fail : PyErr -> Error) (edit : InfoDict -> Message) (message : Message) :
    Except PyErr Returned -> Except Error Message
  | .error raised => .error (fail raised)
  | .ok (.dict returned) => .ok (edit returned)
  | .ok _ => .ok message

theorem converted_error {Message : Type} {fail : PyErr -> Error} {edit : InfoDict -> Message}
    {message : Message} (outcome : Except PyErr Returned) :
    (∃ error, converted fail edit message outcome = .error error) <-> ∃ raised, outcome = .error raised := by
  cases outcome with
  | error raised => exact ⟨fun _ => ⟨raised, rfl⟩, fun _ => ⟨_, rfl⟩⟩
  | ok returned =>
      constructor
      · rintro ⟨error, fails⟩
        cases returned <;> exact (nomatch fails)
      · rintro ⟨raised, same⟩
        exact (nomatch same)

theorem callRequest_error {display : PyErr -> String} {callback : Callback} (func : PyObject)
    (req : MiddlewareRequest Map) : (∃ error, callRequest http display callback func req = .error error) <->
      ∃ raised, callback func (requestDict http req) = .error raised :=
  converted_error _

theorem callResponse_error {display : PyErr -> String} {callback : Callback} (func : PyObject)
    (resp : MiddlewareResponse Map) : (∃ error, callResponse http display callback func resp = .error error) <->
      ∃ raised, callback func (responseDict http resp) = .error raised :=
  converted_error _

variable [DecidableEq Name] {capacity : Nat}

theorem sentHeaders (collects : http.Collects capacity) (info : InfoDict) (before : Map) :
    SentHeaders http capacity (.dict info) before (returnedHeaders http info before) := by
  unfold returnedHeaders
  constructor
  · intro headers found fits name
    have read : info.getItem (.text "headers") = some (.dict headers) := found
    rw [read]
    dsimp only
    rw [newHeaders_fields]
    exact collects _ fits name
  · intro other
    split
    case h_1 headers found => exact absurd found (other headers)
    case h_2 => rfl

/-- Nothing is read of what is not a dict. -/
theorem sentHeaders_unread {returned : Returned} (unread : forall key, returned.field key = none)
    (headers : Map) : SentHeaders http capacity returned headers headers where
  fields := fun _ found => (nomatch (unread "headers").symm.trans found)
  original := fun _ => rfl

theorem callRequest_sent (collects : http.Collects capacity) {display : PyErr -> String} {callback : Callback}
    {func : PyObject} {req : MiddlewareRequest Map} {returned : Returned}
    (returns : callback func (requestDict http req) = .ok returned) :
    ∃ after, callRequest http display callback func req = .ok after ∧
      SentRequest http capacity returned req after := by
  unfold callRequest
  rw [returns]
  cases returned with
  | dict info =>
      refine ⟨_, rfl, rfl, ?_, ?_, sentHeaders collects info req.headers⟩
      · intro text found
        have read : info.getItem (.text "url") = some (.leaf (.text text)) := found
        dsimp only [returnedUrl]
        rw [read]
      · intro other
        dsimp only [returnedUrl]
        split
        case h_1 text found => exact absurd found (other text)
        case h_2 => rfl
  | none => exact ⟨req, rfl, rfl, nofun, fun _ => rfl, sentHeaders_unread (fun _ => rfl) _⟩
  | other => exact ⟨req, rfl, rfl, nofun, fun _ => rfl, sentHeaders_unread (fun _ => rfl) _⟩

theorem callResponse_sent (collects : http.Collects capacity) {display : PyErr -> String} {callback : Callback}
    {func : PyObject} {resp : MiddlewareResponse Map} {returned : Returned}
    (returns : callback func (responseDict http resp) = .ok returned) :
    ∃ after, callResponse http display callback func resp = .ok after ∧
      SentResponse http capacity returned resp after := by
  unfold callResponse
  rw [returns]
  cases returned with
  | dict info => exact ⟨_, rfl, rfl, sentHeaders collects info resp.headers⟩
  | none => exact ⟨resp, rfl, rfl, sentHeaders_unread (fun _ => rfl) _⟩
  | other => exact ⟨resp, rfl, rfl, sentHeaders_unread (fun _ => rfl) _⟩

/-- What a run answers, for what its call does. -/
theorem Told.answers {Message : Type} {direction : Direction}
    {call : PyObject -> Message -> Except Error Message} {message : Message} {slots : MiddlewareSlots}
    {events : List PassEvent} {state : Pass Message} {result : Except Error Message}
    {outcome : PyObject -> Except PyErr Returned} {Sent : Returned -> Message -> Message -> Prop}
    (fails : forall func, (∃ error, call func message = .error error) <->
      ∃ raised, outcome func = .error raised)
    (sends : forall {func returned}, outcome func = .ok returned ->
      ∃ after, call func message = .ok after ∧ Sent returned message after)
    (told : Told direction call message slots events state) (stands : state.stage = .returned result) :
    Answers direction slots events outcome Sent message state.calls result := by
  have story := told.story
  rw [stands] at story
  generalize state.calls = calls at story ⊢
  cases story with
  | skipped nothing =>
      constructor
      case error_iff => simp
      case identity => exact fun _ => ⟨rfl, rfl⟩
      case called =>
        intro func has inTime
        rcases nothing with none | early
        · exact (nomatch none.symm.trans has)
        · exact absurd early inTime
      case sent => exact fun _ among => absurd among List.not_mem_nil
  | called func has fetched inTime =>
      constructor
      case error_iff =>
        rw [fails]
        simp
      case identity =>
        rintro (none | early)
        · exact (nomatch none.symm.trans has)
        · exact absurd early inTime
      case called =>
        intro other same _
        cases has.symm.trans same
        rfl
      case sent =>
        intro other among returned returns
        cases List.mem_singleton.mp among
        exact sends returns

/-- A call that has not returned yet can go on until it does. -/
theorem passing_completes {Message : Type} (direction : Direction)
    (call : PyObject -> Message -> Except Error Message) (message : Message) (state : Pass Message) :
    ∃ events final result, (passing direction call message).run state events = some final ∧
      final.stage = .returned result := by
  rcases state with ⟨slots, stage, calls⟩
  have onward : forall {state next : Pass Message} (event : PassEvent),
      Pass.step direction call message state event = some next ->
      (∃ events final result, (passing direction call message).run next events = some final ∧
        final.stage = .returned result) ->
      ∃ events final result, (passing direction call message).run state events = some final ∧
        final.stage = .returned result := by
    rintro state next event stepped ⟨events, final, result, ran, stands⟩
    exact ⟨event :: events, final, result, (Machine.run_cons _).mpr ⟨next, stepped, ran⟩, stands⟩
  have fromChecked : ∃ events final result,
      (passing direction call message).run ⟨slots, .checked, calls⟩ events = some final ∧
        final.stage = .returned result := by
    cases has : direction.look slots with
    | none =>
        have gone : Pass.step direction call message ⟨slots, .checked, calls⟩ .fetch =
            some ⟨slots, .returned (.ok message), calls⟩ := by
          dsimp only [Pass.step]
          rw [has]
        exact onward .fetch gone ⟨[], _, _, rfl, rfl⟩
    | some func =>
        have fetched : Pass.step direction call message ⟨slots, .checked, calls⟩ .fetch =
            some ⟨slots, .calling func, calls⟩ := by
          dsimp only [Pass.step]
          rw [has]
        exact onward .fetch fetched ⟨[.finish], _, _, rfl, rfl⟩
  cases stage with
  | returned result => exact ⟨[], _, result, rfl, rfl⟩
  | calling func => exact ⟨[.finish], _, _, rfl, rfl⟩
  | checked => exact fromChecked
  | entered =>
      cases has : direction.look slots with
      | none =>
          have unset : Pass.step direction call message ⟨slots, .entered, calls⟩ .check =
              some ⟨slots, .returned (.ok message), calls⟩ := by
            dsimp only [Pass.step]
            rw [has]
            rfl
          exact onward .check unset ⟨[], _, _, rfl, rfl⟩
      | some func =>
          have set : Pass.step direction call message ⟨slots, .entered, calls⟩ .check =
              some ⟨slots, .checked, calls⟩ := by
            dsimp only [Pass.step]
            rw [has]
            rfl
          exact onward .check set fromChecked

/-- What a callback returns is what is sent, in both directions and wherever the
slots are released. -/
theorem what_a_callback_returns_is_sent (collects : http.Collects capacity) (display : PyErr -> String)
    (callback : Callback) :
    (forall slots req events state result,
      (passing .request (callRequest http display callback) req).run (.initial slots) events = some state ->
      state.stage = .returned result ->
        Answers .request slots events (fun func => callback func (requestDict http req))
          (SentRequest http capacity) req state.calls result) ∧
    (forall slots resp events state result,
      (passing .response (callResponse http display callback) resp).run (.initial slots) events = some state ->
      state.stage = .returned result ->
        Answers .response slots events (fun func => callback func (responseDict http resp))
          (SentResponse http capacity) resp state.calls result) ∧
    forall {Message : Type} direction (call : PyObject -> Message -> Except Error Message) message state,
      ∃ events final result, (passing direction call message).run state events = some final ∧
        final.stage = .returned result := by
  refine ⟨?_, ?_, passing_completes⟩
  · intro slots req events state result ran stands
    exact (told_run ran).answers (fun func => callRequest_error func req)
      (fun returns => callRequest_sent collects returns) stands
  · intro slots resp events state result ran stands
    exact (told_run ran).answers (fun func => callResponse_error func resp)
      (fun returns => callResponse_sent collects returns) stands

end Law

/-! ## A callback that edits a request -/

namespace Bytes

/-- A callback that returns these values, whatever it is called with. -/
def returning (info : InfoDict) : Callback := fun _ _ => .ok (.dict info)

/-- A name in two spellings, one that is not valid, and a value that is not a string. -/
def editedHeaders : HeadersDict :=
  ((((OrderedDict.empty.setItem (.text "X-Name") (.text "a")).setItem (.text "no name") (.text "b")).setItem
    (.text "x-name") (.text "c")).setItem (.text "content-type") (.int 3))

def edits : InfoDict :=
  (OrderedDict.empty.setItem (.text "url") (.leaf (.text "http://b/"))).setItem (.text "headers")
    (.dict editedHeaders)

theorem letter_valid : ([97] : List UInt8).all valid = true := by decide

def plainRequest : MiddlewareRequest (List (HeaderName × HeaderValue)) where
  method := "GET"
  url := "http://a/"
  headers := [(contentType, ⟨[97], letter_valid⟩)]

/-- A release after the callback was fetched does not keep its edits from being sent. -/
theorem edits_are_sent :
    ∃ state after, (passing .request (callRequest http (fun _ => "") (returning edits)) plainRequest).run
        (.initial logger) [.check, .fetch, .takeRequest, .finish] = some state ∧
      state.stage = .returned (.ok after) ∧ after.method = "GET" ∧ after.url = "http://b/" ∧
      http.getAll after.headers fullName = [⟨[97], by decide⟩, ⟨[99], by decide⟩] := by
  have law := what_a_callback_returns_is_sent (collects 8) (fun _ => "") (returning edits)
  have answers := law.1 logger plainRequest [.check, .fetch, .takeRequest, .finish] _ _ rfl rfl
  rcases answers.sent 1 (List.mem_singleton_self 1) _ rfl with ⟨after, same, sent⟩
  refine ⟨_, after, rfl, congrArg Passing.returned same, sent.method, sent.url _ (by rfl), ?_⟩
  have names := sent.headers.fields editedHeaders (by rfl) (by decide) fullName
  exact names.trans (by decide)

/-- A `str` of one surrogate. -/
def loneSurrogate : { text : PyStr // text.extract = none } := ⟨⟨[0xd800]⟩, by decide⟩

/-- The code points of a value that is a `str`. -/
def pyStr : PyValue -> Option PyStr
  | .text value => some (.ofString value)
  | .surrogates value => some value.val
  | _ => none

/-- A callback returns a `str` as the URL, and the original is sent. -/
theorem surrogate_url_is_not_sent :
    ∃ state after value, (passing .request
        (callRequest http (fun _ => "")
          (returning (OrderedDict.empty.setItem (.text "url") (.leaf value)))) plainRequest).run
        (.initial logger) [.check, .fetch, .finish] = some state ∧
      state.stage = .returned (.ok after) ∧ pyStr value = some loneSurrogate.val ∧
      PyStr.ofString after.url ≠ loneSurrogate.val ∧ after.url = "http://a/" :=
  ⟨_, plainRequest, .surrogates loneSurrogate, rfl, rfl, rfl, by decide, rfl⟩

end Bytes

end Middleware
end Lkrequest
