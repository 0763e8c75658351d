import Lkrequest.Foundations.Precedence
import Lkrequest.Session.Traffic

namespace Lkrequest
namespace Session

open Foundations

/-!
# What a request has done

The log of a request is a function of where it stands: it is spelled out for
every point of `execute_request`, and every step of `execute_request` keeps it
so.  How often something was done, and in which order, is read off from there.
-/

/-! ## Steps of execute_request -/

/-- What a step of `execute_request` can do: where it leads, what is logged,
and whether the poll goes on. -/
inductive Advances (hooks : EventHooks) (collectors : Nat) (req : PreparedRequest) :
    Point -> WorkEvent -> Point -> List Entry -> Polled -> Prop
  | fireRequest :
      Advances hooks collectors req .start .fireRequest (.firingRequest hooks.requestHooks)
        [.fireRequest hooks.requestHooks] .goesOn
  | requestHook (hook : PyObject) (rest : List PyObject) :
      Advances hooks collectors req (.firingRequest (hook :: rest)) .callHook (.firingRequest rest)
        [ExecuteRequest.requestHook req hook] .goesOn
  | responseHook (answer : Answer) (hook : PyObject) (rest : List PyObject) :
      Advances hooks collectors req (.firingResponse answer (hook :: rest)) .callHook
        (.firingResponse answer rest) [ExecuteRequest.responseHook answer hook] .goesOn
  | accepted :
      Advances hooks collectors req (.firingRequest []) .applyRequestOptions .sending [] .goesOn
  | rejected (error : PyErr) :
      Advances hooks collectors req (.firingRequest []) .applyRequestOptions
        (.returned (.error error)) [] (.ready (.error error))
  | sendPending :
      Advances hooks collectors req .sending (.pollSend none) .sending [.pollSend] .pending
  | sendFailed (error : PyErr) :
      Advances hooks collectors req .sending (.pollSend (some (.error error)))
        (.returned (.error error)) [.pollSend] (.ready (.error error))
  | response (resp : Response) (elapsed : Seconds) (pyResp : PyResponse)
      (converted : PyResponse.fromResponse resp elapsed = .ok pyResp) :
      Advances hooks collectors req .sending (.pollSend (some (.ok (resp, elapsed))))
        (.responded (.of resp elapsed pyResp)) [.pollSend] .goesOn
  | recordGlobalMetrics (answer : Answer) :
      Advances hooks collectors req (.responded answer) .recordGlobalMetrics (.recorded answer)
        (if 0 < collectors then [ExecuteRequest.record answer] else []) .goesOn
  | fireResponse (answer : Answer) :
      Advances hooks collectors req (.recorded answer) .fireResponse
        (.firingResponse answer hooks.responseHooks) [.fireResponse hooks.responseHooks] .goesOn
  | finish (answer : Answer) :
      Advances hooks collectors req (.firingResponse answer []) .finish
        (.returned (.ok answer.pyResp)) [] (.ready (.ok answer.pyResp))

namespace ExecuteRequest

theorem step_advances {hooks : EventHooks} {collectors : Nat} {work next : ExecuteRequest}
    {event : WorkEvent} {polled : Polled}
    (stepped : work.step hooks collectors event = some (next, polled)) :
    next.req = work.req ∧ ∃ done, next.log = work.log ++ done ∧
      Advances hooks collectors work.req work.point event next.point done polled := by
  rcases work with ⟨req, point, log⟩
  cases event with
  | fireRequest =>
      cases point <;> cases stepped
      exact ⟨rfl, _, rfl, .fireRequest⟩
  | callHook =>
      cases point with
      | firingRequest remaining =>
          cases remaining <;> cases stepped
          exact ⟨rfl, _, rfl, .requestHook _ _⟩
      | firingResponse answer remaining =>
          cases remaining <;> cases stepped
          exact ⟨rfl, _, rfl, .responseHook _ _ _⟩
      | _ => cases stepped
  | applyRequestOptions =>
      cases point with
      | firingRequest remaining =>
          cases remaining with
          | nil =>
              simp only [step] at stepped
              split at stepped
              · cases stepped
                exact ⟨rfl, _, rfl, .accepted⟩
              · cases stepped
                exact ⟨rfl, _, rfl, .rejected _⟩
          | cons hook rest => cases stepped
      | _ => cases stepped
  | pollSend outcome =>
      cases point with
      | sending =>
          rcases outcome with _ | error | ⟨resp, elapsed⟩
          · cases stepped
            exact ⟨rfl, _, rfl, .sendPending⟩
          · cases stepped
            exact ⟨rfl, _, rfl, .sendFailed error⟩
          · cases stepped
            exact ⟨rfl, _, rfl, .response resp elapsed _ rfl⟩
      | _ => cases stepped
  | recordGlobalMetrics =>
      cases point <;> cases stepped
      exact ⟨rfl, _, rfl, .recordGlobalMetrics _⟩
  | fireResponse =>
      cases point <;> cases stepped
      exact ⟨rfl, _, rfl, .fireResponse _⟩
  | finish =>
      cases point with
      | firingResponse answer remaining =>
          cases remaining <;> cases stepped
          exact ⟨rfl, _, rfl, .finish _⟩
      | _ => cases stepped

end ExecuteRequest

/-! ## The log of a request -/

/-- The request hooks, each called once and in order. -/
def requesting (req : PreparedRequest) (hooks : List PyObject) : List Entry :=
  .fireRequest hooks :: hooks.map (ExecuteRequest.requestHook req)

/-- The request hooks, and then some polls of `send()`. -/
def opening (req : PreparedRequest) (hooks : List PyObject) (polls : Nat) : List Entry :=
  requesting req hooks ++ List.replicate polls .pollSend

/-- The record, if one is made. -/
def recording (made : Bool) (answer : Answer) : List Entry :=
  if made then [ExecuteRequest.record answer] else []

/-- The response hooks that have been called, of the snapshot. -/
def responding (answer : Answer) (hooks called : List PyObject) : List Entry :=
  .fireResponse hooks :: called.map (ExecuteRequest.responseHook answer)

/-- The log at every point.  `enabled` says that metrics are enabled. -/
inductive Written (enabled : Prop) (req : PreparedRequest) : Point -> List Entry -> Prop
  | start : Written enabled req .start []
  | firingRequest (called remaining : List PyObject) :
      Written enabled req (.firingRequest remaining)
        (.fireRequest (called ++ remaining) :: called.map (ExecuteRequest.requestHook req))
  | sending (hooks : List PyObject) (polls : Nat) :
      Written enabled req .sending (opening req hooks polls)
  | responded (hooks : List PyObject) (polls : Nat) (answer : Answer) :
      Written enabled req (.responded answer) (opening req hooks polls)
  | recorded (hooks : List PyObject) (polls : Nat) (answer : Answer) (made : Bool)
      (counted : enabled -> made = true) :
      Written enabled req (.recorded answer) (opening req hooks polls ++ recording made answer)
  | firingResponse (hooks : List PyObject) (polls : Nat) (answer : Answer) (made : Bool)
      (counted : enabled -> made = true) (called remaining : List PyObject) :
      Written enabled req (.firingResponse answer remaining)
        (opening req hooks polls ++ recording made answer ++
          responding answer (called ++ remaining) called)
  | returnedOk (hooks : List PyObject) (polls : Nat) (answer : Answer) (made : Bool)
      (counted : enabled -> made = true) (fired : List PyObject) :
      Written enabled req (.returned (.ok answer.pyResp))
        (opening req hooks polls ++ recording made answer ++ responding answer fired fired)
  | returnedError (hooks : List PyObject) (polls : Nat) (error : PyErr) :
      Written enabled req (.returned (.error error)) (opening req hooks polls)

theorem opening_poll (req : PreparedRequest) (hooks : List PyObject) (polls : Nat) :
    opening req hooks polls ++ [.pollSend] = opening req hooks (polls + 1) := by
  rw [opening, opening, List.append_assoc, List.replicate_succ']

section Polls

variable {hooks : EventHooks} {collectors : Nat} {req : PreparedRequest} {point next : Point}
variable {event : WorkEvent} {done : List Entry}

/-- A poll that goes on has not returned, one that is pending waits for
`send()`, and one that is ready has returned. -/
theorem Advances.goesOn (advances : Advances hooks collectors req point event next done .goesOn)
    (result : Except PyErr PyResponse) : next ≠ .returned result := by
  cases advances <;> exact fun same => nomatch same

theorem Advances.pending
    (advances : Advances hooks collectors req point event next done .pending) : next = .sending := by
  cases advances
  rfl

theorem Advances.ready {result : Except PyErr PyResponse}
    (advances : Advances hooks collectors req point event next done (.ready result)) :
    next = .returned result := by
  cases advances <;> rfl

theorem Advances.not_start {polled : Polled}
    (advances : Advances hooks collectors req point event next done polled) : next ≠ .start := by
  cases advances <;> exact fun same => nomatch same

end Polls

theorem Written.advance {enabled : Prop} {hooks : EventHooks} {collectors : Nat}
    {req : PreparedRequest} {point next : Point} {event : WorkEvent} {log done : List Entry}
    {polled : Polled} (written : Written enabled req point log)
    (advances : Advances hooks collectors req point event next done polled)
    (counts : enabled -> event = .recordGlobalMetrics -> 0 < collectors) :
    Written enabled req next (log ++ done) := by
  cases advances with
  | fireRequest =>
      cases written
      exact .firingRequest [] hooks.requestHooks
  | requestHook hook rest =>
      cases written with
      | firingRequest called =>
          have moved := @Written.firingRequest enabled req (called ++ [hook]) rest
          simpa using moved
  | responseHook answer hook rest =>
      cases written with
      | firingResponse snapshot polls _ made counted called =>
          have moved := @Written.firingResponse enabled req snapshot polls answer made counted
            (called ++ [hook]) rest
          simpa [responding] using moved
  | accepted =>
      cases written with
      | firingRequest called =>
          have moved := @Written.sending enabled req called 0
          simpa [opening, requesting] using moved
  | rejected error =>
      cases written with
      | firingRequest called =>
          have moved := @Written.returnedError enabled req called 0 error
          simpa [opening, requesting] using moved
  | sendPending =>
      cases written with
      | sending snapshot polls =>
          rw [opening_poll]
          exact .sending snapshot (polls + 1)
  | sendFailed error =>
      cases written with
      | sending snapshot polls =>
          rw [opening_poll]
          exact .returnedError snapshot (polls + 1) error
  | response resp elapsed pyResp converted =>
      cases written with
      | sending snapshot polls =>
          rw [opening_poll]
          exact .responded snapshot (polls + 1) _
  | recordGlobalMetrics answer =>
      cases written with
      | responded snapshot polls =>
          have moved := @Written.recorded enabled req snapshot polls answer (decide (0 < collectors))
            (fun on => decide_eq_true (counts on rfl))
          simpa [recording] using moved
  | fireResponse answer =>
      cases written with
      | recorded snapshot polls _ made counted =>
          exact .firingResponse snapshot polls answer made counted [] hooks.responseHooks
  | finish answer =>
      cases written with
      | firingResponse snapshot polls _ made counted called =>
          have moved := @Written.returnedOk enabled req snapshot polls answer made counted called
          simpa using moved

/-! ## Counting in the log -/

section Counts

variable (req : PreparedRequest) (answer : Answer) (made : Bool) (hooks called : List PyObject)
variable (polls : Nat)

private theorem countP_requestHook (kind : Entry -> Bool)
    (other : forall hook, kind (ExecuteRequest.requestHook req hook) = false) :
    (hooks.map (ExecuteRequest.requestHook req)).countP kind = 0 := by
  rw [List.countP_eq_zero]
  intro entry member
  rcases List.mem_map.mp member with ⟨hook, _, rfl⟩
  simp [other hook]

private theorem countP_responseHook (kind : Entry -> Bool)
    (other : forall hook, kind (ExecuteRequest.responseHook answer hook) = false) :
    (called.map (ExecuteRequest.responseHook answer)).countP kind = 0 := by
  rw [List.countP_eq_zero]
  intro entry member
  rcases List.mem_map.mp member with ⟨hook, _, rfl⟩
  simp [other hook]

@[simp] theorem opening_fireRequest : (opening req hooks polls).countP Entry.isFireRequest = 1 := by
  rw [opening, requesting, List.countP_append, List.countP_cons,
    countP_requestHook req hooks _ (fun _ => rfl), List.countP_replicate]
  rfl

@[simp] theorem opening_record : (opening req hooks polls).countP Entry.isRecord = 0 := by
  rw [opening, requesting, List.countP_append, List.countP_cons,
    countP_requestHook req hooks _ (fun _ => rfl), List.countP_replicate]
  rfl

@[simp] theorem opening_fireResponse : (opening req hooks polls).countP Entry.isFireResponse = 0 := by
  rw [opening, requesting, List.countP_append, List.countP_cons,
    countP_requestHook req hooks _ (fun _ => rfl), List.countP_replicate]
  rfl

@[simp] theorem recording_fireRequest : (recording made answer).countP Entry.isFireRequest = 0 := by
  cases made <;> rfl

@[simp] theorem recording_record : (recording made answer).countP Entry.isRecord = made.toNat := by
  cases made <;> rfl

@[simp] theorem recording_fireResponse :
    (recording made answer).countP Entry.isFireResponse = 0 := by
  cases made <;> rfl

@[simp] theorem responding_fireRequest :
    (responding answer hooks called).countP Entry.isFireRequest = 0 := by
  rw [responding, List.countP_cons, countP_responseHook answer called _ (fun _ => rfl)]
  rfl

@[simp] theorem responding_record : (responding answer hooks called).countP Entry.isRecord = 0 := by
  rw [responding, List.countP_cons, countP_responseHook answer called _ (fun _ => rfl)]
  rfl

@[simp] theorem responding_fireResponse :
    (responding answer hooks called).countP Entry.isFireResponse = 1 := by
  rw [responding, List.countP_cons, countP_responseHook answer called _ (fun _ => rfl)]
  rfl

end Counts

/-- The point is past the record. -/
def Point.isRecorded : Point -> Bool
  | .recorded _ | .firingResponse _ _ | .returned (.ok _) => true
  | _ => false

/-- The response hooks are being called or have been. -/
def Point.isAnswered : Point -> Bool
  | .firingResponse _ _ | .returned (.ok _) => true
  | _ => false

section Written

variable {enabled : Prop} {req : PreparedRequest} {point : Point} {log : List Entry}

theorem Written.fireRequest_count (written : Written enabled req point log)
    (begun : point ≠ .start) : log.countP Entry.isFireRequest = 1 := by
  cases written with
  | start => exact absurd rfl begun
  | firingRequest called remaining =>
      rw [List.countP_cons, countP_requestHook req called _ (fun _ => rfl)]
      rfl
  | _ => simp

theorem Written.record_count (written : Written enabled req point log) :
    log.countP Entry.isRecord ≤ point.isRecorded.toNat ∧
      (enabled -> log.countP Entry.isRecord = point.isRecorded.toNat) := by
  cases written with
  | start => exact ⟨le_rfl, fun _ => rfl⟩
  | firingRequest called remaining =>
      rw [List.countP_cons, countP_requestHook req called _ (fun _ => rfl)]
      exact ⟨le_rfl, fun _ => rfl⟩
  | sending => simp [Point.isRecorded]
  | responded => simp [Point.isRecorded]
  | recorded hooks polls answer made counted =>
      simp only [List.countP_append, opening_record, recording_record, Nat.zero_add,
        Point.isRecorded]
      exact ⟨made.toNat_le, fun on => by rw [counted on]⟩
  | firingResponse hooks polls answer made counted called remaining =>
      simp only [List.countP_append, opening_record, recording_record, responding_record,
        Nat.zero_add, Nat.add_zero, Point.isRecorded]
      exact ⟨made.toNat_le, fun on => by rw [counted on]⟩
  | returnedOk hooks polls answer made counted fired =>
      simp only [List.countP_append, opening_record, recording_record, responding_record,
        Nat.zero_add, Nat.add_zero, Point.isRecorded]
      exact ⟨made.toNat_le, fun on => by rw [counted on]⟩
  | returnedError => simp [Point.isRecorded]

theorem Written.fireResponse_count (written : Written enabled req point log) :
    log.countP Entry.isFireResponse = point.isAnswered.toNat := by
  cases written with
  | start => rfl
  | firingRequest called remaining =>
      rw [List.countP_cons, countP_requestHook req called _ (fun _ => rfl)]
      rfl
  | _ => simp [Point.isAnswered]

/-- Before `send()` is polled, every request hook of one snapshot was called. -/
theorem Written.send_after_hooks (written : Written enabled req point log) {early late : List Entry}
    (split : log = early ++ .pollSend :: late) : ∃ hooks, requesting req hooks <+: early := by
  have absent : forall hooks, Entry.pollSend ∉ requesting req hooks := by
    intro hooks
    simp [requesting, ExecuteRequest.requestHook]
  have cut : forall hooks, requesting req hooks <+: log -> requesting req hooks <+: early :=
    fun hooks isPrefix => prefix_of_absent (absent hooks) (split ▸ isPrefix)
  cases written with
  | start => simp at split
  | firingRequest called remaining =>
      have member : Entry.pollSend ∈ early ++ Entry.pollSend :: late := by simp
      rw [← split] at member
      simp [ExecuteRequest.requestHook] at member
  | sending hooks polls => exact ⟨hooks, cut hooks (List.prefix_append _ _)⟩
  | responded hooks polls answer => exact ⟨hooks, cut hooks (List.prefix_append _ _)⟩
  | recorded hooks polls answer made counted =>
      exact ⟨hooks, cut hooks (List.append_assoc .. ▸ List.prefix_append _ _)⟩
  | firingResponse hooks polls answer made counted called remaining =>
      refine ⟨hooks, cut hooks ?_⟩
      rw [opening, List.append_assoc, List.append_assoc]
      exact List.prefix_append _ _
  | returnedOk hooks polls answer made counted fired =>
      refine ⟨hooks, cut hooks ?_⟩
      rw [opening, List.append_assoc, List.append_assoc]
      exact List.prefix_append _ _
  | returnedError hooks polls error => exact ⟨hooks, cut hooks (List.prefix_append _ _)⟩

/-- The log around the response hooks: before them nothing but the opening and
the record, after them only their calls, each once and in order. -/
theorem Written.answered (written : Written enabled req point log) {early late : List Entry}
    {snapshot : List PyObject} (split : log = early ++ .fireResponse snapshot :: late) :
    ∃ hooks polls answer made called,
      early = opening req hooks polls ++ recording made answer ∧ called <+: snapshot ∧
        late = called.map (ExecuteRequest.responseHook answer) := by
  have general : forall hooks polls answer made fired called, called <+: fired ->
      log = opening req hooks polls ++ recording made answer ++ responding answer fired called ->
        ∃ hooks polls answer made called,
          early = opening req hooks polls ++ recording made answer ∧ called <+: snapshot ∧
            late = called.map (ExecuteRequest.responseHook answer) := by
    intro hooks polls answer made fired called isPrefix shape
    have absent : Entry.fireResponse snapshot ∉ opening req hooks polls ++ recording made answer := by
      cases made <;>
        simp [opening, requesting, recording, ExecuteRequest.requestHook, ExecuteRequest.record]
    rcases prefix_of_absent absent (split ▸ shape ▸ List.prefix_append _ _) with ⟨between, rfl⟩
    have same := shape.symm.trans split
    rw [List.append_assoc _ between, List.append_cancel_left_eq] at same
    cases between with
    | nil =>
        rw [responding, List.nil_append] at same
        rcases List.cons.inj same with ⟨snapshots, calls⟩
        cases snapshots
        exact ⟨hooks, polls, answer, made, called, by rw [List.append_nil], isPrefix, calls.symm⟩
    | cons first between =>
        have member : Entry.fireResponse snapshot ∈ called.map (ExecuteRequest.responseHook answer) := by
          rw [(List.cons.inj same).2]
          simp
        simp [ExecuteRequest.responseHook] at member
  have fired : log.countP Entry.isFireResponse ≠ 0 := by
    rw [split, List.countP_append, List.countP_cons]
    simp [Entry.isFireResponse]
  rw [written.fireResponse_count] at fired
  cases written with
  | firingResponse hooks polls answer made counted called remaining =>
      exact general hooks polls answer made (called ++ remaining) called (List.prefix_append _ _) rfl
  | returnedOk hooks polls answer made counted called =>
      exact general hooks polls answer made called called List.prefix_rfl rfl
  | _ => exact absurd rfl fired

/-- The record comes before the response hooks. -/
theorem Written.record_first (written : Written enabled req point log) {early late : List Entry}
    {snapshot : List PyObject} (split : log = early ++ .fireResponse snapshot :: late) :
    late.countP Entry.isRecord = 0 := by
  rcases written.answered split with ⟨_, _, answer, _, called, _, _, rfl⟩
  exact countP_responseHook answer called _ (fun _ => rfl)

end Written

end Session
end Lkrequest
