import Lkrequest.Session.Abandonment
import Lkrequest.Session.RequestLog

namespace Lkrequest
namespace Session

open Foundations

/-!
# One outcome for each request

The select leaves the work only at the points where a poll returned, and these
are before the first hook and in front of `send()`.  So a request that is
abandoned or dropped has fired at most its request hooks, and one that is past
the response cannot be abandoned any more.
-/

/-! ## The request and its select -/

/-- The select can only leave the work before its first hook and in front of
`send()`. -/
def Point.Resting (point : Point) : Prop := point = .start ∨ point = .sending

/-- Where the work stands when its future is at a stage. -/
def Fits (point : Point) : GuardStage PyResponse -> Prop
  | .polling (.work :: _) => forall result, point ≠ .returned result
  | .resolved .work result => point = .returned result
  | _ => point.Resting

theorem Point.Resting.not_returned {point : Point} (resting : point.Resting)
    (result : Except PyErr PyResponse) : point ≠ .returned result := by
  rcases resting with rfl | rfl <;> exact fun same => nomatch same

theorem Fits.idle {point : Point} {stage : GuardStage PyResponse} (fits : Fits point stage)
    (idle : stage.Idle) : point.Resting := by
  rcases idle with rfl | rfl <;> exact fits

theorem Point.Resting.polling {point : Point} (resting : point.Resting) (remaining : List Branch) :
    Fits point (.polling remaining) := by
  cases remaining with
  | nil => exact resting
  | cons branch rest =>
      cases branch with
      | work => exact resting.not_returned
      | closed => exact resting

theorem Point.Resting.next {point : Point} (resting : point.Resting) (remaining : List Branch) :
    Fits point (.next remaining) := by
  cases remaining with
  | nil => exact resting
  | cons branch rest => exact resting.polling (branch :: rest)

namespace Traffic

/-- What the guarded futures make of a step of the work. -/
def Polls (guards next : Guards PyResponse) (index : Nat) : Polled -> Prop
  | .goesOn => next = guards
  | .pending => guardStep guards (.pollWork index none) = some next
  | .ready result => guardStep guards (.pollWork index (some result)) = some next

/-- What an event can do to the requests. -/
inductive Steps (state : Traffic) : TrafficEvent -> Traffic -> Prop
  | outside (event : GuardEvent PyResponse) (next : Traffic)
      (guards : guardStep state.guards event = some next.guards)
      (notClosing : forall session, event ≠ .closing session)
      (notWork : forall index result, event ≠ .pollWork index result)
      (works : next.works = state.works) : Steps state (.outside event) next
  | quiet (event : TrafficEvent) (next : Traffic) (guards : next.guards = state.guards)
      (works : next.works = state.works) (notWork : forall index work, event ≠ .work index work) :
      Steps state event next
  | makeRequest (session : SessionId) (prepared : PreparedRequest) (next : Traffic)
      (guards : guardStep state.guards (.closing session) = some next.guards)
      (works : next.works =
        Function.update state.works state.guards.guards.length ⟨prepared, .start, []⟩) :
      Steps state (.makeRequest session prepared) next
  | work (index : Nat) (event : WorkEvent) (next : Traffic) (guard : Guard PyResponse)
      (rest : List Branch) (work : ExecuteRequest) (polled : Polled)
      (found : state.guards.guards[index]? = some guard)
      (stage : guard.stage = .polling (.work :: rest))
      (stepped : (state.works index).step (state.hooks guard.session) state.collectors event =
        some (work, polled))
      (works : next.works = Function.update state.works index work)
      (guards : Polls state.guards next.guards index polled) :
      Steps state (.work index event) next

theorem guarded_eq {state next : Traffic} {event : GuardEvent PyResponse}
    (stepped : state.guarded event = some next) :
    guardStep state.guards event = some next.guards ∧ next.works = state.works ∧
      next.hooks = state.hooks ∧ next.collectors = state.collectors := by
  rcases Option.map_eq_some_iff.mp stepped with ⟨guards, taken, rfl⟩
  exact ⟨taken, rfl, rfl, rfl⟩

theorem ensureOpen_eq {state next : Traffic} {session : SessionId}
    (stepped : state.guarded (.ensureOpen session) = some next) : next = state := by
  rcases Option.map_eq_some_iff.mp stepped with ⟨guards, taken, rfl⟩
  cases guardStep_steps taken with
  | ensureOpen => rfl

theorem step_steps {state next : Traffic} {event : TrafficEvent}
    (stepped : state.step event = some next) : Steps state event next := by
  cases event with
  | outside event =>
      have general : (forall session, event ≠ .closing session) ->
          (forall index result, event ≠ .pollWork index result) ->
          state.guarded event = some next -> Steps state (.outside event) next := by
        intro notClosing notWork guarded
        rcases guarded_eq guarded with ⟨guards, works, _, _⟩
        exact .outside event next guards notClosing notWork works
      cases event with
      | closing session => cases stepped
      | pollWork index result => cases stepped
      | _ => exact general (fun _ same => nomatch same) (fun _ _ same => nomatch same) stepped
  | onRequest session callback =>
      simp only [step, Option.bind_eq_bind, Option.bind_eq_some_iff] at stepped
      rcases stepped with ⟨opened, checked, stepped⟩
      cases ensureOpen_eq checked
      cases stepped
      exact .quiet _ _ rfl rfl (fun _ _ same => nomatch same)
  | onResponse session callback =>
      simp only [step, Option.bind_eq_bind, Option.bind_eq_some_iff] at stepped
      rcases stepped with ⟨opened, checked, stepped⟩
      cases ensureOpen_eq checked
      cases stepped
      exact .quiet _ _ rfl rfl (fun _ _ same => nomatch same)
  | emptyRequestHooks session =>
      cases stepped
      exact .quiet _ _ rfl rfl (fun _ _ same => nomatch same)
  | emptyResponseHooks session =>
      cases stepped
      exact .quiet _ _ rfl rfl (fun _ _ same => nomatch same)
  | enableMetrics =>
      cases stepped
      exact .quiet _ _ rfl rfl (fun _ _ same => nomatch same)
  | dropCollector =>
      simp only [step] at stepped
      split at stepped
      · cases stepped
      · cases stepped
        exact .quiet _ _ rfl rfl (fun _ _ same => nomatch same)
  | makeRequest session prepared =>
      simp only [step, makeRequest, Option.bind_eq_bind, Option.bind_eq_some_iff] at stepped
      rcases stepped with ⟨opened, checked, closing, taken, made⟩
      cases ensureOpen_eq checked
      cases made
      rcases guarded_eq taken with ⟨guards, works, _, _⟩
      exact .makeRequest session prepared _ guards (by rw [setWork, works])
  | work index event =>
      simp only [step, work, Option.bind_eq_bind, Option.bind_eq_some_iff] at stepped
      rcases stepped with ⟨guard, found, stepped⟩
      split at stepped
      · rename_i rest stage
        rcases Option.bind_eq_some_iff.mp stepped with ⟨⟨work, polled⟩, taken, stepped⟩
        cases polled with
        | goesOn =>
            cases stepped
            exact .work index event _ guard rest work .goesOn found stage taken rfl rfl
        | pending =>
            rcases guarded_eq stepped with ⟨guards, works, _, _⟩
            exact .work index event _ guard rest work .pending found stage taken works guards
        | ready result =>
            rcases guarded_eq stepped with ⟨guards, works, _, _⟩
            exact .work index event _ guard rest work (.ready result) found stage taken works guards
      · cases stepped

/-! ## Every request accounts for itself -/

/-- The log of a request tells where it stands, and its select agrees. -/
def Accounted (enabled : Prop) (index : Nat) (state : Traffic) : Prop :=
  forall guard, state.guards.guards[index]? = some guard ->
    Written enabled (state.works index).req (state.works index).point (state.works index).log ∧
      Fits (state.works index).point guard.stage

theorem Accounted.outside {enabled : Prop} {index : Nat} {state next : Traffic}
    {event : GuardEvent PyResponse} (accounted : Accounted enabled index state)
    (guards : guardStep state.guards event = some next.guards)
    (notClosing : forall session, event ≠ .closing session)
    (notWork : forall index result, event ≠ .pollWork index result)
    (works : next.works = state.works) : Accounted enabled index next := by
  intro guard found
  rw [works]
  rcases Guards.guard_step guards found with same | ⟨_, _, session, closing⟩ | ⟨old, foundOld, _, moved⟩
  · exact accounted guard same
  · exact absurd closing (notClosing session)
  · rcases accounted old foundOld with ⟨written, fits⟩
    refine ⟨written, ?_⟩
    generalize guard.stage = stage at moved
    cases moved with
    | poll order idle => exact (fits.idle idle).polling order.branches
    | workReady result remaining _ => exact absurd rfl (notWork index (some result))
    | workPending remaining _ => exact absurd rfl (notWork index none)
    | closedReady shared remaining _ stage _ =>
        rw [stage] at fits
        exact fits
    | closedPending shared remaining _ stage _ =>
        rw [stage] at fits
        exact Point.Resting.next fits remaining
    | drop idle => exact fits.idle idle

theorem Accounted.work {enabled : Prop} {index : Nat} {state next : Traffic} {event : WorkEvent}
    {guard : Guard PyResponse} {rest : List Branch} {work : ExecuteRequest} {polled : Polled}
    (accounted : Accounted enabled index state)
    (foundOld : state.guards.guards[index]? = some guard)
    (stage : guard.stage = .polling (.work :: rest))
    (stepped : (state.works index).step (state.hooks guard.session) state.collectors event =
      some (work, polled))
    (works : next.works = Function.update state.works index work)
    (guards : Polls state.guards next.guards index polled)
    (counts : enabled -> event = .recordGlobalMetrics -> 0 < state.collectors) :
    Accounted enabled index next := by
  intro after found
  rw [works, Function.update_self]
  rcases ExecuteRequest.step_advances stepped with ⟨req, done, log, advances⟩
  rw [req, log]
  refine ⟨(accounted guard foundOld).1.advance advances counts, ?_⟩
  cases polled with
  | goesOn =>
      rw [guards, foundOld] at found
      cases found
      rw [stage]
      exact advances.goesOn
  | pending =>
      rw [Guards.pollWork_stage guards foundOld stage found]
      exact Point.Resting.next (Or.inr advances.pending) rest
  | ready result =>
      rw [Guards.pollWork_stage guards foundOld stage found]
      exact advances.ready

/-- Every step keeps the account of every request. -/
theorem Accounted.step {enabled : Prop} {index : Nat} {state next : Traffic} {event : TrafficEvent}
    (accounted : Accounted enabled index state) (stepped : state.step event = some next)
    (counts : enabled -> event = .work index .recordGlobalMetrics -> 0 < state.collectors) :
    Accounted enabled index next := by
  cases step_steps stepped with
  | outside event _ guards notClosing notWork works =>
      exact accounted.outside guards notClosing notWork works
  | quiet _ _ guards works notWork =>
      intro guard found
      rw [guards] at found
      rw [works]
      exact accounted guard found
  | makeRequest session prepared _ guards works =>
      intro guard found
      rw [Guards.closing_guards guards] at found
      rw [works]
      rcases Nat.lt_or_ge index state.guards.guards.length with present | new
      · rw [List.getElem?_append_left present] at found
        rw [Function.update_of_ne (Nat.ne_of_lt present)]
        exact accounted guard found
      · have bound := (List.getElem?_eq_some_iff.mp found).1
        rw [List.length_append, List.length_singleton] at bound
        have last : index = state.guards.guards.length := by omega
        subst last
        rw [List.getElem?_concat_length] at found
        cases found
        rw [Function.update_self]
        exact ⟨.start, Or.inl rfl⟩
  | work moved event _ guard rest work polled foundOld stage taken works guards =>
      by_cases same : moved = index
      · subst same
        exact accounted.work foundOld stage taken works guards
          (fun on recording => counts on (recording ▸ rfl))
      · intro other found
        rw [works, Function.update_of_ne (Ne.symm same)]
        apply accounted
        cases polled with
        | goesOn => exact guards ▸ found
        | pending => exact Guards.pollWork_other guards (Ne.symm same) found
        | ready result => exact Guards.pollWork_other guards (Ne.symm same) found

theorem accounted_initial (enabled : Prop) (index : Nat) : Accounted enabled index initial :=
  fun guard found => by simp [initial, Guards.initial] at found

/-! ## The guarded futures below -/

/-- The futures of the requests are futures of the select. -/
theorem guards_run {events : List TrafficEvent} {state : Traffic}
    (ran : traffic.run initial events = some state) :
    ∃ below, (guardMachine PyResponse).run .initial below = some state.guards := by
  have matched := traffic.run_refines (fun each guards => each.guards = guards)
    (fun before after => ∃ event, (guardMachine PyResponse).step before event = some after)
    (by
      intro before event next view related stepped
      subst related
      refine ⟨next.guards, ?_, rfl⟩
      cases step_steps stepped with
      | outside event _ guards => exact .single ⟨event, guards⟩
      | quiet _ _ guards => rw [guards]
      | makeRequest session prepared _ guards => exact .single ⟨.closing session, guards⟩
      | work index event _ guard rest work polled found stage taken works guards =>
          cases polled with
          | goesOn => rw [show next.guards = before.guards from guards]
          | pending => exact .single ⟨.pollWork index none, guards⟩
          | ready result => exact .single ⟨.pollWork index (some result), guards⟩)
    rfl ran
  rcases matched with ⟨view, steps, rfl⟩
  exact (guardMachine PyResponse).run_of_steps steps

/-- A request is abandoned on a closed session only. -/
theorem abandoned_isClosed {events : List TrafficEvent} {state : Traffic} {index : Nat}
    {guard : Guard PyResponse} {result : Except PyErr PyResponse}
    (ran : traffic.run initial events = some state)
    (found : state.guards.guards[index]? = some guard)
    (abandoned : guard.stage = .resolved .closed result) :
    result = .error closedInFlight ∧ state.guards.IsClosed guard.session := by
  rcases guards_run ran with ⟨below, ranBelow⟩
  have fresh : (Guards.initial : Guards PyResponse).guards[index]? ≠ some guard := by
    simp [Guards.initial]
  rcases Guards.resolved_run Guards.Counted.initial ranBelow fresh found abandoned with
    ⟨work, _⟩ | ⟨_, error, closed⟩
  · cases work
  · exact ⟨error, closed⟩

/-! ## Work that was polled -/

theorem length_mono {state next : Traffic} {event : TrafficEvent}
    (stepped : state.step event = some next) :
    state.guards.guards.length ≤ next.guards.guards.length := by
  cases step_steps stepped with
  | outside _ _ guards => exact Guards.length_step guards
  | quiet _ _ guards => rw [guards]
  | makeRequest _ _ _ guards => exact Guards.length_step guards
  | work index event _ guard rest work polled found stage taken works guards =>
      cases polled with
      | goesOn => rw [show next.guards = state.guards from guards]
      | pending => exact Guards.length_step guards
      | ready result => exact Guards.length_step guards

/-- The request exists and its work has been polled. -/
def Begun (index : Nat) (state : Traffic) : Prop :=
  index < state.guards.guards.length ∧ (state.works index).point ≠ .start

theorem begun_work {state next : Traffic} {index : Nat} {event : WorkEvent}
    (stepped : state.step (.work index event) = some next) : Begun index next := by
  have grows := length_mono stepped
  cases step_steps stepped with
  | quiet _ _ _ _ notWork => exact absurd rfl (notWork index event)
  | work _ _ _ guard rest work polled found stage taken works guards =>
      refine ⟨lt_of_lt_of_le (List.getElem?_eq_some_iff.mp found).1 grows, ?_⟩
      rw [works, Function.update_self]
      rcases ExecuteRequest.step_advances taken with ⟨_, _, _, advances⟩
      exact advances.not_start

theorem Begun.step {state next : Traffic} {index : Nat} {event : TrafficEvent}
    (begun : Begun index state) (stepped : state.step event = some next) : Begun index next := by
  refine ⟨lt_of_lt_of_le begun.1 (length_mono stepped), ?_⟩
  cases step_steps stepped with
  | outside _ _ _ _ _ works => exact works ▸ begun.2
  | quiet _ _ _ works => exact works ▸ begun.2
  | makeRequest session prepared _ guards works =>
      rw [works, Function.update_of_ne (Nat.ne_of_lt begun.1)]
      exact begun.2
  | work moved event =>
      by_cases same : moved = index
      · subst same
        exact (begun_work stepped).2
      · rename_i works _
        rw [works, Function.update_of_ne (Ne.symm same)]
        exact begun.2

theorem begun_run {events : List TrafficEvent} {state : Traffic} {index : Nat} {event : WorkEvent}
    (ran : traffic.run initial events = some state) (polled : .work index event ∈ events) :
    Begun index state := by
  rcases traffic.run_of_mem polled ran with ⟨_, _, middle, next, _, _, stepped, remaining⟩
  exact traffic.run_invariant (Begun index) (fun _ _ _ holds taken => holds.step taken)
    (begun_work stepped) remaining

/-- Metrics are enabled whenever this request comes to record itself. -/
def MetricsEnabled (index : Nat) (state : Traffic) (event : TrafficEvent) : Prop :=
  event = .work index .recordGlobalMetrics -> 0 < state.collectors

theorem accounted_run {events : List TrafficEvent} {state : Traffic} (index : Nat)
    (ran : traffic.run initial events = some state) : Accounted False index state :=
  traffic.run_invariant (Accounted False index)
    (fun _ _ _ accounted stepped => accounted.step stepped (fun absurd => absurd.elim))
    (accounted_initial False index) ran

theorem accounted_enabled {events : List TrafficEvent} {state : Traffic} {index : Nat}
    (enabled : traffic.Along (MetricsEnabled index) initial events)
    (ran : traffic.run initial events = some state) : Accounted True index state :=
  traffic.run_invariant_along (MetricsEnabled index) (Accounted True index)
    (fun _ _ _ _ _ _ accounted counts stepped => accounted.step stepped (fun _ => counts))
    (accounted_initial True index) enabled ran

/-- What `execute_request` of a future has done so far. -/
def log (state : Traffic) (index : Nat) : List Entry := (state.works index).log

end Traffic

/-! ## The contract -/

section Contract

open Traffic

theorem Point.Resting.unanswered {point : Point} (resting : point.Resting) :
    point.isRecorded = false ∧ point.isAnswered = false := by
  rcases resting with rfl | rfl <;> exact ⟨rfl, rfl⟩

/-- A request that was given up or has failed is not past the response. -/
theorem Fits.unanswered {point : Point} {stage : GuardStage PyResponse} (fits : Fits point stage)
    (ended : stage = .dropped ∨ ∃ branch error, stage = .resolved branch (.error error)) :
    point.isRecorded = false ∧ point.isAnswered = false := by
  rcases ended with rfl | ⟨branch, error, rfl⟩
  · exact Point.Resting.unanswered fits
  · cases branch with
    | work =>
        rw [show point = .returned (.error error) from fits]
        exact ⟨rfl, rfl⟩
    | closed => exact Point.Resting.unanswered fits

/-- Between polls of the work a request is past the response exactly when
`execute_request` returned `Ok`. -/
theorem Fits.answered_iff {point : Point} {stage : GuardStage PyResponse} (fits : Fits point stage)
    (between : forall rest, stage ≠ .polling (.work :: rest)) :
    point.isRecorded = point.isAnswered ∧
      (point.isAnswered = true <-> ∃ response, stage = .resolved .work (.ok response)) := by
  have resting : point.Resting -> (forall response, stage ≠ .resolved .work (.ok response)) ->
      point.isRecorded = point.isAnswered ∧
        (point.isAnswered = true <-> ∃ response, stage = .resolved .work (.ok response)) := by
    intro rests other
    rcases rests.unanswered with ⟨recorded, answered⟩
    rw [recorded, answered]
    refine ⟨rfl, Bool.false_ne_true.elim, ?_⟩
    rintro ⟨response, same⟩
    exact absurd same (other response)
  cases stage with
  | captured => exact resting fits (fun _ same => nomatch same)
  | pending => exact resting fits (fun _ same => nomatch same)
  | dropped => exact resting fits (fun _ same => nomatch same)
  | polling remaining =>
      rcases remaining with _ | ⟨_ | _, rest⟩
      · exact resting fits (fun _ same => nomatch same)
      · exact absurd rfl (between rest)
      · exact resting fits (fun _ same => nomatch same)
  | resolved branch result =>
      cases branch with
      | work =>
          rw [show point = .returned result from fits]
          cases result with
          | ok response => exact ⟨rfl, fun _ => ⟨response, rfl⟩, fun _ => rfl⟩
          | error error =>
              refine ⟨rfl, Bool.false_ne_true.elim, ?_⟩
              rintro ⟨response, same⟩
              cases same
      | closed =>
          apply resting fits
          intro response same
          cases same

/-- For every buffered request in every state of every run: its request hooks
fired once if its work was polled, and every poll of `send()` comes after them;
record and response hooks happen at most once, in this order, each hook of the
snapshot being called once; between polls of the work the response hooks have
fired if and only if `execute_request` returned `Ok`, and with metrics enabled
there is a record if and only if they have; and a request that was dropped or
ended in an error, such as that of a closed session, has neither. -/
theorem one_outcome_per_request {events : List TrafficEvent} {state : Traffic} {index : Nat}
    {guard : Guard PyResponse} (ran : traffic.run .initial events = some state)
    (found : state.guards.guards[index]? = some guard) :
    ((∃ event, .work index event ∈ events) -> (state.log index).countP Entry.isFireRequest = 1) ∧
    (forall early late, state.log index = early ++ .pollSend :: late ->
      ∃ hooks, requesting (state.works index).req hooks <+: early) ∧
    ((state.log index).countP Entry.isRecord ≤ 1 ∧
      (state.log index).countP Entry.isFireResponse ≤ 1 ∧
      forall early snapshot late, state.log index = early ++ .fireResponse snapshot :: late ->
        late.countP Entry.isRecord = 0 ∧
          ∃ answer called, called <+: snapshot ∧
            late = called.map (ExecuteRequest.responseHook answer)) ∧
    ((forall rest, guard.stage ≠ .polling (.work :: rest)) ->
      ((state.log index).countP Entry.isFireResponse = 1 <->
        ∃ response, guard.stage = .resolved .work (.ok response)) ∧
      ((state.log index).countP Entry.isRecord = 1 ->
        (state.log index).countP Entry.isFireResponse = 1) ∧
      (traffic.Along (MetricsEnabled index) .initial events ->
        ((state.log index).countP Entry.isRecord = 1 <->
          (state.log index).countP Entry.isFireResponse = 1))) ∧
    (guard.stage = .dropped ∨ (∃ branch error, guard.stage = .resolved branch (.error error)) ->
      (state.log index).countP Entry.isRecord = 0 ∧
        (state.log index).countP Entry.isFireResponse = 0) := by
  rcases accounted_run index ran guard found with ⟨written, fits⟩
  have recorded := written.record_count.1
  have answered := written.fireResponse_count
  refine ⟨?_, ?_, ⟨?_, ?_, ?_⟩, ?_, ?_⟩
  · rintro ⟨event, polled⟩
    exact written.fireRequest_count (begun_run ran polled).2
  · intro early late split
    exact written.send_after_hooks split
  · exact recorded.trans (Bool.toNat_le _)
  · exact answered.le.trans (Bool.toNat_le _)
  · intro early snapshot late split
    rcases written.answered split with ⟨_, _, answer, _, called, _, isPrefix, calls⟩
    exact ⟨written.record_first split, answer, called, isPrefix, calls⟩
  · intro between
    rcases fits.answered_iff between with ⟨same, iff⟩
    have one : (state.log index).countP Entry.isFireResponse = 1 <->
        (state.works index).point.isAnswered = true := by
      rw [log, answered, Bool.toNat_eq_one]
    refine ⟨one.trans iff, ?_, ?_⟩
    · intro made
      rw [one, ← same, ← Bool.toNat_eq_one]
      rw [log] at made
      have least := Bool.toNat_le (state.works index).point.isRecorded
      omega
    · intro enabled
      have exact := (accounted_enabled enabled ran guard found).1.record_count.2 trivial
      rw [log, exact, answered, same]
  · intro ended
    rcases fits.unanswered ended with ⟨notRecorded, notAnswered⟩
    rw [notRecorded] at recorded
    rw [notAnswered] at answered
    exact ⟨Nat.le_zero.mp recorded, answered⟩

/-- A response hook that closes its own session: the request is past the
select's reach and ends with its response. -/
theorem one_outcome_per_request_closed_by_hook :
    ∃ state, traffic.run .initial
        [.outside .session, .enableMetrics, .onRequest 0 10, .onResponse 0 11,
          .makeRequest 0 ⟨"GET", "https://example.com/", none, none⟩,
          .outside (.poll 0 .workFirst), .work 0 .fireRequest, .work 0 .callHook,
          .work 0 .applyRequestOptions, .work 0 (.pollSend none), .outside (.pollClosed 0),
          .outside (.poll 0 .workFirst),
          .work 0 (.pollSend (some (.ok (⟨200, "https://example.com/", []⟩, 1)))),
          .work 0 .recordGlobalMetrics, .work 0 .fireResponse, .work 0 .callHook,
          .outside (.close 0), .emptyRequestHooks 0, .emptyResponseHooks 0, .work 0 .finish] =
          some state ∧
      (state.log 0).countP Entry.isRecord ≤ 1 ∧ (state.log 0).countP Entry.isFireResponse = 1 := by
  have observed : (traffic.run .initial
        [.outside .session, .enableMetrics, .onRequest 0 10, .onResponse 0 11,
          .makeRequest 0 ⟨"GET", "https://example.com/", none, none⟩,
          .outside (.poll 0 .workFirst), .work 0 .fireRequest, .work 0 .callHook,
          .work 0 .applyRequestOptions, .work 0 (.pollSend none), .outside (.pollClosed 0),
          .outside (.poll 0 .workFirst),
          .work 0 (.pollSend (some (.ok (⟨200, "https://example.com/", []⟩, 1)))),
          .work 0 .recordGlobalMetrics, .work 0 .fireResponse, .work 0 .callHook,
          .outside (.close 0), .emptyRequestHooks 0, .emptyResponseHooks 0, .work 0 .finish]).map
        (fun state => state.guards.guards[0]?) =
      some (some ⟨0, .resolved .work (.ok ⟨200, "https://example.com/", [], 1⟩)⟩) := rfl
  rcases Option.map_eq_some_iff.mp observed with ⟨state, ran, found⟩
  have contract := one_outcome_per_request ran found
  refine ⟨state, ran, contract.2.2.1.1, ?_⟩
  exact (contract.2.2.2.1 (fun _ same => nomatch same)).1.mpr ⟨_, rfl⟩

end Contract

end Session
end Lkrequest
