import Lkrequest.Metrics.Totals
import Lkrequest.Session.Outcome

namespace Lkrequest
namespace Session

open Foundations

/-!
# Requests and the global metrics

`execute_request` calls `record_global_metrics` when there is a response.  This
is the system of all requests together with the metrics that they record in: a
record is a call on the metrics, and its request goes on when the call has
returned.  A request whose `send()` failed has returned before.
-/

/-! ## The system -/

/-- All requests, the global metrics, and which call on them is the record of a request. -/
structure Metered where
  traffic : Traffic
  metrics : Metrics.State Seconds
  recording : Nat -> Option Nat

inductive MeteredEvent
  | traffic (event : TrafficEvent)
  | metrics (event : Metrics.Event Seconds)

/-- A request comes to `record_global_metrics`. -/
def MeteredEvent.isRecord : MeteredEvent -> Bool
  | .traffic (.work _ .recordGlobalMetrics) => true
  | _ => false

namespace Metered

section System

variable (ops : Metrics.Floats Seconds) (hostStr : String -> Option String)

def initial : Metered := ⟨.initial, .initial ops, fun _ => none⟩

/-- What `record_global_metrics` records.  `hostStr` is the host of a URL, if it has one. -/
def recordOf (answer : Answer) : Metrics.Record Seconds :=
  ⟨(hostStr answer.url).getD "unknown", answer.elapsed, answer.bodySize, answer.isError⟩

/-- The request is inside `record_global_metrics`. -/
def isRecording (state : Metered) (index : Nat) : Bool :=
  match state.recording index with
  | none => false
  | some record => (state.metrics.calls[record]?).any (fun call => !call.remaining.isEmpty)

/-- The record of an answer begins, if metrics are enabled. -/
def beginRecord (state : Metered) (index : Nat) (answer : Answer) (next : Traffic) : Option Metered :=
  if 0 < state.traffic.collectors then
    (state.metrics.step ops (.begin (.record (recordOf hostStr answer)))).map (fun metrics =>
      ⟨next, metrics, Function.update state.recording index (some state.metrics.calls.length)⟩)
  else some { state with traffic := next }

def step (state : Metered) : MeteredEvent -> Option Metered
  | .traffic (.work index event) =>
      if state.isRecording index then none
      else do
        let next <- state.traffic.step (.work index event)
        match event, (state.traffic.works index).point with
        | .recordGlobalMetrics, .responded answer => state.beginRecord ops hostStr index answer next
        | _, _ => some { state with traffic := next }
  | .traffic event => (state.traffic.step event).map (fun next => { state with traffic := next })
  | .metrics (.begin (.record _)) => none
  | .metrics event => (state.metrics.step ops event).map (fun metrics => { state with metrics := metrics })

end System

end Metered

/-- The requests of all sessions and the metrics. -/
def metered (ops : Metrics.Floats Seconds) (hostStr : String -> Option String) :
    Machine Metered MeteredEvent :=
  ⟨fun state => state.step ops hostStr⟩

/-! ## What is counted -/

/-- The result is an exception or a response with a status of an error. -/
def Point.failed : Point -> Bool
  | .returned (.error _) => true
  | .returned (.ok response) => 400 ≤ response.statusCode
  | _ => false

/-- The select was left with what `execute_request` returned. -/
def GuardStage.isWorked : GuardStage PyResponse -> Bool
  | .resolved .work _ => true
  | _ => false

namespace Traffic

/-- `send()` was polled. -/
def attempted (state : Traffic) (index : Nat) : Bool := .pollSend ∈ state.log index

/-- How many of the requests are so. -/
def number (state : Traffic) (test : Nat -> Bool) : Nat :=
  (List.range state.guards.guards.length).countP test

/-- Every request has ended in a response or an exception of `execute_request`. -/
def Finished (state : Traffic) : Prop :=
  ∀ guard ∈ state.guards.guards, guard.stage.isWorked = true

instance (state : Traffic) : Decidable state.Finished :=
  inferInstanceAs (Decidable (∀ guard ∈ state.guards.guards, guard.stage.isWorked = true))

/-- The requests whose send was attempted. -/
def attempts (state : Traffic) : Nat := state.number state.attempted

/-- The requests whose send was attempted and that failed. -/
def failures (state : Traffic) : Nat :=
  state.number (fun index => state.attempted index && (state.works index).point.failed)

end Traffic

namespace Metered

/-- A collector is alive when a request comes to record itself. -/
def CollectorAlive (state : Metered) (event : MeteredEvent) : Prop :=
  event.isRecord = true -> 0 < state.traffic.collectors

instance (state : Metered) (event : MeteredEvent) : Decidable (state.CollectorAlive event) :=
  inferInstanceAs (Decidable (event.isRecord = true -> 0 < state.traffic.collectors))

/-! ## Steps -/

section Steps

variable {ops : Metrics.Floats Seconds} {hostStr : String -> Option String}

/-- What one step does. -/
inductive Steps (ops : Metrics.Floats Seconds) (hostStr : String -> Option String) (state : Metered) :
    MeteredEvent -> Metered -> Prop
  | traffic (event : TrafficEvent) (next : Traffic) (stepped : state.traffic.step event = some next)
      (noRecord : forall index answer, event = .work index .recordGlobalMetrics ->
        (state.traffic.works index).point = .responded answer -> state.traffic.collectors = 0)
      (free : forall index work, event = .work index work -> state.isRecording index = false) :
      Steps ops hostStr state (.traffic event) { state with traffic := next }
  | record (index : Nat) (answer : Answer) (next : Traffic)
      (stepped : state.traffic.step (.work index .recordGlobalMetrics) = some next)
      (point : (state.traffic.works index).point = .responded answer)
      (alive : 0 < state.traffic.collectors) :
      Steps ops hostStr state (.traffic (.work index .recordGlobalMetrics))
        ⟨next, { state.metrics with
          calls := state.metrics.calls ++ [⟨.record (recordOf hostStr answer),
            (Metrics.Operation.record (recordOf hostStr answer)).program ops, none, none, []⟩] },
          Function.update state.recording index (some state.metrics.calls.length)⟩
  | metrics (event : Metrics.Event Seconds) (metrics : Metrics.State Seconds)
      (stepped : state.metrics.step ops event = some metrics)
      (noRecord : forall args, event ≠ .begin (.record args)) :
      Steps ops hostStr state (.metrics event) { state with metrics := metrics }

theorem step_steps {state next : Metered} {event : MeteredEvent}
    (stepped : state.step ops hostStr event = some next) : Steps ops hostStr state event next := by
  have other : forall {event : TrafficEvent}, (forall index work, event ≠ .work index work) ->
      (state.traffic.step event).map (fun next => { state with traffic := next }) = some next ->
      Steps ops hostStr state (.traffic event) next := by
    intro event notWork stepped
    rcases Option.map_eq_some_iff.mp stepped with ⟨traffic, taken, rfl⟩
    refine .traffic event traffic taken ?_ ?_
    · exact fun index _ same => absurd same (notWork index _)
    · exact fun index work same => absurd same (notWork index work)
  have inner : forall {event : Metrics.Event Seconds}, (forall args, event ≠ .begin (.record args)) ->
      (state.metrics.step ops event).map (fun metrics => { state with metrics := metrics }) = some next ->
      Steps ops hostStr state (.metrics event) next := by
    intro event notRecord stepped
    rcases Option.map_eq_some_iff.mp stepped with ⟨metrics, taken, rfl⟩
    exact .metrics event metrics taken notRecord
  cases event with
  | traffic event =>
      cases event with
      | work index event =>
          simp only [step] at stepped
          by_cases busy : state.isRecording index = true
          · rw [if_pos busy] at stepped
            exact (nomatch stepped)
          · rw [if_neg busy] at stepped
            have free : forall other work, TrafficEvent.work index event = .work other work ->
                state.isRecording other = false := by
              rintro other work ⟨⟩
              exact Bool.eq_false_iff.mpr busy
            rcases Option.bind_eq_some_iff.mp stepped with ⟨traffic, taken, counted⟩
            split at counted
            · rename_i answer point
              unfold beginRecord at counted
              by_cases alive : 0 < state.traffic.collectors
              · rw [if_pos alive] at counted
                cases counted
                exact .record index answer traffic taken point alive
              · rw [if_neg alive] at counted
                cases counted
                exact .traffic _ traffic taken (fun _ _ _ _ => Nat.eq_zero_of_not_pos alive) free
            · rename_i unanswered
              cases counted
              refine .traffic _ traffic taken ?_ free
              rintro other answer ⟨⟩ point
              exact absurd point (unanswered answer rfl)
      | outside event => exact other (fun _ _ => nofun) stepped
      | onRequest session callback => exact other (fun _ _ => nofun) stepped
      | onResponse session callback => exact other (fun _ _ => nofun) stepped
      | emptyRequestHooks session => exact other (fun _ _ => nofun) stepped
      | emptyResponseHooks session => exact other (fun _ _ => nofun) stepped
      | enableMetrics => exact other (fun _ _ => nofun) stepped
      | dropCollector => exact other (fun _ _ => nofun) stepped
      | makeRequest session prepared => exact other (fun _ _ => nofun) stepped
  | metrics event =>
      cases event with
      | begin operation =>
          cases operation with
          | record args => exact (nomatch stepped)
          | reset => exact inner (fun _ => nofun) stepped
          | scrape kind => exact inner (fun _ => nofun) stepped
      | advance index => exact inner (fun _ => nofun) stepped
      | exchangeFails index => exact inner (fun _ => nofun) stepped
      | lock index order => exact inner (fun _ => nofun) stepped

end Steps

end Metered

/-! ## The requests of a step -/

namespace Traffic

/-- What a step does to the requests: nothing, or one is made, or one goes on. -/
inductive Changes (state next : Traffic) (event : TrafficEvent) : Prop
  | kept (works : next.works = state.works)
      (length : next.guards.guards.length = state.guards.guards.length)
      (notWork : forall index work, event ≠ .work index work)
  | made (prepared : PreparedRequest)
      (works : next.works = Function.update state.works state.guards.guards.length ⟨prepared, .start, []⟩)
      (length : next.guards.guards.length = state.guards.guards.length + 1)
      (notWork : forall index work, event ≠ .work index work)
  | advanced (index : Nat) (workEvent : WorkEvent) (isWork : event = .work index workEvent)
      (inRange : index < state.guards.guards.length) (work : ExecuteRequest)
      (works : next.works = Function.update state.works index work)
      (length : next.guards.guards.length = state.guards.guards.length)
      (hooks : EventHooks) (done : List Entry) (polled : Polled)
      (log : work.log = (state.works index).log ++ done)
      (advances : Advances hooks state.collectors (state.works index).req (state.works index).point
        workEvent work.point done polled)

theorem step_changes {state next : Traffic} {event : TrafficEvent}
    (stepped : state.step event = some next) : Changes state next event := by
  cases step_steps stepped with
  | outside event _ guards notClosing notWork works =>
      exact .kept works (Guards.length_kept guards notClosing) (fun _ _ => nofun)
  | quiet _ _ guards works notWork => exact .kept works (by rw [guards]) notWork
  | makeRequest session prepared _ guards works =>
      refine .made prepared works ?_ (fun _ _ => nofun)
      rw [Guards.closing_guards guards, List.length_append, List.length_singleton]
  | work index event _ guard rest work polled found stage taken works guards =>
      have inRange := (List.getElem?_eq_some_iff.mp found).1
      rcases ExecuteRequest.step_advances taken with ⟨_, done, log, advances⟩
      refine .advanced index event rfl inRange work works ?_ _ done polled log advances
      cases polled with
      | goesOn => rw [show next.guards = state.guards from guards]
      | pending => exact Guards.length_kept guards (fun _ => nofun)
      | ready result => exact Guards.length_kept guards (fun _ => nofun)

end Traffic

/-! ## What is recorded of a request -/

/-- The flag of the record of a request, if it has been recorded. -/
def Point.counted : Point -> Option Bool
  | .recorded answer => some answer.isError
  | .firingResponse answer _ => some answer.isError
  | .returned (.ok response) => some (400 ≤ response.statusCode)
  | _ => none

/-- The flag of an answer is that of the response that is returned. -/
def Answer.Fair (answer : Answer) : Prop := answer.isError = decide (400 ≤ answer.pyResp.statusCode)

/-- Whether `send()` has been polled, where the point tells. -/
def Answered (log : List Entry) : Point -> Prop
  | .start => .pollSend ∉ log
  | .firingRequest _ => .pollSend ∉ log
  | .responded answer => .pollSend ∈ log ∧ answer.Fair
  | .recorded answer => .pollSend ∈ log ∧ answer.Fair
  | .firingResponse answer _ => .pollSend ∈ log ∧ answer.Fair
  | .returned (.ok _) => .pollSend ∈ log
  | _ => True

section Points

variable {hooks : EventHooks} {collectors : Nat} {req : PreparedRequest} {point next : Point}
variable {event : WorkEvent} {log done : List Entry} {polled : Polled}

theorem Advances.answered (advances : Advances hooks collectors req point event next done polled)
    (answered : Answered log point) : Answered (log ++ done) next := by
  have unpolled : forall {entry : Entry}, .pollSend ∉ log -> entry ≠ .pollSend ->
      .pollSend ∉ log ++ [entry] := by
    intro entry before other among
    rcases List.mem_append.mp among with earlier | now
    · exact before earlier
    · exact other (List.mem_singleton.mp now).symm
  cases advances with
  | fireRequest => exact unpolled answered nofun
  | requestHook hook rest => exact unpolled answered nofun
  | accepted => trivial
  | rejected error => trivial
  | sendPending => trivial
  | sendFailed error => trivial
  | response resp elapsed pyResp converted =>
      refine ⟨List.mem_append_right _ (List.mem_singleton_self _), ?_⟩
      cases converted
      rfl
  | responseHook answer hook rest => exact ⟨List.mem_append_left _ answered.1, answered.2⟩
  | recordGlobalMetrics answer => exact ⟨List.mem_append_left _ answered.1, answered.2⟩
  | fireResponse answer => exact ⟨List.mem_append_left _ answered.1, answered.2⟩
  | finish answer => exact List.mem_append_left _ answered.1

/-- Only the record itself changes what has been recorded. -/
theorem Advances.counted_kept (advances : Advances hooks collectors req point event next done polled)
    (answered : Answered log point) (notRecord : event ≠ .recordGlobalMetrics) :
    next.counted = point.counted := by
  cases advances with
  | fireRequest => rfl
  | requestHook hook rest => rfl
  | accepted => rfl
  | rejected error => rfl
  | sendPending => rfl
  | sendFailed error => rfl
  | response resp elapsed pyResp converted => rfl
  | responseHook answer hook rest => rfl
  | recordGlobalMetrics answer => exact absurd rfl notRecord
  | fireResponse answer => rfl
  | finish answer => exact congrArg some answered.2.symm

theorem Advances.of_record
    (advances : Advances hooks collectors req point .recordGlobalMetrics next done polled) :
    ∃ answer, point = .responded answer ∧ next = .recorded answer := by
  cases advances with
  | recordGlobalMetrics answer => exact ⟨answer, rfl, rfl⟩

end Points

end Session
end Lkrequest
