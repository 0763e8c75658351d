import Lkrequest.Session.Metering

namespace Lkrequest
namespace Session

open Foundations

/-!
# How many requests the metrics count

While a collector is alive, what has been recorded is what the points of the
requests say: a request past its record is one of the records, with the flag of
its answer.  A request whose `send()` failed is none of them, although its send
was attempted and it has failed.  So the exported totals are right if and only
if no `send()` fails.
-/

/-! ## The records and the points -/

namespace Traffic

/-- The flags of the requests that have been recorded. -/
def flags (state : Traffic) : List Bool :=
  (List.range state.guards.guards.length).filterMap (fun index => (state.works index).point.counted)

/-- Every request tells whether `send()` has been polled. -/
def Telling (state : Traffic) : Prop :=
  forall index, Answered (state.log index) (state.works index).point

variable {state next : Traffic} {event : TrafficEvent}

theorem flags_of_same (length : next.guards.guards.length = state.guards.guards.length)
    (same : ∀ index < state.guards.guards.length,
      (next.works index).point.counted = (state.works index).point.counted) :
    next.flags = state.flags := by
  unfold flags
  rw [length]
  apply List.filterMap_congr
  intro index among
  exact same index (List.mem_range.mp among)

theorem Changes.telling (changes : Changes state next event) (telling : state.Telling) :
    next.Telling := by
  intro index
  unfold log
  cases changes with
  | kept works =>
      rw [works]
      exact telling index
  | made prepared works =>
      rw [works]
      by_cases same : index = state.guards.guards.length
      · rw [same, Function.update_self]
        exact List.not_mem_nil
      · rw [Function.update_of_ne same]
        exact telling index
  | advanced moved workEvent isWork inRange work works length hooks done polled log advances =>
      rw [works]
      by_cases same : index = moved
      · rw [same, Function.update_self, log]
        exact advances.answered (telling moved)
      · rw [Function.update_of_ne same]
        exact telling index

theorem telling_initial : Traffic.initial.Telling := fun _ => List.not_mem_nil

/-- No other step changes what has been recorded. -/
theorem Changes.flags_kept (changes : Changes state next event) (telling : state.Telling)
    (notRecord : forall index, event ≠ .work index .recordGlobalMetrics) : next.flags = state.flags := by
  cases changes with
  | kept works length =>
      apply flags_of_same length
      intro index _
      rw [works]
  | made prepared works length =>
      have fresh : (next.works state.guards.guards.length).point.counted = none := by
        rw [works, Function.update_self]
        rfl
      have last : [state.guards.guards.length].filterMap (fun index => (next.works index).point.counted) =
          [] := List.filterMap_cons_none fresh
      unfold flags
      rw [length, List.range_succ, List.filterMap_append, last, List.append_nil]
      apply List.filterMap_congr
      intro index among
      rw [works, Function.update_of_ne (Nat.ne_of_lt (List.mem_range.mp among))]
  | advanced moved workEvent isWork inRange work works length hooks done polled log advances =>
      apply flags_of_same length
      intro index _
      rw [works]
      by_cases same : index = moved
      · rw [same, Function.update_self]
        apply advances.counted_kept (telling moved)
        rintro rfl
        exact notRecord moved isWork
      · rw [Function.update_of_ne same]

/-- The record adds the flag of its answer. -/
theorem Changes.flags_record {index : Nat} {answer : Answer}
    (changes : Changes state next (.work index .recordGlobalMetrics))
    (point : (state.works index).point = .responded answer) :
    next.flags.Perm (state.flags ++ [answer.isError]) ∧ index < next.guards.guards.length ∧
      (next.works index).point = .recorded answer ∧
      forall other, other ≠ index -> next.works other = state.works other := by
  cases changes with
  | kept _ _ notWork => exact absurd rfl (notWork index _)
  | made _ _ _ notWork => exact absurd rfl (notWork index _)
  | advanced moved workEvent isWork inRange work works length hooks done polled log advances =>
      cases isWork
      rcases advances.of_record with ⟨found, before, after⟩
      cases point.symm.trans before
      have own : (next.works index).point = .recorded answer := by
        rw [works, Function.update_self]
        exact after
      have others : forall other, other ≠ index -> next.works other = state.works other := by
        intro other foreign
        rw [works, Function.update_of_ne foreign]
      refine ⟨?_, length ▸ inRange, own, others⟩
      unfold flags
      rw [length]
      apply perm_filterMap_of_one List.nodup_range (List.mem_range.mpr inRange)
      · rw [point]
        rfl
      · rw [own]
        rfl
      · intro other foreign
        rw [others other foreign]

end Traffic

namespace Metered

variable {ops : Metrics.Floats Seconds} {hostStr : String -> Option String}

/-- This call is the record that some request is inside of. -/
def Inside (state : Metered) (record : Nat) : Prop :=
  ∃ index answer, index < state.traffic.guards.guards.length ∧ state.recording index = some record ∧
    (state.traffic.works index).point = .recorded answer

/-- The records are those of the points, and an unfinished one keeps its request where it is. -/
structure Metering (ops : Metrics.Floats Seconds) (state : Metered) : Prop where
  sound : Metrics.Sound ops state.metrics
  telling : state.traffic.Telling
  counted : (state.metrics.records.map (·.isError)).Perm state.traffic.flags
  inside : forall (record : Nat) (call : Metrics.Call Seconds),
    state.metrics.calls[record]? = some call -> (∃ args, call.operation = .record args) ->
      call.remaining = [] ∨ state.Inside record

theorem metering_initial : Metering ops (.initial ops) where
  sound := Metrics.sound_initial
  telling := Traffic.telling_initial
  counted := List.Perm.refl _
  inside := fun _ _ found => nomatch found

theorem isRecording_of_left {state : Metered} {index record : Nat} {call : Metrics.Call Seconds}
    (own : state.recording index = some record) (found : state.metrics.calls[record]? = some call)
    (left : call.remaining ≠ []) : state.isRecording index = true := by
  unfold isRecording
  rw [own]
  change (state.metrics.calls[record]?).any (fun call => !call.remaining.isEmpty) = true
  rw [found]
  change (!call.remaining.isEmpty) = true
  cases remaining : call.remaining with
  | nil => exact absurd remaining left
  | cons instruction rest => rfl

theorem Metering.traffic {state : Metered} {next : Traffic} {event : TrafficEvent}
    (metering : Metering ops state) (changes : Traffic.Changes state.traffic next event)
    (notRecord : forall index, event ≠ .work index .recordGlobalMetrics)
    (free : forall index work, event = .work index work -> state.isRecording index = false) :
    Metering ops { state with traffic := next } where
  sound := metering.sound
  telling := changes.telling metering.telling
  counted := by
    rw [changes.flags_kept metering.telling notRecord]
    exact metering.counted
  inside := by
    intro record call found recorded
    by_cases ended : call.remaining = []
    · exact Or.inl ended
    · rcases metering.inside record call found recorded with now | ⟨index, answer, inRange, own, point⟩
      · exact absurd now ended
      · right
        cases changes with
        | kept works length =>
            exact ⟨index, answer, Nat.lt_of_lt_of_eq inRange length.symm, own, works ▸ point⟩
        | made prepared works length =>
            refine ⟨index, answer, ?_, own, ?_⟩
            · change index < next.guards.guards.length
              omega
            · change (next.works index).point = .recorded answer
              rw [works, Function.update_of_ne (Nat.ne_of_lt inRange)]
              exact point
        | advanced moved workEvent isWork _ work works length =>
            -- A request inside its record does not go on.
            have other : index ≠ moved := by
              rintro rfl
              have busy : state.isRecording index = true := isRecording_of_left own found ended
              exact Bool.noConfusion (busy.symm.trans (free index workEvent isWork))
            refine ⟨index, answer, Nat.lt_of_lt_of_eq inRange length.symm, own, ?_⟩
            change (next.works index).point = .recorded answer
            rw [works, Function.update_of_ne other]
            exact point

theorem Metering.record {state : Metered} {next : Traffic} {index : Nat} {answer : Answer}
    (metering : Metering ops state)
    (changes : Traffic.Changes state.traffic next (.work index .recordGlobalMetrics))
    (point : (state.traffic.works index).point = .responded answer) :
    Metering ops ⟨next, { state.metrics with
      calls := state.metrics.calls ++ [⟨.record (recordOf hostStr answer),
        (Metrics.Operation.record (recordOf hostStr answer)).program ops, none, none, []⟩] },
      Function.update state.recording index (some state.metrics.calls.length)⟩ := by
  rcases changes.flags_record point with ⟨flags, inRange, recorded, others⟩
  have records : (Metrics.State.records { state.metrics with
      calls := state.metrics.calls ++ [⟨.record (recordOf hostStr answer),
        (Metrics.Operation.record (recordOf hostStr answer)).program ops, none, none, []⟩] }).map
          (·.isError) = state.metrics.records.map (·.isError) ++ [answer.isError] := by
    unfold Metrics.State.records
    rw [List.filterMap_append, List.map_append]
    rfl
  have grows : state.traffic.guards.guards.length = next.guards.guards.length := by
    cases changes with
    | kept _ length => exact length.symm
    | made _ _ _ notWork => exact absurd rfl (notWork index _)
    | advanced _ _ _ _ _ _ length => exact length.symm
  refine ⟨metering.sound.moves (.begin _), changes.telling metering.telling, ?_, ?_⟩
  · rw [records]
    exact (metering.counted.append_right _).trans flags.symm
  · intro record call found isRecord
    rcases Nat.lt_or_ge record state.metrics.calls.length with earlier | new
    · rw [List.getElem?_append_left earlier] at found
      rcases metering.inside record call found isRecord with now | ⟨other, before, known, own, there⟩
      · exact Or.inl now
      · have foreign : other ≠ index := by
          rintro rfl
          exact (nomatch point.symm.trans there)
        refine Or.inr ⟨other, before, grows ▸ known, ?_, ?_⟩
        · exact (Function.update_of_ne foreign _ _).trans own
        · change (next.works other).point = .recorded before
          rw [others other foreign]
          exact there
    · have bound := (List.getElem?_eq_some_iff.mp found).1
      rw [List.length_append, List.length_singleton] at bound
      have last : record = state.metrics.calls.length := by omega
      exact Or.inr ⟨index, answer, inRange, last ▸ Function.update_self _ _ _, recorded⟩

theorem Metering.metrics {state : Metered} {next : Metrics.State Seconds} {event : Metrics.Event Seconds}
    (metering : Metering ops state) (moves : Metrics.Moves ops state.metrics event next)
    (notRecord : forall args, event ≠ .begin (.record args)) :
    Metering ops { state with metrics := next } := by
  rcases moves.continues with ⟨operation, begins, same⟩ | ⟨index, call, after, continues⟩
  · have other : forall args, operation ≠ .record args := by
      rintro args rfl
      exact notRecord args begins
    have records : next.records = state.metrics.records := by
      unfold Metrics.State.records
      rw [same, List.filterMap_append]
      cases operation with
      | record args => exact absurd rfl (other args)
      | reset => exact List.append_nil _
      | scrape kind => exact List.append_nil _
    refine ⟨metering.sound.moves moves, metering.telling, ?_, ?_⟩
    · exact records ▸ metering.counted
    · intro record call found isRecord
      rw [same] at found
      rcases Nat.lt_or_ge record state.metrics.calls.length with earlier | new
      · rw [List.getElem?_append_left earlier] at found
        exact metering.inside record call found isRecord
      · have bound := (List.getElem?_eq_some_iff.mp found).1
        rw [List.length_append, List.length_singleton] at bound
        have last : record = state.metrics.calls.length := by omega
        subst last
        rw [List.getElem?_concat_length] at found
        cases found
        rcases isRecord with ⟨args, recorded⟩
        exact absurd recorded (other args)
  · refine ⟨metering.sound.moves moves, metering.telling, ?_, ?_⟩
    · exact continues.records ▸ metering.counted
    · intro record later found isRecord
      rcases continues.cases found with ⟨rfl, rfl⟩ | ⟨_, before⟩
      · rw [continues.same] at isRecord
        rcases metering.inside record call continues.found isRecord with now | inside
        · exact Or.inl (continues.ended now)
        · exact Or.inr inside
      · exact metering.inside record later before isRecord

theorem Metering.step {state next : Metered} {event : MeteredEvent} (metering : Metering ops state)
    (alive : state.CollectorAlive event) (stepped : state.step ops hostStr event = some next) :
    Metering ops next := by
  cases step_steps stepped with
  | traffic event next taken noRecord free =>
      have changes := Traffic.step_changes taken
      refine metering.traffic changes ?_ free
      -- Without a collector there would be no record.
      rintro index rfl
      cases changes with
      | kept _ _ notWork => exact notWork index _ rfl
      | made _ _ _ notWork => exact notWork index _ rfl
      | advanced moved workEvent isWork inRange work works length hooks done polled log advances =>
          cases isWork
          rcases advances.of_record with ⟨answer, before, _⟩
          exact absurd (noRecord index answer rfl before) (Nat.ne_of_gt (alive rfl))
  | record index answer next taken point _ => exact metering.record (Traffic.step_changes taken) point
  | metrics event metrics taken noRecord =>
      exact metering.metrics (Metrics.step_moves ops taken) noRecord

theorem metering_run {events : List MeteredEvent} {state : Metered}
    (ran : (metered ops hostStr).run (.initial ops) events = some state)
    (alive : (metered ops hostStr).Along CollectorAlive (.initial ops) events) : Metering ops state :=
  (metered ops hostStr).run_invariant_along CollectorAlive (Metering ops)
    (fun _ _ _ _ _ _ metering alive stepped => metering.step alive stepped) metering_initial alive ran

end Metered

/-! ## Sends that fail -/

/-- `execute_request` has returned an exception. -/
def Point.raised : Point -> Bool
  | .returned (.error _) => true
  | _ => false

namespace Traffic

/-- `execute_request` has returned an exception after a poll of `send()`. -/
def sendFailed (state : Traffic) (index : Nat) : Bool :=
  state.attempted index && (state.works index).point.raised

variable {state next : Traffic} {event : TrafficEvent} {index : Nat}

theorem sendFailed_iff : state.sendFailed index = true <->
    .pollSend ∈ state.log index ∧ ∃ error, (state.works index).point = .returned (.error error) := by
  unfold sendFailed attempted
  rw [Bool.and_eq_true, decide_eq_true_iff]
  apply and_congr_right
  intro _
  constructor
  · intro raised
    cases point : (state.works index).point with
    | returned result =>
        cases result with
        | error error => exact ⟨error, rfl⟩
        | ok response =>
            rw [point] at raised
            exact Bool.noConfusion raised
    | _ =>
        rw [point] at raised
        exact Bool.noConfusion raised
  · rintro ⟨error, point⟩
    rw [point]
    rfl

/-- A `send()` has failed by a step that brought its error. -/
theorem Changes.sendFailed_new (changes : Changes state next event) (telling : state.Telling)
    (before : state.sendFailed index ≠ true) (after : next.sendFailed index = true) :
    ∃ error, event = .work index (.pollSend (some (.error error))) := by
  rcases sendFailed_iff.mp after with ⟨polled, error, point⟩
  have unchanged : next.works index ≠ state.works index := by
    intro same
    unfold log at polled
    rw [same] at polled point
    exact before (sendFailed_iff.mpr ⟨polled, error, point⟩)
  cases changes with
  | kept works => exact absurd (congrFun works index) unchanged
  | made prepared works =>
      by_cases same : index = state.guards.guards.length
      · rw [works, same, Function.update_self] at point
        exact (nomatch point)
      · rw [works, Function.update_of_ne same] at unchanged
        exact absurd rfl unchanged
  | advanced moved workEvent isWork inRange work works length hooks done polls written advances =>
      by_cases same : index = moved
      · subst same
        unfold log at polled
        rw [works, Function.update_self, written] at polled
        rw [works, Function.update_self] at point
        have told := telling index
        rw [point] at advances
        generalize (state.works index).point = current at advances told
        cases advances with
        | rejected error =>
            rw [List.append_nil] at polled
            exact absurd polled told
        | sendFailed error => exact ⟨error, isWork⟩
      · rw [works, Function.update_of_ne same] at unchanged
        exact absurd rfl unchanged

theorem Changes.sendFailed_now {error : PyErr}
    (changes : Changes state next (.work index (.pollSend (some (.error error))))) :
    index < next.guards.guards.length ∧ next.sendFailed index = true := by
  cases changes with
  | kept _ _ notWork => exact absurd rfl (notWork index _)
  | made _ _ _ notWork => exact absurd rfl (notWork index _)
  | advanced moved workEvent isWork inRange work works length hooks done polled written advances =>
      cases isWork
      refine ⟨length ▸ inRange, sendFailed_iff.mpr ?_⟩
      unfold log
      rw [works, Function.update_self, written]
      generalize work.point = after at advances
      generalize (state.works index).point = before at advances
      cases advances with
      | sendFailed => exact ⟨List.mem_append_right _ (List.mem_singleton_self _), error, rfl⟩

/-- What has returned does not go on. -/
theorem Changes.sendFailed_kept (changes : Changes state next event)
    (failed : index < state.guards.guards.length ∧ state.sendFailed index = true) :
    index < next.guards.guards.length ∧ next.sendFailed index = true := by
  rcases failed with ⟨known, failed⟩
  have kept : next.works index = state.works index -> next.sendFailed index = true := by
    intro same
    unfold sendFailed attempted log
    rw [same]
    exact failed
  cases changes with
  | kept works length => exact ⟨length ▸ known, kept (congrFun works index)⟩
  | made prepared works length =>
      refine ⟨?_, kept ?_⟩
      · omega
      · rw [works, Function.update_of_ne (Nat.ne_of_lt known)]
  | advanced moved workEvent isWork inRange work works length hooks done polled written advances =>
      refine ⟨length ▸ known, kept ?_⟩
      have other : index ≠ moved := by
        rintro rfl
        rcases sendFailed_iff.mp failed with ⟨_, error, point⟩
        rw [point] at advances
        cases advances
      rw [works, Function.update_of_ne other]

/-- A `send()` has failed if and only if a poll of it brought an error. -/
theorem sendFailed_run {events : List TrafficEvent} (ran : traffic.run initial events = some state) :
    (∃ index < state.guards.guards.length, state.sendFailed index = true) <->
      ∃ index error, .work index (.pollSend (some (.error error))) ∈ events := by
  constructor
  · rintro ⟨index, _, failed⟩
    have fresh : Traffic.initial.sendFailed index ≠ true := Bool.false_ne_true
    rcases traffic.run_turning_point (fun each => each.sendFailed index = true) fresh failed ran with
      ⟨early, event, late, middle, next, split, before, stepped, not_yet, now, _⟩
    have telling : middle.Telling :=
      traffic.run_invariant Telling (fun _ _ _ telling taken => (step_changes taken).telling telling)
        telling_initial before
    rcases (step_changes stepped).sendFailed_new telling not_yet now with ⟨error, rfl⟩
    refine ⟨index, error, ?_⟩
    rw [split]
    exact List.mem_append_right _ List.mem_cons_self
  · rintro ⟨index, error, among⟩
    rcases traffic.run_of_mem among ran with ⟨_, _, middle, next, _, _, stepped, remaining⟩
    have changes : Changes middle next (.work index (.pollSend (some (.error error)))) :=
      step_changes stepped
    refine ⟨index, ?_⟩
    exact traffic.run_invariant
      (fun each => index < each.guards.guards.length ∧ each.sendFailed index = true)
      (fun _ _ _ failed taken => (step_changes taken).sendFailed_kept failed)
      changes.sendFailed_now remaining

/-- Of requests that have returned, those that were sent are the ones that
have been recorded and the ones whose `send()` failed. -/
theorem Telling.tally (telling : state.Telling) {indices : List Nat}
    (returned : ∀ index ∈ indices, ∃ result, (state.works index).point = .returned result) :
    indices.countP state.attempted =
        (indices.filterMap (fun index => (state.works index).point.counted)).length +
          indices.countP state.sendFailed ∧
      indices.countP (fun index => state.attempted index && (state.works index).point.failed) =
        (indices.filterMap (fun index => (state.works index).point.counted)).countP id +
          indices.countP state.sendFailed := by
  induction indices with
  | nil => exact ⟨rfl, rfl⟩
  | cons index rest ih =>
      rcases ih (fun other among => returned other (List.mem_cons_of_mem _ among)) with ⟨sent, failed⟩
      rcases returned index List.mem_cons_self with ⟨result, point⟩
      have told := telling index
      rw [point] at told
      cases result with
      | ok response =>
          have attempt : state.attempted index = true := decide_eq_true told
          have noFailure : state.sendFailed index = false := by
            unfold sendFailed
            rw [point]
            exact Bool.and_false _
          have counted : (state.works index).point.counted = some (decide (400 ≤ response.statusCode)) := by
            rw [point]
            rfl
          have fails : (state.works index).point.failed = decide (400 ≤ response.statusCode) := by
            rw [point]
            rfl
          simp only [List.countP_cons, List.filterMap_cons, counted, List.length_cons, attempt, noFailure,
            fails, sent, failed, Bool.true_and, id, if_true, Bool.false_eq_true, if_false]
          constructor <;> omega
      | error error =>
          have counted : (state.works index).point.counted = none := by
            rw [point]
            rfl
          have alike : state.sendFailed index = state.attempted index := by
            unfold sendFailed
            rw [point]
            exact Bool.and_true _
          have fails : (state.works index).point.failed = true := by
            rw [point]
            rfl
          simp only [List.countP_cons, List.filterMap_cons, counted, alike, fails, sent, failed,
            Bool.and_true]
          constructor <;> omega

end Traffic

/-! ## The exported totals -/

namespace Metered

variable {ops : Metrics.Floats Seconds} {hostStr : String -> Option String}

/-- The steps of the requests. -/
def trafficEvents (events : List MeteredEvent) : List TrafficEvent :=
  events.filterMap (fun event =>
    match event with
    | .traffic event => some event
    | .metrics _ => none)

theorem traffic_run {events : List MeteredEvent} {state final : Metered}
    (ran : (metered ops hostStr).run state events = some final) :
    Session.traffic.run state.traffic (trafficEvents events) = some final.traffic := by
  induction events generalizing state with
  | nil =>
      cases ran
      rfl
  | cons event rest ih =>
      rcases ((metered ops hostStr).run_cons).mp ran with ⟨next, stepped, remaining⟩
      have later := ih remaining
      cases step_steps stepped with
      | traffic event next taken noRecord free =>
          exact (Session.traffic.run_cons).mpr ⟨next, taken, later⟩
      | record index answer next taken point alive =>
          exact (Session.traffic.run_cons).mpr ⟨next, taken, later⟩
      | metrics event metrics taken noRecord => exact later

theorem mem_trafficEvents {events : List MeteredEvent} {event : TrafficEvent} :
    event ∈ trafficEvents events <-> .traffic event ∈ events := by
  unfold trafficEvents
  rw [List.mem_filterMap]
  constructor
  · rintro ⟨each, among, same⟩
    cases each with
    | traffic event =>
        cases same
        exact among
    | metrics event => exact (nomatch same)
  · intro among
    exact ⟨_, among, rfl⟩

/-- When all requests have finished, so have their records. -/
theorem Metering.records_returned {state : Metered} (metering : Metering ops state)
    (returned : ∀ index < state.traffic.guards.guards.length, ∃ result,
      (state.traffic.works index).point = .returned result) :
    ∀ call ∈ state.metrics.calls, (∃ args, call.operation = .record args) -> call.remaining = [] := by
  intro call among isRecord
  rcases List.getElem?_of_mem among with ⟨record, found⟩
  rcases metering.inside record call found isRecord with ended | ⟨index, answer, inRange, _, point⟩
  · exact ended
  · rcases returned index inRange with ⟨result, after⟩
    exact (nomatch point.symm.trans after)

theorem Metering.totals {state : Metered} (metering : Metering ops state)
    (noReset : state.metrics.NoReset)
    (returned : ∀ index < state.traffic.guards.guards.length, ∃ result,
      (state.traffic.works index).point = .returned result) :
    state.metrics.totals .requests = Metrics.wrap state.traffic.flags.length ∧
      state.metrics.totals .errors = Metrics.wrap (state.traffic.flags.countP id) := by
  have totals := metering.sound.totals_of_returned noReset (metering.records_returned returned)
  rw [totals, totals, ← metering.counted.length_eq, ← metering.counted.countP_eq, List.length_map,
    List.countP_map]
  refine ⟨congrArg Metrics.wrap ?_, congrArg Metrics.wrap ?_⟩
  · induction state.metrics.records with
    | nil => rfl
    | cons args rest ih =>
        rw [List.map_cons, List.sum_cons, ih, List.length_cons, Nat.add_comm]
        rfl
  · induction state.metrics.records with
    | nil => rfl
    | cons args rest ih =>
        rw [List.map_cons, List.sum_cons, ih, List.countP_cons, Nat.add_comm]
        rfl

end Metered

theorem Traffic.returned_of_finished {events : List TrafficEvent} {state : Traffic}
    (ran : traffic.run .initial events = some state) (finished : state.Finished) :
    ∀ index < state.guards.guards.length, ∃ result, (state.works index).point = .returned result := by
  intro index inRange
  have worked := finished _ (List.getElem_mem inRange)
  have fits := (Traffic.accounted_run index ran _ (List.getElem?_eq_getElem inRange)).2
  generalize state.guards.guards[index].stage = stage at worked fits
  cases stage with
  | resolved branch result =>
      cases branch with
      | work => exact ⟨result, fits⟩
      | closed => exact Bool.noConfusion worked
  | _ => exact Bool.noConfusion worked

section Contract

variable {ops : Metrics.Floats Seconds} {hostStr : String -> Option String}

/-- While a collector is alive and nothing is reset, the exported totals are the
requests whose send was attempted and those of them that failed, once all have
finished, if and only if no `send()` ended in an error and there are fewer than
2^64 requests. -/
theorem metrics_count_every_request_iff {events : List MeteredEvent} {state : Metered}
    (ran : (metered ops hostStr).run (.initial ops) events = some state)
    (alive : (metered ops hostStr).Along Metered.CollectorAlive (.initial ops) events)
    (noReset : state.metrics.NoReset) (finished : state.traffic.Finished) :
    (state.metrics.read (.total .requests) = .count state.traffic.attempts ∧
        state.metrics.read (.total .errors) = .count state.traffic.failures) <->
      (forall index error, .traffic (.work index (.pollSend (some (.error error)))) ∉ events) ∧
        state.traffic.attempts < 2 ^ 64 := by
  have metering := Metered.metering_run ran alive
  have ranTraffic := Metered.traffic_run ran
  have returned := Traffic.returned_of_finished ranTraffic finished
  rcases metering.totals noReset returned with ⟨requests, errors⟩
  rcases metering.telling.tally (fun index among => returned index (List.mem_range.mp among)) with
    ⟨sent, failed⟩
  have nothing : (List.range state.traffic.guards.guards.length).countP state.traffic.sendFailed = 0 <->
      forall index error, .traffic (.work index (.pollSend (some (.error error)))) ∉ events := by
    rw [List.countP_eq_zero]
    constructor
    · intro none index error among
      rcases (Traffic.sendFailed_run ranTraffic).mpr ⟨index, error, Metered.mem_trafficEvents.mpr among⟩ with
        ⟨other, inRange, failed⟩
      exact none other (List.mem_range.mpr inRange) failed
    · intro noError index inRange failed
      rcases (Traffic.sendFailed_run ranTraffic).mp ⟨index, List.mem_range.mp inRange, failed⟩ with
        ⟨other, error, among⟩
      exact noError other error (Metered.mem_trafficEvents.mp among)
  have fewer : state.traffic.flags.countP id ≤ state.traffic.flags.length := List.countP_le_length
  change Metrics.Value.count (state.metrics.totals .requests) = _ ∧
    Metrics.Value.count (state.metrics.totals .errors) = _ <-> _
  change state.traffic.attempts = state.traffic.flags.length + _ at sent
  change state.traffic.failures = state.traffic.flags.countP id + _ at failed
  rw [Metrics.Value.count.injEq, Metrics.Value.count.injEq, requests, errors, ← nothing, sent, failed]
  unfold Metrics.wrap
  omega

end Contract

/-! ## A refused connection and a missing page -/

def page : PreparedRequest := ⟨"GET", "https://example.com/", none, none⟩

/-- A request up to its `send()`. -/
def sendOne : List MeteredEvent :=
  [.traffic (.outside .session), .traffic .enableMetrics, .traffic (.makeRequest 0 page),
    .traffic (.outside (.poll 0 .workFirst)), .traffic (.work 0 .fireRequest),
    .traffic (.work 0 .applyRequestOptions)]

def refused : List MeteredEvent :=
  sendOne ++ [.traffic (.work 0 (.pollSend (some (.error ⟨.other, "connection refused"⟩))))]

/-- The record takes nine steps: it is too slow for any bucket. -/
def notFound : List MeteredEvent :=
  sendOne ++ [.traffic (.work 0 (.pollSend (some (.ok (⟨404, "https://example.com/", []⟩, 20))))),
    .traffic (.work 0 .recordGlobalMetrics)] ++ List.replicate 9 (.metrics (.advance 0)) ++
      [.traffic (.work 0 .fireResponse), .traffic (.work 0 .finish)]

def exampleHost (url : String) : Option String :=
  if url = "https://example.com/" then some "example.com" else none

theorem a_failure_is_not_counted :
    ∃ state, (metered Metrics.Floats.exact exampleHost).run (.initial Metrics.Floats.exact) refused =
        some state ∧
      (metered Metrics.Floats.exact exampleHost).Along Metered.CollectorAlive
        (.initial Metrics.Floats.exact) refused ∧
      state.metrics.NoReset ∧ state.traffic.Finished ∧ state.traffic.attempts = 1 ∧
      state.traffic.failures = 1 ∧ state.metrics.totals .requests = 0 ∧
      state.metrics.totals .errors = 0 := by
  have computed : ((metered Metrics.Floats.exact exampleHost).run (.initial Metrics.Floats.exact)
      refused).map (fun state => decide (state.metrics.NoReset ∧ state.traffic.Finished ∧
        state.traffic.attempts = 1 ∧ state.traffic.failures = 1 ∧
        state.metrics.totals .requests = 0 ∧ state.metrics.totals .errors = 0)) = some true := by
    decide +kernel
  rcases Option.map_eq_some_iff.mp computed with ⟨state, ran, shown⟩
  exact ⟨state, ran, by decide +kernel, of_decide_eq_true shown⟩

theorem a_missing_page_is_counted :
    ∃ state, (metered Metrics.Floats.exact exampleHost).run (.initial Metrics.Floats.exact) notFound =
        some state ∧
      state.metrics.read (.total .requests) = .count 1 ∧
      state.metrics.read (.total .errors) = .count 1 := by
  have computed : ((metered Metrics.Floats.exact exampleHost).run (.initial Metrics.Floats.exact)
      notFound).map (fun state => decide (state.metrics.NoReset ∧ state.traffic.Finished ∧
        state.traffic.attempts = 1 ∧ state.traffic.failures = 1)) = some true := by
    decide +kernel
  rcases Option.map_eq_some_iff.mp computed with ⟨state, ran, shown⟩
  rcases of_decide_eq_true shown with ⟨noReset, finished, attempts, failures⟩
  have noError : forall index error,
      .traffic (.work index (.pollSend (some (.error error)))) ∉ notFound := by
    intro index error
    simp [notFound, sendOne]
  have few : state.traffic.attempts < 2 ^ 64 := attempts ▸ by decide
  have counted := (metrics_count_every_request_iff ran (by decide +kernel) noReset finished).mpr ⟨noError, few⟩
  rw [attempts, failures] at counted
  exact ⟨state, ran, counted⟩

end Session
end Lkrequest
