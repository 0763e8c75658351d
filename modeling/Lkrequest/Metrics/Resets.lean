import Lkrequest.Metrics.Totals
import Mathlib.Algebra.BigOperators.Group.List.Basic

namespace Lkrequest
namespace Metrics

open Foundations

/-!
# Resets

`reset` stores zero in the totals one after another and then clears the map.
A record adds to the totals, gets its host from the map and then adds to the
host.  A reset in between takes the record out of one of the two only.
-/

section Consistency

variable {F : Type} (ops : Floats F)

/-- What the hosts in the map hold together. -/
def State.hostsSum (state : State F) (counter : Counter) : Nat :=
  (state.perHost.map (fun entry => (state.hosts entry.2).counters counter)).sum

/-- What a record added to a total stays there as long as its host is in the map. -/
def State.Aligned (state : State F) : Prop :=
  forall writer call args, state.calls[writer]? = some call -> call.operation = .record args ->
    forall other : Total, 0 < args.adds ops other.counter ->
      (Zeroed state.history writer other <-> Dropped state.history writer args.host call.hostId)

/-- Of every record, a total and the hosts in the map hold the same. -/
def State.CountedAlike (state : State F) : Prop :=
  forall writer call args, state.calls[writer]? = some call -> call.operation = .record args ->
    forall other : Total, share (Op.onTotal other) writer state.history =
      (state.perHost.map (fun entry => share (Op.onCounter entry.2 other.counter) writer state.history)).sum

variable {ops} {state : State F}

/-- The hosts in the map hold what a record counts for if they include its own. -/
theorem Sound.hostShares (sound : Sound ops state) (idle : state.Idle) {writer : Nat} {call : Call F}
    (found : state.calls[writer]? = some call) (counter : Counter) :
    (state.perHost.map (fun entry => share (Op.onCounter entry.2 counter) writer state.history)).sum =
      if call.hostId ∈ state.perHost.map Prod.snd then call.operation.adds ops counter else 0 := by
  rw [← sum_ite_of_nodup sound.mapped.ids, List.map_map]
  apply congrArg List.sum
  apply List.map_congr_left
  intro entry _
  rw [sound.hostShare idle found]
  simp only [Function.comp_apply, eq_comm]

/-- The host that a record got is in the map until the map is cleared. -/
theorem Sound.in_map_iff (sound : Sound ops state) (idle : state.Idle) {writer : Nat} {call : Call F}
    {args : Record F} (found : state.calls[writer]? = some call) (records : call.operation = .record args) :
    (args.host, call.hostId) ∈ state.perHost <-> ¬ Dropped state.history writer args.host call.hostId := by
  constructor
  · intro among dropped
    apply sound.mapped.gone writer args.host call.hostId dropped
    exact List.mem_map_of_mem (f := Prod.snd) among
  · intro kept
    rw [sound.accurate.map]
    refine mem_mapOf_of_looked ?_ kept
    rw [← mem_opsOf, sound.finished idle found, records]
    change _ ∈ effects call.hostId (args.program ops)
    rw [effects_record]
    exact List.mem_append_right _ List.mem_cons_self

theorem Sound.id_in_map_iff (sound : Sound ops state) (idle : state.Idle) {writer : Nat} {call : Call F}
    {args : Record F} (found : state.calls[writer]? = some call) (records : call.operation = .record args) :
    call.hostId ∈ state.perHost.map Prod.snd <-> ¬ Dropped state.history writer args.host call.hostId := by
  constructor
  · intro among dropped
    exact sound.mapped.gone writer args.host call.hostId dropped among
  · intro kept
    exact List.mem_map_of_mem (f := Prod.snd) ((sound.in_map_iff idle found records).mpr kept)

/-- A record is held alike exactly when its additions and its host were reset together. -/
theorem Sound.alike_iff_aligned (sound : Sound ops state) (idle : state.Idle) :
    state.CountedAlike <-> state.Aligned ops := by
  classical
  have compare : forall {writer : Nat} {call : Call F} {args : Record F},
      state.calls[writer]? = some call -> call.operation = .record args -> forall other : Total,
        (share (Op.onTotal other) writer state.history =
          (state.perHost.map (fun entry =>
            share (Op.onCounter entry.2 other.counter) writer state.history)).sum <->
        (if Zeroed state.history writer other then 0 else args.adds ops other.counter) =
          if Dropped state.history writer args.host call.hostId then 0
          else args.adds ops other.counter) := by
    intro writer call args found records other
    rw [sound.tracked.totalShare found (idle call (List.mem_of_getElem? found)) records, sound.hostShares idle found, records,
      if_congr (sound.id_in_map_iff idle found records) rfl rfl, ite_not]
    rfl
  constructor
  · intro alike writer call args found records other adds
    have same := (compare found records other).mp (alike writer call args found records other)
    by_cases zeroed : Zeroed state.history writer other <;>
      by_cases dropped : Dropped state.history writer args.host call.hostId
    · exact ⟨fun _ => dropped, fun _ => zeroed⟩
    · rw [if_pos zeroed, if_neg dropped] at same
      omega
    · rw [if_neg zeroed, if_pos dropped] at same
      omega
    · exact ⟨fun here => absurd here zeroed, fun here => absurd here dropped⟩
  · intro aligned writer call args found records other
    rw [compare found records other]
    rcases Nat.eq_zero_or_pos (args.adds ops other.counter) with nothing | adds
    · rw [nothing, ite_self, ite_self]
    · exact if_congr (aligned writer call args found records other adds) rfl rfl

theorem wrap_sum_wrap (numbers : List Nat) : wrap (numbers.map wrap).sum = wrap numbers.sum :=
  (List.sum_nat_mod numbers (2 ^ 64)).symm

/-- Where every record is held alike, the totals are the sums over the map. -/
theorem Sound.totals_eq (sound : Sound ops state) (idle : state.Idle) (alike : state.CountedAlike)
    (other : Total) : state.totals other = wrap (state.hostsSum other.counter) := by
  have known := sound.tracked.known
  have hosts : state.hostsSum other.counter =
      ((state.perHost.map (fun entry =>
        total (Op.onCounter entry.2 other.counter) state.history)).map wrap).sum := by
    unfold State.hostsSum
    rw [List.map_map]
    apply congrArg List.sum
    apply List.map_congr_left
    intro entry _
    exact sound.accurate.counters entry.2 other.counter
  rw [hosts, wrap_sum_wrap, sound.accurate.totals, total_eq_sum_share _ known,
    sum_total_eq (fun entry : String × HostId => Op.onCounter entry.2 other.counter) known]
  apply congrArg wrap
  apply Finset.sum_congr rfl
  intro writer inRange
  have there : ∃ call, state.calls[writer]? = some call :=
    ⟨_, List.getElem?_eq_getElem (Finset.mem_range.mp inRange)⟩
  rcases there with ⟨call, found⟩
  cases records : call.operation with
  | record args => exact alike writer call args found records other
  | reset =>
      rw [sound.tracked.otherShare found (fun args same => nomatch records.symm.trans same),
        sound.hostShares idle found, records]
      exact (ite_self _).symm
  | scrape kind =>
      rw [sound.tracked.otherShare found (fun args same => nomatch records.symm.trans same),
        sound.hostShares idle found, records]
      exact (ite_self _).symm

theorem Sound.aligned_of_noReset (sound : Sound ops state) (noReset : state.NoReset) :
    state.Aligned ops := by
  have quiet := sound.tracked.nothing_reset noReset
  intro writer call args _ _ other _
  constructor
  · exact fun zeroed => absurd zeroed (not_zeroed quiet writer other)
  · exact fun dropped => absurd dropped (not_dropped quiet writer args.host call.hostId)

/-! ## Runs -/

/-- In a state without calls in progress, every record is held alike by the totals
and by the map exactly when what it added was reset on both sides or on neither,
and then the totals are the sums over the hosts. -/
theorem resets_keep_totals_iff [DecidableEq F] {events : List (Event F)}
    (ran : (metrics ops).run (State.initial ops) events = some state) (idle : state.Idle) :
    (state.CountedAlike <-> state.Aligned ops) ∧
      (state.Aligned ops -> forall other, state.totals other = wrap (state.hostsSum other.counter)) := by
  have sound := sound_of_run ran
  have same := sound.alike_iff_aligned idle
  exact ⟨same, fun aligned => sound.totals_eq idle (same.mpr aligned)⟩

end Consistency

/-! ## A reset after a record, and one in between -/

def oneRecord : Record Rat := ⟨"a.test", 0, 0, false⟩

/-- The reset begins before the record and does what it does after it. -/
def resetAfterwards : List (Event Rat) :=
  [.begin (.record oneRecord), .begin .reset] ++ List.replicate 17 (.advance 0) ++
    List.replicate 4 (.advance 1)

theorem idle_of_lengths {F : Type} {state : State F} (count : Nat)
    (lengths : state.calls.map (fun call => call.remaining.length) = List.replicate count 0) :
    state.Idle := by
  intro call among
  have length : call.remaining.length ∈ state.calls.map (fun call => call.remaining.length) :=
    List.mem_map_of_mem among
  rw [lengths] at length
  exact List.eq_nil_of_length_eq_zero (List.eq_of_mem_replicate length)

theorem reset_after_record_keeps_totals :
    ∃ state, (metrics Floats.exact).run (State.initial Floats.exact) resetAfterwards = some state ∧
      state.Aligned Floats.exact ∧
      forall other, state.totals other = wrap (state.hostsSum other.counter) := by
  have computed : ((metrics Floats.exact).run (State.initial Floats.exact) resetAfterwards).map
      (fun state => (state.calls.map (fun call => call.remaining.length), state.perHost,
        decide (∀ writer ∈ List.range 2, ∀ other ∈ [Total.requests, .errors, .bytesReceived],
          share (Op.onTotal other) writer state.history = 0))) = some ([0, 0], [], true) := by
    decide +kernel
  rcases Option.map_eq_some_iff.mp computed with ⟨state, ran, shown⟩
  rcases Prod.mk.inj shown with ⟨lengths, rest⟩
  rcases Prod.mk.inj rest with ⟨map, shares⟩
  have alike : state.CountedAlike := by
    intro writer call args found _ other
    have inRange : writer ∈ List.range 2 := by
      have length := congrArg List.length lengths
      rw [List.length_map] at length
      exact List.mem_range.mpr (Nat.lt_of_lt_of_eq (List.getElem?_eq_some_iff.mp found).1 length)
    rw [map, of_decide_eq_true shares writer inRange other (by cases other <;> simp)]
    rfl
  have kept := resets_keep_totals_iff ran (idle_of_lengths 2 lengths)
  exact ⟨state, ran, kept.1.mp alike, kept.2 (kept.1.mp alike)⟩

/-- The record has added to the totals when it is reset, and then goes on. -/
def resetInBetween : List (Event Rat) :=
  [.begin (.record oneRecord), .begin .reset] ++ List.replicate 2 (.advance 0) ++
    List.replicate 4 (.advance 1) ++ List.replicate 15 (.advance 0)

theorem reset_takes_record_out_of_totals :
    ∃ state, (metrics Floats.exact).run (State.initial Floats.exact) resetInBetween = some state ∧
      state.Idle ∧ state.totals .requests = 0 ∧ state.hostsSum .requests = 1 := by
  have computed : ((metrics Floats.exact).run (State.initial Floats.exact) resetInBetween).map
      (fun state => (state.calls.map (fun call => call.remaining.length),
        state.totals .requests, state.hostsSum .requests)) = some ([0, 0], 0, 1) := by
    decide +kernel
  rcases Option.map_eq_some_iff.mp computed with ⟨state, ran, shown⟩
  rcases Prod.mk.inj shown with ⟨lengths, counts⟩
  rcases Prod.mk.inj counts with ⟨totals, hosts⟩
  have idle : state.Idle := idle_of_lengths 2 lengths
  exact ⟨state, ran, idle, totals, hosts⟩

end Metrics
end Lkrequest
