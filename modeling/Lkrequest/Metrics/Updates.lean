import Lkrequest.Metrics.Resets

namespace Lkrequest
namespace Metrics

open Foundations

/-!
# No update is lost

Without a reset, the counters of a host are numbers of its records, and its sum
is made of their durations, whatever the records did between each other's steps.
-/

section Updates

variable {F : Type} (ops : Floats F)

/-- The records that were begun for a host. -/
def State.recordsFor (state : State F) (host : String) : List (Record F) :=
  state.calls.filterMap (fun call =>
    match call.operation with
    | .record args => if args.host = host then some args else none
    | .reset => none
    | .scrape _ => none)

/-- The host has counted these records.  Its counters are `u64`s, which wrap around. -/
structure Counts (host : HostMetrics F) (recorded : List (Record F)) : Prop where
  requests : host.counters .requests = wrap recorded.length
  errors : host.counters .errors = wrap (recorded.countP (·.isError))
  bytesReceived : host.counters .bytesReceived = wrap (recorded.map (·.bodySize)).sum
  histogram : forall bucket, bucket < histogramBuckets.length ->
    host.counters (.histogram bucket) =
      wrap (recorded.countP (fun args => ops.le args.elapsed (ops.ofRat (histogramBuckets.getD bucket 0))))
  nondecreasing : recorded.length < 2 ^ 64 -> forall bucket, bucket + 1 < histogramBuckets.length ->
    host.counters (.histogram bucket) ≤ host.counters (.histogram (bucket + 1))
  bounded : recorded.length < 2 ^ 64 -> forall bucket, bucket < histogramBuckets.length ->
    host.counters (.histogram bucket) ≤ host.counters .requests
  histogramSum : ∃ order : List F, order.Perm (recorded.map (·.elapsed)) ∧
    host.histogramSum = order.foldl ops.add ops.zero

/-! ## Numbers of records -/

theorem sum_ite_eq_countP {Item : Type} (test : Item -> Bool) (items : List Item) :
    (items.map (fun item => if test item then 1 else 0)).sum = items.countP test := by
  induction items with
  | nil => rfl
  | cons item rest ih =>
      rw [List.map_cons, List.sum_cons, List.countP_cons, ih]
      omega

theorem sum_adds_histogram (recorded : List (Record F)) {bucket : Nat}
    (inRange : bucket < histogramBuckets.length) :
    (recorded.map (fun args => args.adds ops (.histogram bucket))).sum =
      recorded.countP (fun args => ops.le args.elapsed (ops.ofRat (histogramBuckets.getD bucket 0))) := by
  rw [← sum_ite_eq_countP]
  apply congrArg List.sum
  apply List.map_congr_left
  intro args _
  change (if bucket ∈ bucketsOf ops args.elapsed then 1 else 0) = _
  refine if_congr ?_ rfl rfl
  rw [mem_bucketsOf]
  exact and_iff_right inRange

theorem histogramBuckets_le {bucket : Nat} (inRange : bucket + 1 < histogramBuckets.length) :
    histogramBuckets.getD bucket 0 ≤ histogramBuckets.getD (bucket + 1) 0 := by
  have all : ∀ bucket ∈ List.range 9,
      histogramBuckets.getD bucket 0 ≤ histogramBuckets.getD (bucket + 1) 0 := by
    decide +kernel
  apply all bucket
  rw [List.mem_range]
  change bucket + 1 < 10 at inRange
  omega

/-- Who is counted in a bucket is counted in the next. -/
theorem le_next_bucket {elapsed : F} {bucket : Nat} (inRange : bucket + 1 < histogramBuckets.length)
    (within : ops.le elapsed (ops.ofRat (histogramBuckets.getD bucket 0)) = true) :
    ops.le elapsed (ops.ofRat (histogramBuckets.getD (bucket + 1) 0)) = true :=
  ops.le_trans _ _ _ within (ops.ofRat_mono _ _ (histogramBuckets_le inRange))

theorem wrap_of_lt {number : Nat} (small : number < 2 ^ 64) : wrap number = number :=
  Nat.mod_eq_of_lt small

/-- The counters follow from the sums of what the records add. -/
theorem counts_of_sums {host : HostMetrics F} {recorded : List (Record F)}
    (sums : forall counter,
      host.counters counter = wrap (recorded.map (fun args => args.adds ops counter)).sum)
    (histogramSum : ∃ order : List F, order.Perm (recorded.map (·.elapsed)) ∧
      host.histogramSum = order.foldl ops.add ops.zero) : Counts ops host recorded := by
  have requests : host.counters .requests = wrap recorded.length := by
    have ones : (recorded.map (fun args => args.adds ops .requests)).sum = recorded.length := by
      simp [Record.adds]
    rw [sums, ones]
  have histogram : forall bucket, bucket < histogramBuckets.length ->
      host.counters (.histogram bucket) =
        wrap (recorded.countP (fun args =>
          ops.le args.elapsed (ops.ofRat (histogramBuckets.getD bucket 0)))) := by
    intro bucket inRange
    rw [sums, sum_adds_histogram ops recorded inRange]
  have small : recorded.length < 2 ^ 64 -> forall test : Record F -> Bool,
      wrap (recorded.countP test) = recorded.countP test := by
    intro few test
    exact wrap_of_lt (Nat.lt_of_le_of_lt List.countP_le_length few)
  refine ⟨requests, ?_, sums .bytesReceived, histogram, ?_, ?_, histogramSum⟩
  · rw [sums, ← sum_ite_eq_countP]
    rfl
  · intro few bucket inRange
    rw [histogram bucket (Nat.lt_of_succ_lt inRange), histogram (bucket + 1) inRange, small few, small few]
    apply List.countP_mono_left
    intro args _ within
    exact le_next_bucket ops inRange within
  · intro few bucket inRange
    rw [histogram bucket inRange, requests, small few, wrap_of_lt few]
    exact List.countP_le_length

/-! ## The records of a host -/

variable {ops} {state : State F}

theorem mem_recordsFor {host : String} {args : Record F} :
    args ∈ state.recordsFor host <->
      args.host = host ∧ ∃ call ∈ state.calls, call.operation = .record args := by
  unfold State.recordsFor
  rw [List.mem_filterMap]
  constructor
  · rintro ⟨call, among, recorded⟩
    cases records : call.operation with
    | record other =>
        rw [records] at recorded
        by_cases own : other.host = host
        · simp only [if_pos own, Option.some.injEq] at recorded
          subst recorded
          exact ⟨own, call, among, records⟩
        · simp only [if_neg own] at recorded
          exact (nomatch recorded)
    | reset =>
        rw [records] at recorded
        exact (nomatch recorded)
    | scrape kind =>
        rw [records] at recorded
        exact (nomatch recorded)
  · rintro ⟨own, call, among, records⟩
    refine ⟨call, among, ?_⟩
    rw [records]
    exact if_pos own

/-- A record got the entry of its host, and only that. -/
theorem Sound.owns_iff (sound : Sound ops state) (idle : state.Idle) (noReset : state.NoReset)
    {writer : Nat} {call : Call F} {args : Record F} (found : state.calls[writer]? = some call)
    (records : call.operation = .record args) {host : String} {id : HostId}
    (inMap : (host, id) ∈ state.perHost) : call.hostId = id <-> args.host = host := by
  have own : (args.host, call.hostId) ∈ state.perHost := by
    apply (sound.in_map_iff idle found records).mpr
    exact not_dropped (sound.tracked.nothing_reset noReset) _ _ _
  constructor
  · intro same
    rw [same] at own
    exact sound.mapped.id_unique own inMap
  · intro same
    rw [same] at own
    exact sound.mapped.host_unique own inMap

/-- What a call adds to a counter of a host. -/
def Operation.addsFor (ops : Floats F) (host : String) (counter : Counter) : Operation F -> Nat
  | .record args => if args.host = host then args.adds ops counter else 0
  | .reset => 0
  | .scrape _ => 0

theorem sum_addsFor (host : String) (counter : Counter) :
    (state.calls.map (fun call => call.operation.addsFor ops host counter)).sum =
      ((state.recordsFor host).map (fun args => args.adds ops counter)).sum := by
  unfold State.recordsFor
  induction state.calls with
  | nil => rfl
  | cons call rest ih =>
      rw [List.map_cons, List.sum_cons, List.filterMap_cons, ih]
      cases call.operation with
      | record args =>
          by_cases own : args.host = host <;> simp [Operation.addsFor, own]
      | reset => exact Nat.zero_add _
      | scrape kind => exact Nat.zero_add _

theorem Sound.host_total (sound : Sound ops state) (idle : state.Idle) (noReset : state.NoReset)
    {host : String} {id : HostId} (inMap : (host, id) ∈ state.perHost) (counter : Counter) :
    total (Op.onCounter id counter) state.history =
      ((state.recordsFor host).map (fun args => args.adds ops counter)).sum := by
  rw [total_eq_sum_share _ sound.tracked.known, Finset.sum_range, ← sum_addsFor,
    ← Fin.sum_univ_fun_getElem]
  apply Finset.sum_congr rfl
  intro index _
  have found : state.calls[index.val]? = some state.calls[index.val] := List.getElem?_eq_getElem index.isLt
  rw [sound.hostShare idle found]
  cases records : state.calls[index.val].operation with
  | record args => exact if_congr (sound.owns_iff idle noReset found records inMap) rfl rfl
  | reset => exact ite_self _
  | scrape kind => exact ite_self _

/-! ## Their durations -/

def Operation.elapsedFor (host : String) : Operation F -> List F
  | .record args => if args.host = host then [args.elapsed] else []
  | .reset => []
  | .scrape _ => []

theorem flatMap_elapsedFor (host : String) :
    state.calls.flatMap (fun call => call.operation.elapsedFor host) =
      (state.recordsFor host).map (·.elapsed) := by
  unfold State.recordsFor
  induction state.calls with
  | nil => rfl
  | cons call rest ih =>
      rw [List.flatMap_cons, List.filterMap_cons, ih]
      cases call.operation with
      | record args =>
          by_cases own : args.host = host <;> simp [Operation.elapsedFor, own]
      | reset => rfl
      | scrape kind => rfl

theorem elapsed_effects (args : Record F) (other id : HostId) :
    (effects other (args.program ops)).filterMap (Op.elapsed id) =
      if other = id then [args.elapsed] else [] := by
  have totals : (args.totalAdds.map (fun add => (.add add.1 add.2 : Op F))).filterMap (Op.elapsed id) = [] := by
    rw [List.filterMap_map]
    exact List.filterMap_eq_nil_iff.mpr (fun _ _ => rfl)
  have hosts : ((args.hostAdds ops).map (fun add => (.hostAdd other add.1 add.2 : Op F))).filterMap
      (Op.elapsed id) = [] := by
    rw [List.filterMap_map]
    exact List.filterMap_eq_nil_iff.mpr (fun _ _ => rfl)
  rw [effects_record, List.filterMap_append, totals, List.nil_append, List.filterMap_cons]
  change ((args.hostAdds ops).map _ ++ [Op.addToSum other args.elapsed]).filterMap (Op.elapsed id) = _
  rw [List.filterMap_append, hosts, List.nil_append]
  by_cases same : other = id <;> simp [Op.elapsed, same]

theorem range_filterMap_getElem? {Item : Type} (items : List Item) :
    (List.range items.length).filterMap (fun index => items[index]?) = items := by
  induction items using List.reverseRecOn with
  | nil => rfl
  | append_singleton items item ih =>
      rw [List.length_append, List.length_singleton, List.range_succ, List.filterMap_append]
      have earlier : (List.range items.length).filterMap (fun index => (items ++ [item])[index]?) = items := by
        refine Eq.trans (List.filterMap_congr ?_) ih
        intro index among
        exact List.getElem?_append_left (List.mem_range.mp among)
      rw [earlier]
      simp

theorem Sound.durations (sound : Sound ops state) (idle : state.Idle) (noReset : state.NoReset)
    {host : String} {id : HostId} (inMap : (host, id) ∈ state.perHost) :
    (elapsedOf id state.history).Perm ((state.recordsFor host).map (·.elapsed)) := by
  have own : ∀ writer ∈ List.range state.calls.length,
      (opsOf writer state.history).filterMap (Op.elapsed id) =
        (state.calls[writer]?).toList.flatMap (fun call => call.operation.elapsedFor host) := by
    intro writer inRange
    have there : ∃ call, state.calls[writer]? = some call :=
      ⟨_, List.getElem?_eq_getElem (List.mem_range.mp inRange)⟩
    rcases there with ⟨call, found⟩
    rw [sound.finished idle found, found, Option.toList_some, List.flatMap_singleton]
    cases records : call.operation with
    | record args =>
        refine (elapsed_effects args call.hostId id).trans ?_
        exact if_congr (sound.owns_iff idle noReset found records inMap) rfl rfl
    | reset => rfl
    | scrape kind => rfl
  have together : (List.range state.calls.length).flatMap (fun writer =>
      (opsOf writer state.history).filterMap (Op.elapsed id)) = (state.recordsFor host).map (·.elapsed) := by
    rw [List.flatMap_congr own, ← List.flatMap_assoc, ← List.filterMap_eq_flatMap_toList,
      range_filterMap_getElem?, flatMap_elapsedFor]
  have parts := (perm_opsOf sound.tracked.known).filterMap (Op.elapsed id)
  rw [List.filterMap_flatMap, together, List.filterMap_map] at parts
  exact parts

theorem Sound.counts (sound : Sound ops state) (idle : state.Idle) (noReset : state.NoReset)
    {host : String} {id : HostId} (inMap : (host, id) ∈ state.perHost) :
    Counts ops (state.hosts id) (state.recordsFor host) := by
  apply counts_of_sums
  · intro counter
    rw [sound.accurate.counters, sound.host_total idle noReset inMap]
  · exact ⟨elapsedOf id state.history, sound.durations idle noReset inMap, sound.accurate.sum id⟩

theorem Sound.hosts_iff (sound : Sound ops state) (idle : state.Idle) (noReset : state.NoReset)
    (host : String) : host ∈ state.perHost.map Prod.fst <-> state.recordsFor host ≠ [] := by
  have quiet := sound.tracked.nothing_reset noReset
  constructor
  · intro among
    rcases List.mem_map.mp among with ⟨entry, inMap, rfl⟩
    rw [sound.accurate.map] at inMap
    rcases looked_of_mem_mapOf inMap with ⟨writer, looked⟩
    rcases sound.tracked.looked looked with ⟨call, args, found, records, own⟩
    apply List.ne_nil_of_mem
    exact mem_recordsFor.mpr ⟨own, call, List.mem_of_getElem? found, records⟩
  · intro recorded
    rcases List.exists_mem_of_ne_nil _ recorded with ⟨args, among⟩
    rcases mem_recordsFor.mp among with ⟨own, call, inCalls, records⟩
    rcases List.getElem?_of_mem inCalls with ⟨writer, found⟩
    have inMap := (sound.in_map_iff idle found records).mpr (not_dropped quiet _ _ _)
    rw [← own]
    exact List.mem_map_of_mem (f := Prod.fst) inMap

/-! ## Runs -/

/-- When all calls have returned and none of them was a reset, every host that was
recorded is in the map once and has counted its records, and the totals are the
sums over the hosts. -/
theorem no_update_is_lost [DecidableEq F] {events : List (Event F)}
    (ran : (metrics ops).run (State.initial ops) events = some state) (idle : state.Idle)
    (noReset : state.NoReset) :
    (state.perHost.map Prod.fst).Nodup ∧
      (forall host, host ∈ state.perHost.map Prod.fst <-> state.recordsFor host ≠ []) ∧
      (∀ entry ∈ state.perHost, Counts ops (state.hosts entry.2) (state.recordsFor entry.1)) ∧
      forall other, state.totals other = wrap (state.hostsSum other.counter) := by
  have sound := sound_of_run ran
  have aligned := sound.aligned_of_noReset noReset
  refine ⟨sound.mapped.names, sound.hosts_iff idle noReset, ?_, ?_⟩
  · exact fun entry inMap => sound.counts idle noReset inMap
  · exact sound.totals_eq idle ((sound.alike_iff_aligned idle).mpr aligned)

end Updates

/-! ## A race of two records -/

def halfSecond : Record Rat := ⟨"a.test", 1 / 2, 10, true⟩

/-- Both make the first record of the host, and one exchange of the sum comes too late. -/
def twoRecords : List (Event Rat) :=
  [.begin (.record halfSecond), .begin (.record halfSecond)] ++
    (List.replicate 14 [.advance 0, .advance 1]).flatten ++ List.replicate 2 (.advance 1)

theorem two_updates_are_not_lost :
    ∃ state, (metrics Floats.exact).run (State.initial Floats.exact) twoRecords = some state ∧
      state.perHost = [("a.test", 0)] ∧
      Counts Floats.exact (state.hosts 0) (state.recordsFor "a.test") ∧
      forall other, state.totals other = wrap (state.hostsSum other.counter) := by
  have computed : ((metrics Floats.exact).run (State.initial Floats.exact) twoRecords).map
      (fun state => (state.calls.map (fun call => (call.remaining.length,
        match call.operation with | .reset => true | _ => false)), state.perHost)) =
          some ([(0, false), (0, false)], [("a.test", 0)]) := by
    decide +kernel
  rcases Option.map_eq_some_iff.mp computed with ⟨state, ran, shown⟩
  rcases Prod.mk.inj shown with ⟨calls, map⟩
  have each : ∀ call ∈ state.calls, (call.remaining.length,
      match call.operation with | .reset => true | _ => false) = (0, false) := by
    intro call among
    have inShown := List.mem_map_of_mem (f := fun call : Call Rat => (call.remaining.length,
      match call.operation with | .reset => true | _ => false)) among
    rw [calls] at inShown
    simpa using inShown
  have idle : state.Idle := by
    intro call among
    exact List.eq_nil_of_length_eq_zero (Prod.mk.inj (each call among)).1
  have noReset : state.NoReset := by
    intro call among resets
    have kept := (Prod.mk.inj (each call among)).2
    rw [resets] at kept
    exact Bool.noConfusion kept
  have kept := no_update_is_lost ran idle noReset
  refine ⟨state, ran, map, ?_, kept.2.2.2⟩
  apply kept.2.2.1 ("a.test", 0)
  rw [map]
  exact List.mem_singleton_self _

/-! ## More than can be counted -/

section Overflow

variable {F : Type} [DecidableEq F] (ops : Floats F)

theorem records_wrap_around (args : Record F) (count : Nat) (positive : 0 < count) :
    ∃ events state, (metrics ops).run (State.initial ops) events = some state ∧ state.Idle ∧
      state.NoReset ∧ (state.recordsFor args.host).length = count ∧
      ∃ entry ∈ state.perHost, entry.1 = args.host ∧
        (state.hosts entry.2).counters .requests = wrap count := by
  rcases records_return ops args count with ⟨events, state, ran, _, idle, operations⟩
  have records : ∀ call ∈ state.calls, call.operation = .record args := by
    intro call among
    have inOperations := List.mem_map_of_mem (f := Call.operation) among
    rw [operations] at inOperations
    exact List.eq_of_mem_replicate inOperations
  have noReset : state.NoReset := by
    intro call among resets
    exact (nomatch (records call among).symm.trans resets)
  have number : (state.recordsFor args.host).length = count := by
    have all : state.recordsFor args.host = state.calls.map (fun _ => args) := by
      unfold State.recordsFor
      rw [← List.filterMap_eq_map]
      apply List.filterMap_congr
      intro call among
      rw [records call among]
      exact if_pos rfl
    rw [all, List.length_map, ← List.length_map (f := Call.operation), operations, List.length_replicate]
  have sound := sound_of_run ran
  have inMap : args.host ∈ state.perHost.map Prod.fst := by
    apply (sound.hosts_iff idle noReset args.host).mpr
    apply List.ne_nil_of_length_pos
    rwa [number]
  rcases List.mem_map.mp inMap with ⟨entry, among, same⟩
  refine ⟨events, state, ran, idle, noReset, number, entry, among, same, ?_⟩
  rw [(sound.counts idle noReset among).requests, same, number]

end Overflow

theorem requests_are_not_the_number_of_records :
    ∃ (events : List (Event Rat)) (state : State Rat),
      (metrics Floats.exact).run (State.initial Floats.exact) events = some state ∧ state.Idle ∧
      state.NoReset ∧ ∃ entry ∈ state.perHost,
        (state.hosts entry.2).counters .requests ≠ (state.recordsFor entry.1).length := by
  rcases records_wrap_around Floats.exact halfSecond (2 ^ 64) (Nat.two_pow_pos 64) with
    ⟨events, state, ran, idle, noReset, number, entry, among, same, requests⟩
  refine ⟨events, state, ran, idle, noReset, entry, among, ?_⟩
  rw [requests, same, number, wrap, Nat.mod_self]
  exact (Nat.two_pow_pos 64).ne

end Metrics
end Lkrequest
