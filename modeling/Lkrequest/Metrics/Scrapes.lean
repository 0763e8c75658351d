import Lkrequest.Foundations.Precedence
import Lkrequest.Metrics.Reads
import Mathlib.Algebra.Order.BigOperators.Group.Finset

namespace Lkrequest
namespace Metrics

open Foundations

/-!
# Scrapes against records

A scrape reads the counters of a host one after the other, and a record adds to
them one after the other.  Two values that a scrape shows compare as the counters
do whenever no record was between its two additions at both reads.
-/

section Values

variable {F : Type} (ops : Floats F)

/-! ## What is compared -/

/-- A value that is at most the other. -/
def Value.Below : Value F -> Value F -> Prop
  | .count first, .count second => first ≤ second
  | .seconds first, .seconds second => ops.le first second = true
  | _, _ => False

/-- Two scrapes show these under one name. -/
def Location.SameSeries : Location -> Location -> Prop
  | .total first, .total second => first = second
  | .counter first _ metric, .counter second _ other => first = second ∧ metric = other
  | .sum first _, .sum second _ => first = second
  | _, _ => False

/-- What the records count for fits into `u64`s. -/
def State.Fits (state : State F) : Prop :=
  forall counter, (state.records.map (fun args => args.adds ops counter)).sum < 2 ^ 64

/-- No duration is negative. -/
def State.Durations (state : State F) : Prop :=
  ∀ args ∈ state.records, ops.le ops.zero args.elapsed = true

/-- What a scrape shows of each host is a histogram. -/
structure WellFormed (call : Call F) : Prop where
  nondecreasing : ∀ low ∈ call.shown, ∀ high ∈ call.shown, forall host id bucket,
    low.location = .counter host id (.histogram bucket) ->
    high.location = .counter host id (.histogram (bucket + 1)) -> low.value.Below ops high.value
  bounded : ∀ low ∈ call.shown, ∀ high ∈ call.shown, forall host id bucket,
    low.location = .counter host id (.histogram bucket) ->
    high.location = .counter host id .requests -> low.value.Below ops high.value

/-- Who had added to the one counter when it was read had added to the other when that was. -/
def Caught (id : HostId) (counter other : Counter) (low high : Shown F) : Prop :=
  forall writer, (∃ amount, (writer, .hostAdd id counter amount) ∈ low.seen) ->
    ∃ amount, (writer, .hostAdd id other amount) ∈ high.seen

/-- From the read of a bucket to that of the next no record stays between its
additions to them, and neither does a new record add to the bucket of a snapshot
that has already read the requests. -/
def Call.OvertakesNone (call : Call F) : Prop :=
  ∀ low ∈ call.shown, ∀ high ∈ call.shown, forall host id bucket other,
    low.location = .counter host id (.histogram bucket) -> high.location = .counter host id other ->
    (other = .histogram (bucket + 1) ∨ (other = .requests ∧ call.operation = .scrape .snapshot)) ->
    Caught id (.histogram bucket) other low high

/-- It adds to this counter. -/
def Op.addsTo (id : HostId) (counter : Counter) : Op F -> Bool
  | .hostAdd other metric _ => decide (other = id ∧ metric = counter)
  | _ => false

theorem addsTo_iff {id : HostId} {counter : Counter} {op : Op F} :
    op.addsTo id counter = true <-> ∃ amount, op = .hostAdd id counter amount := by
  cases op with
  | hostAdd other metric amount =>
      change decide (other = id ∧ metric = counter) = true <-> _
      rw [decide_eq_true_iff]
      constructor
      · rintro ⟨rfl, rfl⟩
        exact ⟨amount, rfl⟩
      · rintro ⟨_, same⟩
        cases same
        exact ⟨rfl, rfl⟩
  | _ => exact ⟨fun no => Bool.noConfusion no, fun ⟨_, same⟩ => nomatch same⟩

/-- `Caught`, by looking through the two histories. -/
def catches (id : HostId) (counter other : Counter) (low high : Shown F) : Bool :=
  low.seen.all (fun entry => !entry.2.addsTo id counter ||
    high.seen.any (fun later => later.1 == entry.1 && later.2.addsTo id other))

theorem Caught.of_catches {id : HostId} {counter other : Counter} {low high : Shown F}
    (catches : catches id counter other low high = true) : Caught id counter other low high := by
  rintro writer ⟨amount, added⟩
  have here := List.all_eq_true.mp catches _ added
  rw [addsTo_iff.mpr ⟨amount, rfl⟩, Bool.not_true, Bool.false_or] at here
  rcases List.any_eq_true.mp here with ⟨⟨index, op⟩, among, both⟩
  rcases Bool.and_eq_true_iff.mp both with ⟨same, adds⟩
  rcases addsTo_iff.mp adds with ⟨number, rfl⟩
  cases beq_iff_eq.mp same
  exact ⟨number, among⟩

/-- `OvertakesNone`, by looking at all pairs of values. -/
def Call.overtakesNone [DecidableEq F] (call : Call F) : Bool :=
  call.shown.all (fun low => call.shown.all (fun high =>
    match low.location, high.location with
    | .counter host id (.histogram bucket), .counter another other counter =>
        !decide (host = another ∧ id = other ∧ (counter = .histogram (bucket + 1) ∨
          (counter = .requests ∧ call.operation = .scrape .snapshot))) ||
          catches id (.histogram bucket) counter low high
    | _, _ => true))

theorem Call.OvertakesNone.of_overtakesNone [DecidableEq F] {call : Call F} (none : call.overtakesNone = true) :
    call.OvertakesNone := by
  intro low isLow high isHigh host id bucket other isBucket isOther kinds
  have here := List.all_eq_true.mp (List.all_eq_true.mp none low isLow) high isHigh
  rw [isBucket, isOther] at here
  dsimp only at here
  rw [decide_eq_true ⟨rfl, rfl, kinds⟩, Bool.not_true, Bool.false_or] at here
  exact .of_catches here

/-! ## What is never more than the records count for -/

variable {ops} {state : State F}

theorem sum_prefix_le {Item : Type} (size : Item -> Nat) {first whole : List Item}
    (isPrefix : first <+: whole) : (first.map size).sum ≤ (whole.map size).sum := by
  rcases isPrefix with ⟨rest, rfl⟩
  rw [List.map_append, List.sum_append]
  exact Nat.le_add_right _ _

theorem sum_total_effects (operation : Operation F) (id : HostId) (other : Total) :
    ((effects id (operation.program ops)).map (fun op => (op.onTotal other).apply 0)).sum =
      operation.adds ops other.counter := by
  cases operation with
  | record args =>
      have totals : (args.totalAdds.map (fun add =>
          ((Op.add add.1 add.2 : Op F).onTotal other).apply 0)).sum = args.adds ops other.counter := by
        unfold Record.totalAdds
        cases other <;> cases flag : args.isError <;>
          simp [Op.onTotal, Move.apply, Total.counter, Record.adds, flag]
      have hosts : ((args.hostAdds ops).map (fun add =>
          ((Op.hostAdd id add.1 add.2 : Op F).onTotal other).apply 0)).sum = 0 := by
        simp [Op.onTotal, Move.apply]
      change ((effects id (args.program ops)).map _).sum = args.adds ops other.counter
      rw [effects_record, List.map_append, List.map_cons, List.map_append, List.map_map, List.map_map,
        List.sum_append, List.sum_cons, List.sum_append]
      exact congrArg₂ (· + ·) totals (congrArg₂ (· + ·) rfl (congrArg₂ (· + ·) hosts rfl))
  | reset => cases other <;> rfl
  | scrape kind => rfl

theorem Tracked.total_le_records (tracked : Tracked ops state) (move : Op F -> Move) (counter : Counter)
    (most : forall (operation : Operation F) (id : HostId),
      ((effects id (operation.program ops)).map (fun op => (move op).apply 0)).sum ≤
        operation.adds ops counter)
    {seen : History (Op F)} (isPrefix : seen <+: state.history) :
    total move seen ≤ (state.records.map (fun args => args.adds ops counter)).sum := by
  have known : ∀ entry ∈ seen, entry.1 < state.calls.length :=
    fun entry among => tracked.known entry (isPrefix.subset among)
  rw [total_eq_sum_share move known, Finset.sum_range, ← sum_adds, ← Fin.sum_univ_fun_getElem]
  apply Finset.sum_le_sum
  intro index _
  have found : state.calls[index.val]? = some state.calls[index.val] := List.getElem?_eq_getElem index.isLt
  calc share move index.val seen
      ≤ ((opsOf index.val seen).map (fun op => (move op).apply 0)).sum := share_le_added move _ _
    _ ≤ _ := sum_prefix_le _ (tracked.done found isPrefix)
    _ ≤ _ := most _ _

/-- The counters have never wrapped around. -/
theorem Tracked.total_fits (tracked : Tracked ops state) (fits : state.Fits ops) {seen : History (Op F)}
    (isPrefix : seen <+: state.history) (other : Total) : total (Op.onTotal other) seen < 2 ^ 64 := by
  apply Nat.lt_of_le_of_lt _ (fits other.counter)
  apply tracked.total_le_records _ other.counter _ isPrefix
  intro operation id
  exact Nat.le_of_eq (sum_total_effects operation id other)

theorem Tracked.counter_fits (tracked : Tracked ops state) (fits : state.Fits ops) {seen : History (Op F)}
    (isPrefix : seen <+: state.history) (id : HostId) (counter : Counter) :
    total (Op.onCounter id counter) seen < 2 ^ 64 := by
  apply Nat.lt_of_le_of_lt _ (fits counter)
  apply tracked.total_le_records _ counter _ isPrefix
  intro operation other
  rw [sum_effects]
  by_cases same : other = id
  · rw [if_pos same]
  · rw [if_neg same]
    exact Nat.zero_le _

/-! ## Later values -/

theorem Tracked.elapsed_nonneg (tracked : Tracked ops state) (durations : state.Durations ops)
    {seen : History (Op F)} (isPrefix : seen <+: state.history) (id : HostId) :
    ∀ elapsed ∈ elapsedOf id seen, ops.le ops.zero elapsed = true := by
  intro elapsed among
  rcases List.mem_filterMap.mp among with ⟨entry, inSeen, adds⟩
  rcases tracked.mem_effects (isPrefix.subset inSeen) with ⟨call, found, inEffects⟩
  cases does : call.operation with
  | record args =>
      have recorded : args ∈ state.records := mem_records.mpr ⟨call, List.mem_of_getElem? found, does⟩
      have own : elapsed ∈ (effects call.hostId (args.program ops)).filterMap (Op.elapsed id) := by
        rw [does] at inEffects
        exact List.mem_filterMap.mpr ⟨entry.2, inEffects, adds⟩
      rw [elapsed_effects] at own
      by_cases same : call.hostId = id
      · rw [if_pos same] at own
        rw [List.mem_singleton.mp own]
        exact durations args recorded
      · rw [if_neg same] at own
        exact absurd own List.not_mem_nil
  | reset =>
      have own : elapsed ∈ (effects call.hostId (resetProgram : List (Instruction F))).filterMap
          (Op.elapsed id) := by
        rw [does] at inEffects
        exact List.mem_filterMap.mpr ⟨entry.2, inEffects, adds⟩
      exact absurd own List.not_mem_nil
  | scrape kind =>
      rw [does] at inEffects
      exact absurd inEffects List.not_mem_nil

/-- Adding what is not negative makes a sum no smaller. -/
theorem sum_grows (added : List F) (nonneg : ∀ elapsed ∈ added, ops.le ops.zero elapsed = true) {sum : F}
    (start : ops.le ops.zero sum = true) :
    ops.le sum (added.foldl ops.add sum) = true ∧ ops.le ops.zero (added.foldl ops.add sum) = true := by
  induction added generalizing sum with
  | nil => exact ⟨ops.le_refl sum start, start⟩
  | cons elapsed rest ih =>
      have grows := ops.le_add sum elapsed start (nonneg elapsed List.mem_cons_self)
      have above := ops.le_trans _ _ _ start grows
      rcases ih (fun other among => nonneg other (List.mem_cons_of_mem _ among)) above with ⟨more, positive⟩
      exact ⟨ops.le_trans _ _ _ grows more, positive⟩

/-- Until the map is cleared, a host has one entry. -/
theorem Reads.same_entry {early late : Shown F} (earlier : Reads ops state early)
    (later : Reads ops state late) {between : History (Op F)} (split : late.seen = early.seen ++ between)
    (quiet : ∀ entry ∈ between, entry.2.resets = false) {host : String} {first second : HostId}
    (isFirst : early.location.host = some (host, first))
    (isSecond : late.location.host = some (host, second)) : first = second := by
  have kept : (host, first) ∈ mapOf late.seen := by
    rw [split]
    apply mapOf_append _ (earlier.host _ isFirst)
    intro entry among clears
    have none := quiet entry among
    rw [clears] at none
    exact Bool.noConfusion none
  exact congrArg Prod.snd (List.inj_on_of_nodup_map later.names kept (later.host _ isSecond) rfl)

theorem sameSeries_cases {first second : Location} (same : first.SameSeries second) :
    (∃ other, first = .total other ∧ second = .total other) ∨
      (∃ host id another counter, first = .counter host id counter ∧ second = .counter host another counter) ∨
      (∃ host id another, first = .sum host id ∧ second = .sum host another) := by
  cases first with
  | total other =>
      cases second with
      | total another =>
          cases (same : other = another)
          exact Or.inl ⟨other, rfl, rfl⟩
      | counter host id counter => exact same.elim
      | sum host id => exact same.elim
  | counter host id counter =>
      cases second with
      | total another => exact same.elim
      | counter otherHost another metric =>
          rcases (same : host = otherHost ∧ counter = metric) with ⟨rfl, rfl⟩
          exact Or.inr (Or.inl ⟨host, id, another, counter, rfl, rfl⟩)
      | sum otherHost another => exact same.elim
  | sum host id =>
      cases second with
      | total another => exact same.elim
      | counter otherHost another metric => exact same.elim
      | sum otherHost another =>
          cases (same : host = otherHost)
          exact Or.inr (Or.inr ⟨host, id, another, rfl, rfl⟩)

/-- What is shown later under the same name is no smaller, if nothing was reset. -/
theorem Reads.below_later {early late : Shown F} (earlier : Reads ops state early)
    (later : Reads ops state late) (tracked : Tracked ops state) (fits : state.Fits ops)
    (durations : state.Durations ops) {between : History (Op F)}
    (split : late.seen = early.seen ++ between) (quiet : ∀ entry ∈ between, entry.2.resets = false)
    (same : early.location.SameSeries late.location) : early.value.Below ops late.value := by
  rw [earlier.value, later.value]
  rcases sameSeries_cases same with ⟨other, first, second⟩ | ⟨host, id, another, counter, first, second⟩ |
    ⟨host, id, another, first, second⟩
  · rw [first, second]
    change wrap _ ≤ wrap _
    rw [wrap_of_lt (tracked.total_fits fits earlier.seen other),
      wrap_of_lt (tracked.total_fits fits later.seen other), split]
    exact total_append _ (fun done among => onTotal_keeps_unreset (quiet done among) other)
  · have entry : id = another := by
      apply earlier.same_entry later split quiet
      · rw [first]
        rfl
      · rw [second]
        rfl
    rw [first, second, ← entry]
    change wrap _ ≤ wrap _
    rw [wrap_of_lt (tracked.counter_fits fits earlier.seen id counter),
      wrap_of_lt (tracked.counter_fits fits later.seen id counter), split]
    exact total_append _ (fun done _ => onCounter_ne_wipe id counter done.2)
  · have entry : id = another := by
      apply earlier.same_entry later split quiet
      · rw [first]
        rfl
      · rw [second]
        rfl
    have nonneg := tracked.elapsed_nonneg durations later.seen id
    have parts : elapsedOf id late.seen = elapsedOf id early.seen ++ elapsedOf id between := by
      rw [split]
      exact List.filterMap_append
    rw [parts] at nonneg
    rw [first, second, ← entry]
    change ops.le _ ((elapsedOf id late.seen).foldl ops.add ops.zero) = true
    rw [parts, List.foldl_append]
    have start := sum_grows (elapsedOf id early.seen)
      (fun elapsed among => nonneg elapsed (List.mem_append_left _ among)) ops.le_zero
    exact (sum_grows (elapsedOf id between)
      (fun elapsed among => nonneg elapsed (List.mem_append_right _ among)) start.2).1

/-! ## Values of one scrape -/

/-- The counters that a record adds one to. -/
def Counter.Unit : Counter -> Prop
  | .requests => True
  | .histogram _ => True
  | _ => False

theorem hostAdds_unit {args : Record F} {add : Counter × Nat} (among : add ∈ args.hostAdds ops)
    (isUnit : add.1.Unit) : add.2 = 1 := by
  rcases List.mem_append.mp among with first | buckets
  · rcases List.mem_append.mp first with always | errors
    · simp only [List.mem_cons, List.not_mem_nil, or_false] at always
      rcases always with rfl | rfl
      · rfl
      · exact isUnit.elim
    · by_cases failed : args.isError = true
      · rw [if_pos failed] at errors
        rw [List.mem_singleton.mp errors]
      · rw [if_neg failed] at errors
        exact absurd errors List.not_mem_nil
  · rcases List.mem_map.mp buckets with ⟨bucket, _, rfl⟩
    rfl

theorem adds_unit (operation : Operation F) {counter : Counter} (isUnit : counter.Unit) :
    operation.adds ops counter ≤ 1 := by
  cases operation with
  | record args =>
      cases counter with
      | requests => exact Nat.le_refl 1
      | errors => exact isUnit.elim
      | bytesReceived => exact isUnit.elim
      | histogram bucket =>
          change (if bucket ∈ bucketsOf ops args.elapsed then 1 else 0) ≤ 1
          by_cases within : bucket ∈ bucketsOf ops args.elapsed
          · rw [if_pos within]
          · rw [if_neg within]
            exact Nat.zero_le 1
  | reset => exact Nat.zero_le 1
  | scrape kind => exact Nat.zero_le 1

/-- An addition to a host is one of a record. -/
theorem Tracked.hostAdd_of_record (tracked : Tracked ops state) {writer : Nat} {id : HostId}
    {counter : Counter} {amount : Nat} (among : (writer, .hostAdd id counter amount) ∈ state.history) :
    ∃ call args, state.calls[writer]? = some call ∧ call.operation = .record args ∧
      (counter, amount) ∈ args.hostAdds ops ∧ call.hostId = id := by
  rcases tracked.mem_effects among with ⟨call, found, inEffects⟩
  cases does : call.operation with
  | record args =>
      rw [does] at inEffects
      rcases mem_effects_record inEffects with ⟨add, _, other⟩ | other | ⟨add, inAdds, same⟩ | other
      · exact (nomatch other)
      · exact (nomatch other)
      · cases same
        exact ⟨call, args, found, does, inAdds, rfl⟩
      · exact (nomatch other)
  | reset =>
      rw [does] at inEffects
      have stores : Op.hostAdd id counter amount ∈
          [.store .requests, .store .errors, .store .bytesReceived, .clear] := inEffects
      simp at stores
  | scrape kind =>
      rw [does] at inEffects
      exact absurd inEffects List.not_mem_nil

/-- If everyone who had added to the first counter had added to the second, the first is no larger. -/
theorem Tracked.total_le_of_caught (tracked : Tracked ops state) {low high : Shown F}
    (lowSeen : low.seen <+: state.history) (highSeen : high.seen <+: state.history) {id : HostId}
    {counter other : Counter} (isUnit : counter.Unit) (otherUnit : other.Unit)
    (caught : Caught id counter other low high) :
    total (Op.onCounter id counter) low.seen ≤ total (Op.onCounter id other) high.seen := by
  have known : forall {seen : History (Op F)}, seen <+: state.history ->
      ∀ entry ∈ seen, entry.1 < state.calls.length :=
    fun isPrefix entry among => tracked.known entry (isPrefix.subset among)
  rw [total_eq_sum_share _ (known lowSeen), total_eq_sum_share _ (known highSeen)]
  apply Finset.sum_le_sum
  intro writer inRange
  have there : ∃ call, state.calls[writer]? = some call :=
    ⟨_, List.getElem?_eq_getElem (Finset.mem_range.mp inRange)⟩
  rcases there with ⟨call, found⟩
  by_cases added : ∃ amount, (writer, .hostAdd id counter amount) ∈ low.seen
  · rcases caught writer added with ⟨amount, among⟩
    rcases tracked.hostAdd_of_record (highSeen.subset among) with ⟨_, args, _, _, inAdds, _⟩
    have one : amount = 1 := hostAdds_unit inAdds otherUnit
    have atMost : share (Op.onCounter id counter) writer low.seen ≤ 1 := by
      calc share (Op.onCounter id counter) writer low.seen
          ≤ ((opsOf writer low.seen).map (fun op => (op.onCounter id counter).apply 0)).sum :=
            share_le_added _ writer low.seen
        _ ≤ ((effects call.hostId (call.operation.program ops)).map
              (fun op => (op.onCounter id counter).apply 0)).sum :=
            sum_prefix_le _ (tracked.done found lowSeen)
        _ ≤ 1 := by
            rw [sum_effects]
            by_cases same : call.hostId = id
            · rw [if_pos same]
              exact adds_unit call.operation isUnit
            · rw [if_neg same]
              exact Nat.zero_le 1
    have atLeast : 1 ≤ share (Op.onCounter id other) writer high.seen := by
      rw [share_eq_sum _ writer (fun entry _ => onCounter_ne_wipe id other entry.2)]
      apply List.le_sum_of_mem
      refine List.mem_map.mpr ⟨.hostAdd id other amount, mem_opsOf.mpr among, ?_⟩
      simp [Op.onCounter, Move.apply, one]
    exact Nat.le_trans atMost atLeast
  · have nothing : share (Op.onCounter id counter) writer low.seen = 0 := by
      apply share_of_no_add
      intro entry among own amount adds
      rcases onCounter_cases entry.2 id counter with keeps | ⟨number, does, _⟩
      · cases keeps.symm.trans adds
      · apply added
        refine ⟨number, ?_⟩
        rw [← own, ← does]
        exact among
    rw [nothing]
    exact Nat.zero_le _

theorem Reads.below_of_caught {low high : Shown F} (lowReads : Reads ops state low)
    (highReads : Reads ops state high) (tracked : Tracked ops state) (fits : state.Fits ops)
    {host another : String} {id : HostId} {counter other : Counter} (isUnit : counter.Unit)
    (otherUnit : other.Unit) (isLow : low.location = .counter host id counter)
    (isHigh : high.location = .counter another id other) (caught : Caught id counter other low high) :
    low.value.Below ops high.value := by
  rw [lowReads.value, highReads.value, isLow, isHigh]
  change wrap _ ≤ wrap _
  rw [wrap_of_lt (tracked.counter_fits fits lowReads.seen id counter),
    wrap_of_lt (tracked.counter_fits fits highReads.seen id other)]
  exact tracked.total_le_of_caught lowReads.seen highReads.seen isUnit otherUnit caught

/-- A record counts a request before it counts it in a bucket. -/
theorem Tracked.requests_first (tracked : Tracked ops state) {seen : History (Op F)}
    (isPrefix : seen <+: state.history) {writer : Nat} {id : HostId} {bucket amount : Nat}
    (among : (writer, .hostAdd id (.histogram bucket) amount) ∈ seen) :
    (writer, .hostAdd id .requests 1) ∈ seen := by
  rcases tracked.hostAdd_of_record (isPrefix.subset among) with ⟨call, args, found, does, _, rfl⟩
  have served := tracked.done found isPrefix
  rw [does] at served
  change opsOf writer seen <+: effects call.hostId (args.program ops) at served
  have order : Ahead (· = Op.hostAdd call.hostId .requests 1)
      (· = Op.hostAdd call.hostId (.histogram bucket) amount) (effects call.hostId (args.program ops)) := by
    rw [effects_record, List.append_cons]
    change Ahead _ _ (_ ++ Op.hostAdd call.hostId .requests 1 :: _)
    refine ahead_of_split ?_ ?_ ?_
    · rfl
    · exact nofun
    · intro op before isBucket
      rcases List.mem_append.mp before with totals | looks
      · rcases List.mem_map.mp totals with ⟨add, _, rfl⟩
        exact (nomatch isBucket)
      · rw [List.mem_singleton.mp looks] at isBucket
        exact (nomatch isBucket)
  rcases order.served served ⟨_, mem_opsOf.mpr among, rfl⟩ with ⟨op, inSeen, rfl⟩
  exact mem_opsOf.mp inSeen

theorem pairwise_in_order {Item : Type} {Related Before : Item -> Item -> Prop} {items : List Item}
    (related : items.Pairwise Related) (before : items.Pairwise Before) {first second : Item}
    (isFirst : first ∈ items) (isSecond : second ∈ items) (differ : first ≠ second)
    (notAfter : ¬ Before second first) : Related first second := by
  induction items with
  | nil => exact absurd isFirst List.not_mem_nil
  | cons head rest ih =>
      rcases List.pairwise_cons.mp related with ⟨headRelated, restRelated⟩
      rcases List.pairwise_cons.mp before with ⟨headBefore, restBefore⟩
      rcases List.mem_cons.mp isFirst with rfl | firstLater
      · rcases List.mem_cons.mp isSecond with same | secondLater
        · exact absurd same.symm differ
        · exact headRelated second secondLater
      · rcases List.mem_cons.mp isSecond with rfl | secondLater
        · exact absurd (headBefore first firstLater) notAfter
        · exact ih restRelated restBefore firstLater secondLater

/-- What a scrape has read is a part of its reads. -/
theorem Reading.reads_part {index : Nat} {call : Call F} {kind : Scrape}
    (reading : Reading state index call) (operation : call.operation = .scrape kind)
    (names : (state.perHost.map Prod.fst).Nodup) :
    ∃ order : List (String × HostId), (order.map Prod.fst).Nodup ∧ call.locations <+: kind.reads order := by
  cases reading with
  | records plain nothing other => exact absurd operation (other kind)
  | totals own same left code reads =>
      refine ⟨[], List.nodup_nil, left, reads.trans ?_⟩
      exact (List.append_nil _).symm
  | hosts own same order left code reads holds through =>
      cases same.symm.trans operation
      exact ⟨order, (through.map Prod.fst).nodup_iff.mpr names, left, reads⟩
  | returned own same order code reads distinct =>
      cases same.symm.trans operation
      exact ⟨order, distinct, reads ▸ List.prefix_refl _⟩

theorem Reading.shows_nothing {index : Nat} {call : Call F} (reading : Reading state index call)
    (other : forall kind, call.operation ≠ .scrape kind) : call.shown = [] := by
  cases reading with
  | records plain nothing _ => exact nothing
  | totals kind operation left code reads => exact absurd operation (other kind)
  | hosts kind operation order left code reads holds through => exact absurd operation (other kind)
  | returned kind operation order code reads distinct => exact absurd operation (other kind)

theorem reads_bucket {kind : Scrape} {order : List (String × HostId)} {host : String} {id : HostId}
    {bucket : Nat} (among : .counter host id (.histogram bucket) ∈ kind.reads order) :
    bucket < histogramBuckets.length := by
  rcases List.mem_append.mp among with totals | ofHost
  · simp [totalReads] at totals
  · rcases List.mem_flatMap.mp ofHost with ⟨entry, _, inReads⟩
    have inBuckets : .counter host id (.histogram bucket) ∈ histogramReads entry.1 entry.2 := by
      cases kind with
      | prometheusText => simpa [Scrape.hostReads] using inReads
      | snapshot => simpa [Scrape.hostReads] using inReads
    rcases List.mem_map.mp inBuckets with ⟨other, inRange, same⟩
    cases same
    exact List.mem_range.mp inRange

/-- A scrape reads the locations of one host in the order of its code. -/
theorem Scraping.in_order (scraping : Scraping ops state) (mapped : Mapped state) {call : Call F}
    (among : call ∈ state.calls) {kind : Scrape} (operation : call.operation = .scrape kind)
    {low high : Shown F} (isLow : low ∈ call.shown) (isHigh : high ∈ call.shown) (differ : low ≠ high)
    (notAfter : ¬ kind.Before high.location low.location) : low.seen <+: high.seen := by
  rcases List.getElem?_of_mem among with ⟨index, found⟩
  rcases (scraping.reading index call found).reads_part operation mapped.names with ⟨order, distinct, part⟩
  have before : call.locations.Pairwise kind.Before := (reads_before kind distinct).sublist part.sublist
  exact pairwise_in_order (scraping.ordered call among) (List.pairwise_map.mp before) isLow isHigh differ notAfter

/-- The count of `prometheus_text` is read when the buckets have been. -/
theorem Scraping.bounded_text (scraping : Scraping ops state) (sound : Sound ops state) {call : Call F}
    (among : call ∈ state.calls) (operation : call.operation = .scrape .prometheusText)
    {low high : Shown F} (isLow : low ∈ call.shown) (isHigh : high ∈ call.shown) {host : String}
    {id : HostId} {bucket : Nat} (isBucket : low.location = .counter host id (.histogram bucket))
    (isCount : high.location = .counter host id .requests) :
    Caught id (.histogram bucket) .requests low high := by
  rcases List.getElem?_of_mem among with ⟨index, found⟩
  rcases (scraping.reading index call found).reads_part operation sound.mapped.names with ⟨order, _, part⟩
  have there : .counter host id (.histogram bucket) ∈ Scrape.prometheusText.reads order := by
    rw [← isBucket]
    exact part.subset (List.mem_map_of_mem isLow)
  have inRange := reads_bucket there
  have differ : low ≠ high := by
    rintro rfl
    exact (nomatch isBucket.symm.trans isCount)
  have notAfter : ¬ Scrape.prometheusText.Before high.location low.location := by
    intro before
    rw [isBucket, isCount] at before
    have below : histogramBuckets.length < bucket := before (host, id) rfl rfl
    omega
  have grows := scraping.in_order sound.mapped among operation isLow isHigh differ notAfter
  rintro writer ⟨amount, added⟩
  have seen := (scraping.reads call among low isLow).seen
  exact ⟨1, grows.subset (sound.tracked.requests_first seen added)⟩

/-- A bucket is at most the count, which is read after it or by no scrape that
a record could overtake. -/
theorem Scraping.bounded (scraping : Scraping ops state) (sound : Sound ops state) (fits : state.Fits ops)
    {call : Call F} (among : call ∈ state.calls) {low high : Shown F} (isLow : low ∈ call.shown)
    (isHigh : high ∈ call.shown) {host : String} {id : HostId} {bucket : Nat}
    (isBucket : low.location = .counter host id (.histogram bucket))
    (isCount : high.location = .counter host id .requests)
    (caught : call.operation = .scrape .snapshot -> Caught id (.histogram bucket) .requests low high) :
    low.value.Below ops high.value := by
  refine (scraping.reads call among low isLow).below_of_caught (scraping.reads call among high isHigh)
    sound.tracked fits ?_ ?_ isBucket isCount ?_
  · trivial
  · trivial
  rcases List.getElem?_of_mem among with ⟨index, found⟩
  cases operation : call.operation with
  | scrape kind =>
      cases kind with
      | prometheusText => exact scraping.bounded_text sound among operation isLow isHigh isBucket isCount
      | snapshot => exact caught operation
  | record args =>
      have nothing := (scraping.reading index call found).shows_nothing (fun _ => by rw [operation]; nofun)
      rw [nothing] at isLow
      exact absurd isLow List.not_mem_nil
  | reset =>
      have nothing := (scraping.reading index call found).shows_nothing (fun _ => by rw [operation]; nofun)
      rw [nothing] at isLow
      exact absurd isLow List.not_mem_nil

/-- A scrape that overtakes no record shows a histogram. -/
theorem Scraping.well_formed (scraping : Scraping ops state) (sound : Sound ops state)
    (fits : state.Fits ops) {call : Call F} (among : call ∈ state.calls) (none : call.OvertakesNone) :
    WellFormed ops call where
  nondecreasing := by
    intro low isLow high isHigh host id bucket isBucket isNext
    refine (scraping.reads call among low isLow).below_of_caught (scraping.reads call among high isHigh)
      sound.tracked fits ?_ ?_ isBucket isNext ?_
    · trivial
    · trivial
    · exact none low isLow high isHigh host id bucket _ isBucket isNext (Or.inl rfl)
  bounded := by
    intro low isLow high isHigh host id bucket isBucket isCount
    refine scraping.bounded sound fits among isLow isHigh isBucket isCount ?_
    intro operation
    exact none low isLow high isHigh host id bucket _ isBucket isCount (Or.inr ⟨rfl, operation⟩)

/-! ## Two scrapes -/

/-- What a step lets a call show was shown before or is read now. -/
theorem Moves.shows {next : State F} {event : Event F} (moves : Moves ops state event next) {index : Nat} {call : Call F}
    (there : next.calls[index]? = some call) :
    ∀ shown ∈ call.shown, shown.seen = state.history ∨
      ∃ before : Call F, state.calls[index]? = some before ∧ shown ∈ before.shown := by
  intro shown among
  rcases moves.continues with ⟨operation, _, rfl⟩ | ⟨moved, before, after, continues⟩
  · rcases Nat.lt_or_ge index state.calls.length with earlier | new
    · rw [List.getElem?_append_left earlier] at there
      exact Or.inr ⟨call, there, among⟩
    · rw [List.getElem?_append_right new] at there
      rcases List.getElem?_eq_some_iff.mp there with ⟨inRange, made⟩
      rw [List.getElem_singleton] at made
      rw [← made] at among
      exact absurd among List.not_mem_nil
  · rcases continues.cases there with ⟨rfl, rfl⟩ | ⟨_, same⟩
    · rcases continues.shows shown among with now | earlier
      · exact Or.inl now
      · exact Or.inr ⟨before, continues.found, earlier⟩
    · exact Or.inr ⟨call, same, among⟩

/-- What has happened since a state: its history goes on, and calls that were not begun
then read what was done until then. -/
structure Since (start state : State F) : Prop where
  grows : start.history <+: state.history
  reads : forall (index : Nat) (call : Call F), start.calls[index]? = none ->
    state.calls[index]? = some call -> ∀ shown ∈ call.shown, start.history <+: shown.seen

theorem since_of_run [DecidableEq F] {start : State F} {events : List (Event F)}
    (ran : (metrics ops).run start events = some state) : Since start state := by
  apply (metrics ops).run_invariant (Since start) _ _ ran
  · intro before event after since stepped
    have moves := step_moves ops stepped
    refine ⟨since.grows.trans moves.grows, ?_⟩
    intro index call unbegun found shown among
    rcases moves.shows found shown among with now | ⟨earlier, there, inEarlier⟩
    · rw [now]
      exact since.grows
    · exact since.reads index earlier unbegun there shown inEarlier
  · refine ⟨List.prefix_refl _, ?_⟩
    intro index call unbegun found
    exact (nomatch unbegun.symm.trans found)

/-- What the second scrape shows is nowhere smaller than what the first shows of it,
where nothing was reset in between. -/
def NeverDown (ops : Floats F) (first second : Call F) : Prop :=
  ∀ early ∈ first.shown, ∀ late ∈ second.shown, early.location.SameSeries late.location ->
    (forall between, late.seen = early.seen ++ between -> ∀ entry ∈ between, entry.2.resets = false) ->
    early.value.Below ops late.value

/-- In every run, every scrape that overtakes no record shows histograms, every
text has its buckets below the count, and nothing that a scrape showed before
another was begun is smaller in the other. -/
theorem scrapes_are_well_formed [DecidableEq F] {earlier later : List (Event F)} {middle : State F}
    (ran : (metrics ops).run (State.initial ops) earlier = some middle)
    (ranOn : (metrics ops).run middle later = some state) (fits : state.Fits ops)
    (durations : state.Durations ops) :
    (∀ call ∈ state.calls, call.OvertakesNone -> WellFormed ops call) ∧
      (∀ call ∈ state.calls, call.operation = .scrape .prometheusText ->
        ∀ low ∈ call.shown, ∀ high ∈ call.shown, forall host id bucket,
          low.location = .counter host id (.histogram bucket) -> high.location = .counter host id .requests ->
            low.value.Below ops high.value) ∧
      forall (index : Nat) (first second : Call F), first ∈ middle.calls -> middle.calls[index]? = .none ->
        state.calls[index]? = some second -> NeverDown ops first second := by
  have whole := (Machine.run_append _).mpr ⟨middle, ran, ranOn⟩
  have scraping := scraping_of_run whole
  have sound := sound_of_run whole
  refine ⟨fun call among none => scraping.well_formed sound fits among none, ?_, ?_⟩
  · intro call among isText low isLow high isHigh host id bucket isBucket isCount
    refine scraping.bounded sound fits among isLow isHigh isBucket isCount ?_
    intro isSnapshot
    exact (nomatch isText.symm.trans isSnapshot)
  · intro index first second isFirst unbegun found early isEarly late isLate same quiet
    have since := since_of_run ranOn
    have before := (scraping_of_run ran).reads first isFirst early isEarly
    rcases before.seen.trans (since.reads index second unbegun found late isLate) with ⟨between, split⟩
    exact (before.later since.grows).below_later
      (scraping.reads second (List.mem_of_getElem? found) late isLate) sound.tracked fits durations
      split.symm (quiet between split.symm) same

/-- The number, where a counter is shown. -/
def Value.number : Value F -> Option Nat
  | .count number => some number
  | .seconds _ => none

theorem below_numbers {first second : Value F} {low high : Nat} (isLow : first.number = some low)
    (isHigh : second.number = some high) (below : first.Below ops second) : low ≤ high := by
  cases first with
  | count number =>
      cases second with
      | count other =>
          cases isLow
          cases isHigh
          exact below
      | seconds sum => exact below.elim
  | seconds sum => exact (nomatch isLow)

end Values

/-! ## A record and two scrapes -/

/-- It is in the last two buckets. -/
def slowRecord : Record Rat := ⟨"a.test", 3, 7, true⟩

/-- A scrape of a map with one host. -/
def scrapeAlone (index : Nat) (reads : Nat) : List (Event Rat) :=
  List.replicate 3 (.advance index) ++ [.lock index [("a.test", 0)]] ++
    List.replicate (reads + 1) (.advance index)

def recordAndSnapshot : List (Event Rat) :=
  [.begin (.record slowRecord)] ++ List.replicate 11 (.advance 0) ++
    [.begin (.scrape .snapshot)] ++ scrapeAlone 1 14

def text : List (Event Rat) := [.begin (.scrape .prometheusText)] ++ scrapeAlone 2 12

/-- The location and the number that a call shows at a place. -/
def Call.shownAt (call : Call Rat) (place : Nat) : Option (Location × Option Nat) :=
  (call.shown[place]?).map (fun shown => (shown.location, shown.value.number))

theorem two_scrapes_of_a_record :
    ∃ (middle state : State Rat) (first second : Call Rat),
      (metrics Floats.exact).run (State.initial Floats.exact) recordAndSnapshot = some middle ∧
      (metrics Floats.exact).run middle text = some state ∧
      first ∈ middle.calls ∧ state.calls[2]? = some second ∧
      second.shownAt 10 = some (.counter "a.test" 0 (.histogram 7), some 0) ∧
      second.shownAt 11 = some (.counter "a.test" 0 (.histogram 8), some 1) ∧
      (∀ call ∈ state.calls, WellFormed Floats.exact call) ∧ NeverDown Floats.exact first second := by
  have computed : ((metrics Floats.exact).run (State.initial Floats.exact) recordAndSnapshot).bind
      (fun middle => ((metrics Floats.exact).run middle text).map (fun state =>
        (middle.calls.length, state.calls.length, state.records, state.calls.all Call.overtakesNone &&
          (state.calls[2]?).all (fun call =>
            decide (call.shownAt 10 = some (.counter "a.test" 0 (.histogram 7), some 0) ∧
              call.shownAt 11 = some (.counter "a.test" 0 (.histogram 8), some 1)))))) =
            some (2, 3, [slowRecord], true) := by
    decide +kernel
  rcases Option.bind_eq_some_iff.mp computed with ⟨middle, ran, mapped⟩
  rcases Option.map_eq_some_iff.mp mapped with ⟨state, ranOn, shown⟩
  rcases Prod.mk.inj shown with ⟨begun, rest⟩
  rcases Prod.mk.inj rest with ⟨ended, rest⟩
  rcases Prod.mk.inj rest with ⟨records, both⟩
  rcases Bool.and_eq_true_iff.mp both with ⟨none, buckets⟩
  have fits : state.Fits Floats.exact := by
    intro counter
    have small : slowRecord.adds Floats.exact counter ≤ 7 := by
      cases counter with
      | requests => decide
      | errors => decide
      | bytesReceived => decide
      | histogram bucket =>
          have unit : (Operation.record slowRecord).adds Floats.exact (.histogram bucket) ≤ 1 := by
            apply adds_unit
            trivial
          exact Nat.le_trans unit (by decide)
    rw [records, List.map_singleton, List.sum_singleton]
    exact Nat.lt_of_le_of_lt small (by decide)
  have durations : state.Durations Floats.exact := by
    rw [State.Durations, records]
    decide +kernel
  have there : ∃ first second, middle.calls[1]? = some first ∧ state.calls[2]? = some second :=
    ⟨_, _, List.getElem?_eq_getElem (by omega), List.getElem?_eq_getElem (by omega)⟩
  rcases there with ⟨first, second, isFirst, isSecond⟩
  rw [isSecond] at buckets
  rcases of_decide_eq_true buckets with ⟨empty, full⟩
  have unbegun : middle.calls[2]? = .none := List.getElem?_eq_none (by omega)
  rcases scrapes_are_well_formed ran ranOn fits durations with ⟨formed, _, neverDown⟩
  have inMiddle := List.mem_of_getElem? isFirst
  exact ⟨middle, state, first, second, ran, ranOn, inMiddle, isSecond, empty, full,
    fun call among => formed call among (.of_overtakesNone (List.all_eq_true.mp none call among)),
    neverDown 2 first second inMiddle unbegun isSecond⟩

/-! ## A record that is overtaken -/

def fastRecord : Record Rat := ⟨"a.test", 0, 0, false⟩

/-- The record stays between its first two buckets while the text is made. -/
def overtakenInBuckets : List (Event Rat) :=
  [.begin (.record fastRecord), .begin (.scrape .prometheusText)] ++ List.replicate 6 (.advance 0) ++
    scrapeAlone 1 12

/-- The snapshot has read the requests, and then the record counts itself there and in a bucket. -/
def overtakenAfterRequests : List (Event Rat) :=
  [.begin (.record fastRecord), .begin (.scrape .snapshot)] ++ List.replicate 3 (.advance 0) ++
    List.replicate 3 (.advance 1) ++ [.lock 1 [("a.test", 0)], .advance 1] ++
    List.replicate 3 (.advance 0) ++ List.replicate 14 (.advance 1)

theorem Call.shown_of_shownAt {call : Call Rat} {place number : Nat} {location : Location}
    (there : call.shownAt place = some (location, some number)) :
    ∃ shown ∈ call.shown, shown.location = location ∧ shown.value.number = some number := by
  rcases Option.map_eq_some_iff.mp there with ⟨shown, found, same⟩
  rcases Prod.mk.inj same with ⟨isAt, isNumber⟩
  exact ⟨shown, List.mem_of_getElem? found, isAt, isNumber⟩

/-- What is computed of the second call of a run, it shows. -/
theorem shows_of_computed {events : List (Event Rat)} {operation : Operation Rat}
    {low high lowNumber highNumber : Nat} {lowAt highAt : Location}
    (computed : ((metrics Floats.exact).run (State.initial Floats.exact) events).bind
      (fun state => (state.calls[1]?).map (fun call =>
        (decide (call.operation = operation ∧ call.remaining = []), call.shownAt low, call.shownAt high))) =
          some (true, some (lowAt, some lowNumber), some (highAt, some highNumber))) :
    ∃ (state : State Rat) (call : Call Rat),
      (metrics Floats.exact).run (State.initial Floats.exact) events = some state ∧
      call ∈ state.calls ∧ call.operation = operation ∧ call.remaining = [] ∧
      (∃ shown ∈ call.shown, shown.location = lowAt ∧ shown.value.number = some lowNumber) ∧
      ∃ shown ∈ call.shown, shown.location = highAt ∧ shown.value.number = some highNumber := by
  rcases Option.bind_eq_some_iff.mp computed with ⟨state, ran, mapped⟩
  rcases Option.map_eq_some_iff.mp mapped with ⟨call, found, shown⟩
  rcases Prod.mk.inj shown with ⟨finished, rest⟩
  rcases Prod.mk.inj rest with ⟨atLow, atHigh⟩
  rcases of_decide_eq_true finished with ⟨does, returned⟩
  exact ⟨state, call, ran, List.mem_of_getElem? found, does, returned, call.shown_of_shownAt atLow,
    call.shown_of_shownAt atHigh⟩

theorem scrapes_show_no_histogram :
    (∃ (state : State Rat) (call : Call Rat),
      (metrics Floats.exact).run (State.initial Floats.exact) overtakenInBuckets = some state ∧
      call ∈ state.calls ∧ call.operation = .scrape .prometheusText ∧ call.remaining = [] ∧
      ¬ WellFormed Floats.exact call) ∧
    ∃ (state : State Rat) (call : Call Rat),
      (metrics Floats.exact).run (State.initial Floats.exact) overtakenAfterRequests = some state ∧
      call ∈ state.calls ∧ call.operation = .scrape .snapshot ∧ call.remaining = [] ∧
      ¬ WellFormed Floats.exact call := by
  constructor
  · have computed : ((metrics Floats.exact).run (State.initial Floats.exact) overtakenInBuckets).bind
        (fun state => (state.calls[1]?).map (fun call =>
          (decide (call.operation = .scrape .prometheusText ∧ call.remaining = []), call.shownAt 3, call.shownAt 4))) =
            some (true, some (.counter "a.test" 0 (.histogram 0), some 1),
              some (.counter "a.test" 0 (.histogram 1), some 0)) := by
      decide +kernel
    rcases shows_of_computed computed with ⟨state, call, ran, among, operation, returned,
      ⟨low, isLow, isBucket, one⟩, ⟨high, isHigh, isNext, zero⟩⟩
    refine ⟨state, call, ran, among, operation, returned, ?_⟩
    intro formed
    have below := formed.nondecreasing low isLow high isHigh "a.test" 0 0 isBucket isNext
    exact absurd (below_numbers one zero below) (by decide)
  · have computed : ((metrics Floats.exact).run (State.initial Floats.exact) overtakenAfterRequests).bind
        (fun state => (state.calls[1]?).map (fun call =>
          (decide (call.operation = .scrape .snapshot ∧ call.remaining = []), call.shownAt 7, call.shownAt 3))) =
            some (true, some (.counter "a.test" 0 (.histogram 0), some 1),
              some (.counter "a.test" 0 .requests, some 0)) := by
      decide +kernel
    rcases shows_of_computed computed with ⟨state, call, ran, among, operation, returned,
      ⟨low, isLow, isBucket, one⟩, ⟨high, isHigh, isCount, zero⟩⟩
    refine ⟨state, call, ran, among, operation, returned, ?_⟩
    intro formed
    have below := formed.bounded low isLow high isHigh "a.test" 0 0 isBucket isCount
    exact absurd (below_numbers one zero below) (by decide)

end Metrics
end Lkrequest
