import Lkrequest.Metrics.Progress
import Mathlib.Algebra.BigOperators.Fin

namespace Lkrequest
namespace Metrics

open Foundations

/-!
# What is counted

A counter is the sum of the shares that the records have in it.  When all calls
have returned, the share of a record in the counters of its host is all of what
it recorded, and its share in a total is all of it or, after a reset, nothing.
-/

section Shares

variable {F : Type} (ops : Floats F)

/-! ## What a record adds -/

/-- What a record counts for. -/
def Record.adds (args : Record F) : Counter -> Nat
  | .requests => 1
  | .errors => if args.isError then 1 else 0
  | .bytesReceived => args.bodySize
  | .histogram bucket => if bucket ∈ bucketsOf ops args.elapsed then 1 else 0

def Operation.adds (counter : Counter) : Operation F -> Nat
  | .record args => args.adds ops counter
  | .reset => 0
  | .scrape _ => 0

theorem mem_bucketsOf {elapsed : F} {bucket : Nat} :
    bucket ∈ bucketsOf ops elapsed <-> bucket < histogramBuckets.length ∧
      ops.le elapsed (ops.ofRat (histogramBuckets.getD bucket 0)) = true := by
  unfold bucketsOf
  rw [List.mem_filter, List.mem_range]

theorem effects_record (args : Record F) (id : HostId) :
    effects id (args.program ops) =
      args.totalAdds.map (fun add => .add add.1 add.2) ++ .lookup args.host id ::
        ((args.hostAdds ops).map (fun add => .hostAdd id add.1 add.2) ++ [.addToSum id args.elapsed]) := by
  have totals : forall adds : List (Total × Nat),
      effects id (adds.map (fun add => .fetchAdd add.1 add.2 : Total × Nat -> Instruction F)) =
        adds.map (fun add => .add add.1 add.2) := by
    intro adds
    unfold effects
    rw [List.filterMap_map]
    exact congrFun List.filterMap_eq_map adds
  have hosts : forall adds : List (Counter × Nat),
      effects id (adds.map (fun add => .hostFetchAdd add.1 add.2 : Counter × Nat -> Instruction F)) =
        adds.map (fun add => .hostAdd id add.1 add.2) := by
    intro adds
    unfold effects
    rw [List.filterMap_map]
    exact congrFun List.filterMap_eq_map adds
  unfold Record.program Record.hostProgram
  rw [effects, List.filterMap_append, ← effects, ← effects, totals, effects_cons]
  rw [effects, List.filterMap_append, ← effects, ← effects, hosts]
  rfl

theorem sum_ite_of_nodup {keys : List Nat} (distinct : keys.Nodup) (key amount : Nat) :
    (keys.map (fun other => if other = key then amount else 0)).sum = if key ∈ keys then amount else 0 := by
  rw [← List.sum_toFinset _ distinct, Finset.sum_ite_eq']
  simp only [List.mem_toFinset]

/-- The additions to one counter of a host make up what the record counts for. -/
theorem sum_hostAdds (args : Record F) (counter : Counter) :
    ((args.hostAdds ops).map (fun add => if add.1 = counter then add.2 else 0)).sum =
      args.adds ops counter := by
  have buckets : ((bucketsOf ops args.elapsed).map
      (fun bucket => if Counter.histogram bucket = counter then 1 else 0)).sum =
        match counter with
        | .histogram bucket => if bucket ∈ bucketsOf ops args.elapsed then 1 else 0
        | _ => 0 := by
    cases counter with
    | histogram bucket =>
        have once : (bucketsOf ops args.elapsed).Nodup := List.nodup_range.filter _
        simp only [Counter.histogram.injEq]
        exact sum_ite_of_nodup once bucket 1
    | requests => simp
    | errors => simp
    | bytesReceived => simp
  unfold Record.hostAdds
  rw [List.map_append, List.sum_append, List.map_map, Function.comp_def, buckets]
  cases counter <;> cases flag : args.isError <;> simp [Record.adds, flag]

/-! ## The shares of a call that has returned -/

/-- A store of a total or the clearing of the map. -/
def Op.resets : Op F -> Bool
  | .store _ => true
  | .clear => true
  | _ => false

theorem onTotal_cases (op : Op F) (other : Total) :
    op.onTotal other = .keep ∨ (∃ amount, op = .add other amount ∧ op.onTotal other = .add amount) ∨
      (op = .store other ∧ op.onTotal other = .wipe) := by
  cases op with
  | add total amount =>
      by_cases same : total = other
      · subst same
        exact Or.inr (Or.inl ⟨amount, rfl, if_pos rfl⟩)
      · exact Or.inl (if_neg same)
  | store total =>
      by_cases same : total = other
      · subst same
        exact Or.inr (Or.inr ⟨rfl, if_pos rfl⟩)
      · exact Or.inl (if_neg same)
  | lookup host id => exact Or.inl rfl
  | hostAdd id counter amount => exact Or.inl rfl
  | addToSum id elapsed => exact Or.inl rfl
  | clear => exact Or.inl rfl

theorem onTotal_keeps_unreset {op : Op F} (unreset : op.resets = false) (other : Total) :
    op.onTotal other ≠ .wipe := by
  intro wipes
  rcases onTotal_cases op other with keeps | ⟨amount, _, adds⟩ | ⟨stores, _⟩
  · exact (nomatch keeps.symm.trans wipes)
  · exact (nomatch adds.symm.trans wipes)
  · rw [stores] at unreset
    exact Bool.noConfusion unreset

theorem onCounter_cases (op : Op F) (id : HostId) (counter : Counter) :
    op.onCounter id counter = .keep ∨
      ∃ amount, op = .hostAdd id counter amount ∧ op.onCounter id counter = .add amount := by
  cases op with
  | hostAdd other changed amount =>
      by_cases hit : other = id ∧ changed = counter
      · rcases hit with ⟨rfl, rfl⟩
        exact Or.inr ⟨amount, rfl, if_pos ⟨rfl, rfl⟩⟩
      · exact Or.inl (if_neg hit)
  | add total amount => exact Or.inl rfl
  | lookup host other => exact Or.inl rfl
  | addToSum other elapsed => exact Or.inl rfl
  | store total => exact Or.inl rfl
  | clear => exact Or.inl rfl

theorem onCounter_ne_wipe (id : HostId) (counter : Counter) (op : Op F) :
    op.onCounter id counter ≠ .wipe := by
  intro wipes
  rcases onCounter_cases op id counter with keeps | ⟨amount, _, adds⟩
  · exact (nomatch keeps.symm.trans wipes)
  · exact (nomatch adds.symm.trans wipes)

theorem sum_effects (operation : Operation F) (other id : HostId) (counter : Counter) :
    ((effects other (operation.program ops)).map (fun op => (op.onCounter id counter).apply 0)).sum =
      if other = id then operation.adds ops counter else 0 := by
  cases operation with
  | record args =>
      have totals : (args.totalAdds.map (fun _ => 0)).sum = 0 := by
        simp
      have hosts : ((args.hostAdds ops).map (fun add =>
          ((Op.hostAdd other add.1 add.2 : Op F).onCounter id counter).apply 0)).sum =
            if other = id then args.adds ops counter else 0 := by
        by_cases same : other = id
        · rw [if_pos same, ← sum_hostAdds]
          apply congrArg List.sum
          apply List.map_congr_left
          intro add _
          by_cases hit : add.1 = counter <;> simp [Op.onCounter, Move.apply, same, hit]
        · simp [Op.onCounter, Move.apply, same]
      change ((effects other (args.program ops)).map _).sum = _
      rw [effects_record, List.map_append, List.map_cons, List.map_append, List.map_map, List.map_map,
        List.sum_append, List.sum_cons, List.sum_append]
      refine (congrArg₂ (· + ·) totals (congrArg₂ (· + ·) rfl (congrArg₂ (· + ·) hosts rfl))).trans ?_
      change 0 + (0 + ((if other = id then args.adds ops counter else 0) + 0)) =
        if other = id then args.adds ops counter else 0
      omega
  | reset =>
      change _ = if other = id then 0 else 0
      rw [ite_self]
      rfl
  | scrape kind =>
      change _ = if other = id then 0 else 0
      rw [ite_self]
      rfl

/-- The host entry of a call that has one. -/
def Call.hostId (call : Call F) : HostId := call.host.getD 0

theorem Call.getD_hostId (call : Call F) : call.host.getD call.hostId = call.hostId := by
  unfold Call.hostId
  cases call.host <;> rfl

/-- No call is in progress. -/
def State.Idle (state : State F) : Prop := ∀ call ∈ state.calls, call.remaining = []

instance (state : State F) : Decidable state.Idle :=
  inferInstanceAs (Decidable (∀ call ∈ state.calls, call.remaining = []))

/-- The records that were begun. -/
def State.records (state : State F) : List (Record F) :=
  state.calls.filterMap (fun call =>
    match call.operation with
    | .record args => some args
    | .reset => none
    | .scrape _ => none)

variable {ops} {state : State F}

theorem sum_adds (counter : Counter) :
    (state.calls.map (fun call => call.operation.adds ops counter)).sum =
      (state.records.map (fun args => args.adds ops counter)).sum := by
  unfold State.records
  induction state.calls with
  | nil => rfl
  | cons call rest ih =>
      rw [List.map_cons, List.sum_cons, List.filterMap_cons, ih]
      cases call.operation with
      | record args => rfl
      | reset => exact Nat.zero_add _
      | scrape kind => exact Nat.zero_add _

theorem mem_records {args : Record F} :
    args ∈ state.records <-> ∃ call ∈ state.calls, call.operation = .record args := by
  unfold State.records
  rw [List.mem_filterMap]
  constructor
  · rintro ⟨call, among, recorded⟩
    refine ⟨call, among, ?_⟩
    cases does : call.operation with
    | record other =>
        rw [does] at recorded
        rw [Option.some.inj recorded]
    | reset =>
        rw [does] at recorded
        exact (nomatch recorded)
    | scrape kind =>
        rw [does] at recorded
        exact (nomatch recorded)
  · rintro ⟨call, among, does⟩
    refine ⟨call, among, ?_⟩
    rw [does]

theorem Continues.records {next : State F} {index : Nat} {call after : Call F}
    (continues : Continues state next index call after) : next.records = state.records := by
  rcases List.getElem?_eq_some_iff.mp continues.found with ⟨inRange, found⟩
  have operations : next.calls.map Call.operation = state.calls.map Call.operation := by
    rw [continues.calls, List.map_set, continues.same, ← List.map_set, ← found, List.set_getElem_self]
  have general : forall each : State F, each.records = (each.calls.map Call.operation).filterMap
      (fun operation =>
        match operation with
        | .record args => some args
        | .reset => none
        | .scrape _ => none) := by
    intro each
    rw [List.filterMap_map]
    rfl
  rw [general, general, operations]

/-- At any time a call has done a first part of what it does. -/
theorem Tracked.done (tracked : Tracked ops state) {writer : Nat} {call : Call F}
    (found : state.calls[writer]? = some call) {seen : History (Op F)} (isPrefix : seen <+: state.history) :
    opsOf writer seen <+: effects call.hostId (call.operation.program ops) := by
  rw [← (tracked.follows writer call found).done call.hostId call.getD_hostId]
  exact (opsOf_grows isPrefix writer).trans (List.prefix_append _ _)

theorem Tracked.returned (tracked : Tracked ops state) {writer : Nat} {call : Call F}
    (found : state.calls[writer]? = some call) (returned : call.remaining = []) :
    opsOf writer state.history = effects call.hostId (call.operation.program ops) := by
  have done := (tracked.follows writer call found).done call.hostId call.getD_hostId
  rw [returned] at done
  exact (List.append_nil _).symm.trans done

theorem Sound.finished (sound : Sound ops state) (idle : state.Idle) {writer : Nat} {call : Call F}
    (found : state.calls[writer]? = some call) :
    opsOf writer state.history = effects call.hostId (call.operation.program ops) :=
  sound.tracked.returned found (idle call (List.mem_of_getElem? found))

theorem Sound.hostShare (sound : Sound ops state) (idle : state.Idle) {writer : Nat} {call : Call F}
    (found : state.calls[writer]? = some call) (id : HostId) (counter : Counter) :
    share (Op.onCounter id counter) writer state.history =
      if call.hostId = id then call.operation.adds ops counter else 0 := by
  rw [share_eq_sum _ writer (fun entry _ => onCounter_ne_wipe id counter entry.2),
    sound.finished idle found, sum_effects]

theorem movesOf_record (args : Record F) (id : HostId) (other : Total) :
    ((effects id (args.program ops)).map (Op.onTotal other)).filter (· ≠ .keep) =
      if other = .errors ∧ args.isError = false then [] else [.add (args.adds ops other.counter)] := by
  have rest : ((Op.lookup args.host id :: ((args.hostAdds ops).map
      (fun add => .hostAdd id add.1 add.2) ++ [.addToSum id args.elapsed])).map (Op.onTotal other)).filter
        (· ≠ .keep) = [] := by
    apply List.filter_eq_nil_iff.mpr
    intro made among
    rcases List.mem_map.mp among with ⟨op, inOps, rfl⟩
    have keeps : op.onTotal other = .keep := by
      rcases List.mem_cons.mp inOps with rfl | later
      · rfl
      · rcases List.mem_append.mp later with hosts | last
        · rcases List.mem_map.mp hosts with ⟨add, _, rfl⟩
          rfl
        · rw [List.mem_singleton.mp last]
          rfl
    rw [keeps]
    exact Bool.noConfusion
  rw [effects_record, List.map_append, List.filter_append, rest, List.append_nil]
  unfold Record.totalAdds
  cases other <;> cases flag : args.isError <;>
    simp [Op.onTotal, Total.counter, Record.adds, flag]

/-- A store of the total comes after what the writer added to it. -/
def Zeroed (history : History (Op F)) (writer : Nat) (other : Total) : Prop :=
  Followed (Moved (Op.onTotal other) writer) (fun entry => entry.2.onTotal other = .wipe) history

/-- The map is cleared after the writer got this entry of it. -/
def Dropped (history : History (Op F)) (writer : Nat) (host : String) (id : HostId) : Prop :=
  Followed (· = (writer, .lookup host id)) Clears history

open Classical in
theorem Tracked.totalShare (tracked : Tracked ops state) {writer : Nat} {call : Call F} {args : Record F}
    (found : state.calls[writer]? = some call) (returned : call.remaining = [])
    (records : call.operation = .record args) (other : Total) :
    share (Op.onTotal other) writer state.history =
      if Zeroed state.history writer other then 0 else args.adds ops other.counter := by
  have moves : movesOf (Op.onTotal other) writer state.history =
      if other = .errors ∧ args.isError = false then [] else [.add (args.adds ops other.counter)] := by
    unfold movesOf
    rw [tracked.returned found returned, records]
    exact movesOf_record args call.hostId other
  by_cases silent : other = .errors ∧ args.isError = false
  · rw [if_pos silent] at moves
    have nothing : args.adds ops other.counter = 0 := by
      rw [silent.1]
      change (if args.isError then 1 else 0) = 0
      rw [silent.2]
      rfl
    rw [share_of_never moves, nothing, ite_self]
  · rw [if_neg silent] at moves
    exact share_of_once moves

theorem effects_no_add (operation : Operation F) (id : HostId)
    (others : forall args, operation ≠ .record args) :
    ∀ op ∈ effects id (operation.program ops), forall other amount, op ≠ .add other amount := by
  cases operation with
  | record args => exact absurd rfl (others args)
  | reset =>
      have stores : effects id (resetProgram : List (Instruction F)) =
          [.store .requests, .store .errors, .store .bytesReceived, .clear] := rfl
      intro op among other amount same
      change op ∈ effects id resetProgram at among
      rw [stores, same] at among
      simp at among
  | scrape kind =>
      intro op among
      exact absurd among List.not_mem_nil

theorem Tracked.otherShare (tracked : Tracked ops state) {writer : Nat} {call : Call F}
    (found : state.calls[writer]? = some call) (others : forall args, call.operation ≠ .record args)
    (other : Total) : share (Op.onTotal other) writer state.history = 0 := by
  apply share_of_no_add
  intro entry among own amount adds
  rcases onTotal_cases entry.2 other with keeps | ⟨added, same, _⟩ | ⟨_, wipes⟩
  · exact (nomatch keeps.symm.trans adds)
  · have inEffects : entry.2 ∈ effects call.hostId (call.operation.program ops) := by
      apply (tracked.done found (List.prefix_refl _)).subset
      rw [mem_opsOf, ← own]
      exact among
    exact effects_no_add call.operation call.hostId others entry.2 inEffects other added same
  · exact (nomatch wipes.symm.trans adds)

/-! ## Runs without a reset -/

theorem mem_effects_record {args : Record F} {id : HostId} {op : Op F}
    (among : op ∈ effects id (args.program ops)) :
    (∃ add ∈ args.totalAdds, op = .add add.1 add.2) ∨ op = .lookup args.host id ∨
      (∃ add ∈ args.hostAdds ops, op = .hostAdd id add.1 add.2) ∨ op = .addToSum id args.elapsed := by
  rw [effects_record] at among
  rcases List.mem_append.mp among with totals | later
  · rcases List.mem_map.mp totals with ⟨add, inAdds, rfl⟩
    exact Or.inl ⟨add, inAdds, rfl⟩
  · rcases List.mem_cons.mp later with looks | after
    · exact Or.inr (Or.inl looks)
    · rcases List.mem_append.mp after with hosts | last
      · rcases List.mem_map.mp hosts with ⟨add, inAdds, rfl⟩
        exact Or.inr (Or.inr (Or.inl ⟨add, inAdds, rfl⟩))
      · exact Or.inr (Or.inr (Or.inr (List.mem_singleton.mp last)))

/-- What is in the history is what a call of the state does. -/
theorem Tracked.mem_effects (tracked : Tracked ops state) {entry : Nat × Op F}
    (among : entry ∈ state.history) :
    ∃ call, state.calls[entry.1]? = some call ∧
      entry.2 ∈ effects call.hostId (call.operation.program ops) := by
  have there : ∃ call, state.calls[entry.1]? = some call :=
    ⟨_, List.getElem?_eq_getElem (tracked.known entry among)⟩
  rcases there with ⟨call, found⟩
  refine ⟨call, found, ?_⟩
  rw [← (tracked.follows entry.1 call found).done call.hostId call.getD_hostId]
  exact List.mem_append_left _ (mem_opsOf.mpr among)

/-- Who looks up a host is a record for it. -/
theorem Tracked.looked (tracked : Tracked ops state) {writer : Nat} {host : String} {id : HostId}
    (among : (writer, Op.lookup host id) ∈ state.history) :
    ∃ call args, state.calls[writer]? = some call ∧ call.operation = .record args ∧ args.host = host := by
  rcases tracked.mem_effects among with ⟨call, found, inEffects⟩
  cases does : call.operation with
  | record args =>
      rw [does] at inEffects
      rcases mem_effects_record inEffects with ⟨add, _, other⟩ | same | ⟨add, _, other⟩ | other
      · exact (nomatch other)
      · cases same
        exact ⟨call, args, found, does, rfl⟩
      · exact (nomatch other)
      · exact (nomatch other)
  | reset =>
      rw [does] at inEffects
      have stores : Op.lookup host id ∈ [.store .requests, .store .errors, .store .bytesReceived, .clear] :=
        inEffects
      simp at stores
  | scrape kind =>
      rw [does] at inEffects
      exact absurd inEffects List.not_mem_nil

/-- No reset was begun. -/
def State.NoReset (state : State F) : Prop := ∀ call ∈ state.calls, call.operation ≠ .reset

instance [DecidableEq F] (state : State F) : Decidable state.NoReset :=
  inferInstanceAs (Decidable (∀ call ∈ state.calls, call.operation ≠ .reset))

theorem Tracked.nothing_reset (tracked : Tracked ops state) (noReset : state.NoReset) :
    ∀ entry ∈ state.history, entry.2.resets = false := by
  intro entry among
  rcases tracked.mem_effects among with ⟨call, found, inEffects⟩
  cases does : call.operation with
  | reset => exact absurd does (noReset call (List.mem_of_getElem? found))
  | record args =>
      rw [does] at inEffects
      rcases mem_effects_record inEffects with ⟨add, _, same⟩ | same | ⟨add, _, same⟩ | same
      all_goals
        rw [same]
        rfl
  | scrape kind =>
      rw [does] at inEffects
      exact absurd inEffects List.not_mem_nil

theorem not_dropped {history : History (Op F)} (quiet : ∀ entry ∈ history, entry.2.resets = false)
    (writer : Nat) (host : String) (id : HostId) : ¬ Dropped history writer host id := by
  rintro ⟨before, first, after, split, _, later, among, clears⟩
  have kept := quiet later (by rw [split]; exact List.mem_append_right _ (List.mem_cons_of_mem _ among))
  rw [clears] at kept
  exact Bool.noConfusion kept

theorem not_zeroed {history : History (Op F)} (quiet : ∀ entry ∈ history, entry.2.resets = false)
    (writer : Nat) (other : Total) : ¬ Zeroed history writer other := by
  rintro ⟨before, first, after, split, _, later, among, wipes⟩
  have kept := quiet later (by rw [split]; exact List.mem_append_right _ (List.mem_cons_of_mem _ among))
  exact onTotal_keeps_unreset kept other wipes

/-- Without a reset, the totals are what all records that were begun count for,
once these have returned. -/
theorem Sound.totals_of_returned (sound : Sound ops state) (noReset : state.NoReset)
    (returned : ∀ call ∈ state.calls, (∃ args, call.operation = .record args) -> call.remaining = [])
    (other : Total) :
    state.totals other = wrap (state.records.map (fun args => args.adds ops other.counter)).sum := by
  have tracked := sound.tracked
  rw [sound.accurate.totals, total_eq_sum_share _ tracked.known, Finset.sum_range, ← sum_adds,
    ← Fin.sum_univ_fun_getElem]
  apply congrArg wrap
  apply Finset.sum_congr rfl
  intro index _
  have found : state.calls[index.val]? = some state.calls[index.val] := List.getElem?_eq_getElem index.isLt
  cases does : state.calls[index.val].operation with
  | record args =>
      rw [tracked.totalShare found (returned _ (List.mem_of_getElem? found) ⟨args, does⟩) does,
        if_neg (not_zeroed (tracked.nothing_reset noReset) _ _)]
      rfl
  | reset => exact tracked.otherShare found (fun args same => nomatch does.symm.trans same) other
  | scrape kind => exact tracked.otherShare found (fun args same => nomatch does.symm.trans same) other

end Shares

end Metrics
end Lkrequest
