import Lkrequest.Metrics.Recorder

namespace Lkrequest
namespace Metrics

open Foundations

/-!
# What the history says

Every step is one of a few moves, and in every state the counters, the sums and
the map are what the history says they are.
-/

/-! ## Steps -/

section Steps

variable {F : Type} [DecidableEq F] (ops : Floats F)

/-- What one step does. -/
inductive Moves (state : State F) : Event F -> State F -> Prop
  | begin (operation : Operation F) :
      Moves state (.begin operation) { state with
        calls := state.calls ++ [⟨operation, operation.program ops, none, none, []⟩] }
  | fetchAdd {index : Nat} {call : Call F} {rest : List (Instruction F)} {total : Total} {amount : Nat}
      (found : state.calls[index]? = some call) (left : call.remaining = .fetchAdd total amount :: rest) :
      Moves state (.advance index) (((state.addTotal total amount).setCall index { call with remaining := rest }).log index
        (.add total amount))
  | getHostMetrics {index : Nat} {call : Call F} {rest : List (Instruction F)} {host : String}
      (found : state.calls[index]? = some call) (left : call.remaining = .getHostMetrics host :: rest)
      (free : state.locked = none) :
      Moves state (.advance index) (((state.orInsert host).1.setCall index
        { call with remaining := rest, host := some (state.orInsert host).2 }).log index
          (.lookup host (state.orInsert host).2))
  | hostFetchAdd {index : Nat} {call : Call F} {rest : List (Instruction F)} {counter : Counter}
      {amount : Nat} {id : HostId} (found : state.calls[index]? = some call)
      (left : call.remaining = .hostFetchAdd counter amount :: rest) (owns : call.host = some id) :
      Moves state (.advance index) (((state.addCounter id counter amount).setCall index
        { call with remaining := rest }).log index (.hostAdd id counter amount))
  | loadSum {index : Nat} {call : Call F} {rest : List (Instruction F)} {elapsed : F} (loaded : Option F)
      (found : state.calls[index]? = some call) (left : call.remaining = .addToSum elapsed :: rest) :
      Moves state (.advance index) (state.setCall index { call with loaded := loaded })
  | exchange {index : Nat} {call : Call F} {rest : List (Instruction F)} {elapsed : F} {id : HostId}
      (found : state.calls[index]? = some call) (left : call.remaining = .addToSum elapsed :: rest)
      (owns : call.host = some id) :
      Moves state (.advance index) (((state.setHost id
        { state.hosts id with histogramSum := ops.add (state.hosts id).histogramSum elapsed }).setCall index
          { call with remaining := rest, loaded := none }).log index (.addToSum id elapsed))
  | store {index : Nat} {call : Call F} {rest : List (Instruction F)} {total : Total}
      (found : state.calls[index]? = some call) (left : call.remaining = .store total :: rest) :
      Moves state (.advance index) (((state.setTotal total 0).setCall index { call with remaining := rest }).log index
        (.store total))
  | clear {index : Nat} {call : Call F} {rest : List (Instruction F)}
      (found : state.calls[index]? = some call) (left : call.remaining = .clear :: rest)
      (free : state.locked = none) :
      Moves state (.advance index) (({ state with perHost := [] }.setCall index { call with remaining := rest }).log index
        .clear)
  | load {index : Nat} {call : Call F} {rest : List (Instruction F)} {location : Location}
      (found : state.calls[index]? = some call) (left : call.remaining = .load location :: rest) :
      Moves state (.advance index) (state.setCall index
        { call with
          remaining := rest
          shown := call.shown ++ [⟨location, state.read location, state.history⟩] })
  | unlock {index : Nat} {call : Call F} {rest : List (Instruction F)}
      (found : state.calls[index]? = some call) (left : call.remaining = .unlock :: rest) :
      Moves state (.advance index) ({ state with locked := none }.setCall index { call with remaining := rest })
  | lock {index : Nat} {call : Call F} {rest : List (Instruction F)} {kind : Scrape}
      {order : List (String × HostId)} (found : state.calls[index]? = some call)
      (left : call.remaining = .lock kind :: rest) (free : state.locked = none)
      (through : order.Perm state.perHost) :
      Moves state (.lock index order) ({ state with locked := some index }.setCall index
        { call with remaining := kind.lockedProgram order ++ rest })
  | forget {index : Nat} {call : Call F} (found : state.calls[index]? = some call) :
      Moves state (.exchangeFails index) (state.setCall index { call with loaded := none })

theorem execute_moves {state next : State F} {index : Nat} {call : Call F}
    {instruction : Instruction F} {rest : List (Instruction F)}
    (found : state.calls[index]? = some call) (left : call.remaining = instruction :: rest)
    (executed : state.execute ops index call rest instruction = some next) :
    Moves ops state (.advance index) next := by
  unfold State.execute at executed
  cases instruction with
  | fetchAdd total amount =>
      cases executed
      exact .fetchAdd found left
  | getHostMetrics host =>
      by_cases free : state.locked = none
      · simp only [if_pos free] at executed
        cases executed
        exact .getHostMetrics found left free
      · simp only [if_neg free] at executed
        exact (nomatch executed)
  | hostFetchAdd counter amount =>
      rcases Option.map_eq_some_iff.mp executed with ⟨id, owns, rfl⟩
      exact .hostFetchAdd found left owns
  | addToSum elapsed =>
      rcases Option.map_eq_some_iff.mp executed with ⟨id, owns, rfl⟩
      cases loaded : call.loaded with
      | none => exact .loadSum _ found left
      | some current =>
          by_cases same : (state.hosts id).histogramSum = current
          · simp only [if_pos same]
            rw [← same]
            exact .exchange found left owns
          · simp only [if_neg same]
            exact .loadSum none found left
  | store total =>
      cases executed
      exact .store found left
  | clear =>
      by_cases free : state.locked = none
      · simp only [if_pos free] at executed
        cases executed
        exact .clear found left free
      · simp only [if_neg free] at executed
        exact (nomatch executed)
  | load location =>
      cases executed
      exact .load found left
  | lock kind => exact (nomatch executed)
  | unlock =>
      cases executed
      exact .unlock found left

theorem step_moves {state next : State F} {event : Event F} (stepped : state.step ops event = some next) :
    Moves ops state event next := by
  cases event with
  | begin operation =>
      cases stepped
      exact .begin operation
  | advance index =>
      rcases Option.bind_eq_some_iff.mp stepped with ⟨call, found, advanced⟩
      cases left : call.remaining with
      | nil =>
          rw [left] at advanced
          exact (nomatch advanced)
      | cons instruction rest =>
          rw [left] at advanced
          exact execute_moves ops found left advanced
  | exchangeFails index =>
      rcases Option.bind_eq_some_iff.mp stepped with ⟨call, found, failed⟩
      by_cases loaded : call.loaded.isSome = true
      · rw [if_pos loaded] at failed
        cases failed
        exact .forget found
      · rw [if_neg loaded] at failed
        exact (nomatch failed)
  | lock index order =>
      rcases Option.bind_eq_some_iff.mp stepped with ⟨call, found, locking⟩
      unfold State.lockMap at locking
      split at locking
      · rename_i kind rest left
        by_cases free : state.locked = none ∧ order.Perm state.perHost
        · rw [if_pos free] at locking
          cases locking
          exact .lock found left free.1 free.2
        · rw [if_neg free] at locking
          exact (nomatch locking)
      · exact (nomatch locking)

end Steps

/-! ## What a history says -/

section Meaning

variable {F : Type} (ops : Floats F)

def Op.onTotal (total : Total) : Op F -> Move
  | .add other amount => if other = total then .add amount else .keep
  | .store other => if other = total then .wipe else .keep
  | _ => .keep

def Op.onCounter (id : HostId) (counter : Counter) : Op F -> Move
  | .hostAdd other changed amount => if other = id ∧ changed = counter then .add amount else .keep
  | _ => .keep

/-- The seconds that an operation adds to the sum of a host. -/
def Op.elapsed (id : HostId) : Op F -> Option F
  | .addToSum other elapsed => if other = id then some elapsed else none
  | _ => none

def Op.onMap : Op F -> List (String × HostId) -> List (String × HostId)
  | .lookup host id, map => if (host, id) ∈ map then map else map ++ [(host, id)]
  | .clear, _ => []
  | _, map => map

def elapsedOf (id : HostId) (history : History (Op F)) : List F :=
  history.filterMap (fun entry => entry.2.elapsed id)

/-- The map after a history. -/
def mapOf (history : History (Op F)) : List (String × HostId) :=
  history.foldl (fun map entry => entry.2.onMap map) []

/-- The value of a location after a history. -/
def valueOf (history : History (Op F)) : Location -> Value F
  | .total other => .count (wrap (total (Op.onTotal other) history))
  | .counter _ id counter => .count (wrap (total (Op.onCounter id counter) history))
  | .sum _ id => .seconds ((elapsedOf id history).foldl ops.add ops.zero)

theorem elapsedOf_snoc (id : HostId) (history : History (Op F)) (entry : Nat × Op F) :
    elapsedOf id (history ++ [entry]) = elapsedOf id history ++ (entry.2.elapsed id).toList := by
  unfold elapsedOf
  rw [List.filterMap_append]
  cases added : entry.2.elapsed id <;> simp [added]

@[simp] theorem mapOf_snoc (history : History (Op F)) (entry : Nat × Op F) :
    mapOf (history ++ [entry]) = entry.2.onMap (mapOf history) := by
  unfold mapOf
  rw [List.foldl_append, List.foldl_cons, List.foldl_nil]

@[simp] theorem wrap_add_wrap (number amount : Nat) : wrap (wrap number + amount) = wrap (number + amount) :=
  Nat.mod_add_mod number (2 ^ 64) amount

/-- The counters, the sums and the map are what the history says. -/
structure Accurate (state : State F) : Prop where
  read : forall location, state.read location = valueOf ops state.history location
  map : state.perHost = mapOf state.history

variable {ops} {state : State F} (accurate : Accurate ops state)
include accurate

theorem Accurate.totals (other : Total) :
    state.totals other = wrap (total (Op.onTotal other) state.history) :=
  Value.count.inj (accurate.read (.total other))

theorem Accurate.counters (id : HostId) (counter : Counter) :
    (state.hosts id).counters counter = wrap (total (Op.onCounter id counter) state.history) :=
  Value.count.inj (accurate.read (.counter "" id counter))

theorem Accurate.sum (id : HostId) :
    (state.hosts id).histogramSum = (elapsedOf id state.history).foldl ops.add ops.zero :=
  Value.seconds.inj (accurate.read (.sum "" id))

end Meaning

theorem accurate_initial {F : Type} (ops : Floats F) : Accurate ops (State.initial ops) where
  read := by
    intro location
    cases location <;> rfl
  map := rfl

section Accuracy

variable {F : Type} {ops : Floats F} {state : State F}

/-- An operation that leaves the map alone. -/
theorem Accurate.snoc {next : State F} {entry : Nat × Op F} (accurate : Accurate ops state)
    (logged : next.history = state.history ++ [entry])
    (totals : forall other, next.totals other =
      wrap ((entry.2.onTotal other).apply (total (Op.onTotal other) state.history)))
    (counters : forall id counter, (next.hosts id).counters counter =
      wrap ((entry.2.onCounter id counter).apply (total (Op.onCounter id counter) state.history)))
    (sums : forall id, (next.hosts id).histogramSum =
      (entry.2.elapsed id).toList.foldl ops.add (state.hosts id).histogramSum)
    (map : next.perHost = entry.2.onMap state.perHost) : Accurate ops next where
  read := by
    intro location
    rw [logged]
    cases location with
    | total other =>
        change Value.count _ = Value.count _
        rw [total_snoc, totals]
    | counter host id counter =>
        change Value.count _ = Value.count _
        rw [total_snoc, counters]
    | sum host id =>
        change Value.seconds _ = Value.seconds _
        rw [elapsedOf_snoc, List.foldl_append, ← accurate.sum, sums]
  map := by rw [logged, mapOf_snoc, ← accurate.map, map]

theorem entry_mem {host : String} {id : HostId} (found : state.entry host = some id) :
    (host, id) ∈ state.perHost := by
  rcases Option.map_eq_some_iff.mp found with ⟨entry, first, rfl⟩
  have same : entry.1 = host := by simpa using List.find?_some first
  rw [← same]
  exact List.mem_of_find?_eq_some first

theorem entry_none {host : String} (missing : state.entry host = none) :
    ∀ entry ∈ state.perHost, entry.1 ≠ host := by
  intro entry among same
  have nowhere := List.find?_eq_none.mp (Option.map_eq_none_iff.mp missing) entry among
  exact nowhere (decide_eq_true same)

theorem orInsert_history (host : String) : (state.orInsert host).1.history = state.history := by
  unfold State.orInsert
  cases state.entry host <;> rfl

theorem orInsert_calls (host : String) : (state.orInsert host).1.calls = state.calls := by
  unfold State.orInsert
  cases state.entry host <;> rfl

theorem orInsert_set (host : String) (index : Nat) (call : Call F) :
    (state.orInsert host).1.calls.set index call = state.calls.set index call :=
  congrArg (List.set · index call) (orInsert_calls host)

theorem orInsert_totals (host : String) : (state.orInsert host).1.totals = state.totals := by
  unfold State.orInsert
  cases state.entry host <;> rfl

theorem orInsert_hosts (host : String) : (state.orInsert host).1.hosts = state.hosts := by
  unfold State.orInsert
  cases state.entry host <;> rfl

theorem orInsert_map (host : String) :
    (state.orInsert host).1.perHost =
      (Op.lookup host (state.orInsert host).2 : Op F).onMap state.perHost := by
  unfold State.orInsert
  cases found : state.entry host with
  | some id => exact (if_pos (entry_mem found)).symm
  | none =>
      refine (if_neg ?_).symm
      intro among
      exact entry_none found _ among rfl

theorem accurate_moves {next : State F} {event : Event F} (accurate : Accurate ops state)
    (moves : Moves ops state event next) :
    Accurate ops next := by
  cases moves with
  | begin operation => exact ⟨accurate.read, accurate.map⟩
  | loadSum loaded found left => exact ⟨accurate.read, accurate.map⟩
  | load found left => exact ⟨accurate.read, accurate.map⟩
  | unlock found left => exact ⟨accurate.read, accurate.map⟩
  | lock found left free through => exact ⟨accurate.read, accurate.map⟩
  | forget found => exact ⟨accurate.read, accurate.map⟩
  | @fetchAdd index call rest added amount found left =>
      refine accurate.snoc rfl ?_ accurate.counters (fun id => rfl) rfl
      intro other
      change Function.update state.totals added (wrap (state.totals added + amount)) other = _
      by_cases same : added = other
      · subst same
        rw [Function.update_self, accurate.totals, wrap_add_wrap]
        simp [Op.onTotal, Move.apply]
      · rw [Function.update_of_ne (Ne.symm same), accurate.totals]
        simp [Op.onTotal, Move.apply, same]
  | @getHostMetrics index call rest host found left free =>
      refine accurate.snoc (congrArg (· ++ _) (orInsert_history host)) ?_ ?_ ?_ (orInsert_map host)
      · intro other
        change (state.orInsert host).1.totals other = _
        rw [orInsert_totals]
        exact accurate.totals other
      · intro id counter
        change ((state.orInsert host).1.hosts id).counters counter = _
        rw [orInsert_hosts]
        exact accurate.counters id counter
      · intro id
        change ((state.orInsert host).1.hosts id).histogramSum = _
        rw [orInsert_hosts]
        rfl
  | @hostFetchAdd index call rest changed amount id found left owns =>
      refine accurate.snoc rfl accurate.totals ?_ ?_ rfl
      · intro other counter
        change (Function.update state.hosts id _ other).counters counter = _
        by_cases same : id = other
        · subst same
          rw [Function.update_self]
          change Function.update (state.hosts id).counters changed _ counter = _
          by_cases hit : changed = counter
          · subst hit
            rw [Function.update_self, accurate.counters, wrap_add_wrap]
            simp [Op.onCounter, Move.apply]
          · rw [Function.update_of_ne (Ne.symm hit), accurate.counters]
            simp [Op.onCounter, Move.apply, hit]
        · rw [Function.update_of_ne (Ne.symm same), accurate.counters]
          simp [Op.onCounter, Move.apply, same]
      · intro other
        change (Function.update state.hosts id _ other).histogramSum = (state.hosts other).histogramSum
        by_cases same : other = id
        · rw [same, Function.update_self]
        · rw [Function.update_of_ne same]
  | @exchange index call rest elapsed id found left owns =>
      refine accurate.snoc rfl accurate.totals ?_ ?_ rfl
      · intro other counter
        refine Eq.trans ?_ (accurate.counters other counter)
        change (Function.update state.hosts id _ other).counters counter = (state.hosts other).counters counter
        by_cases same : other = id
        · rw [same, Function.update_self]
        · rw [Function.update_of_ne same]
      · intro other
        change (Function.update state.hosts id _ other).histogramSum = _
        by_cases same : id = other
        · subst same
          rw [Function.update_self]
          simp [Op.elapsed]
        · rw [Function.update_of_ne (Ne.symm same)]
          simp [Op.elapsed, same]
  | @store index call rest wiped found left =>
      refine accurate.snoc rfl ?_ accurate.counters (fun id => rfl) rfl
      intro other
      change Function.update state.totals wiped 0 other = _
      by_cases same : wiped = other
      · subst same
        rw [Function.update_self]
        simp [Op.onTotal, Move.apply, wrap]
      · rw [Function.update_of_ne (Ne.symm same), accurate.totals]
        simp [Op.onTotal, Move.apply, same]
  | clear found left free =>
      exact accurate.snoc rfl accurate.totals accurate.counters (fun id => rfl) rfl

/-! ## The calls -/

/-- One call goes on: it stays what it is, and shows what it did or what it reads now. -/
structure Continues (state next : State F) (index : Nat) (call after : Call F) : Prop where
  found : state.calls[index]? = some call
  calls : next.calls = state.calls.set index after
  same : after.operation = call.operation
  ended : call.remaining = [] -> after.remaining = []
  shows : ∀ shown ∈ after.shown, shown.seen = state.history ∨ shown ∈ call.shown

theorem Moves.grows {next : State F} {event : Event F} (moves : Moves ops state event next) : state.history <+: next.history := by
  cases moves with
  | begin operation => exact List.prefix_refl _
  | fetchAdd found left => exact List.prefix_append _ _
  | getHostMetrics found left free =>
      change state.history <+: (state.orInsert _).1.history ++ _
      rw [orInsert_history]
      exact List.prefix_append _ _
  | hostFetchAdd found left owns => exact List.prefix_append _ _
  | loadSum loaded found left => exact List.prefix_refl _
  | exchange found left owns => exact List.prefix_append _ _
  | store found left => exact List.prefix_append _ _
  | clear found left free => exact List.prefix_append _ _
  | load found left => exact List.prefix_refl _
  | unlock found left => exact List.prefix_refl _
  | lock found left free through => exact List.prefix_refl _
  | forget found => exact List.prefix_refl _

theorem Moves.continues {next : State F} {event : Event F} (moves : Moves ops state event next) :
    (∃ operation, event = .begin operation ∧ next = { state with
      calls := state.calls ++ [⟨operation, operation.program ops, none, none, []⟩] }) ∨
      ∃ index call after, Continues state next index call after := by
  have not_ended : forall {call : Call F} {instruction : Instruction F} {rest : List (Instruction F)}
      {P : Prop}, call.remaining = instruction :: rest -> call.remaining = [] -> P :=
    fun left ended => nomatch left.symm.trans ended
  cases moves with
  | begin operation => exact Or.inl ⟨operation, rfl, rfl⟩
  | fetchAdd found left =>
      exact Or.inr ⟨_, _, _, found, rfl, rfl, not_ended left, fun _ => Or.inr⟩
  | @getHostMetrics index call rest host found left free =>
      have calls : _ = state.calls.set index _ := orInsert_set host index
        { call with remaining := rest, host := some (state.orInsert host).2 }
      exact Or.inr ⟨_, _, _, found, calls, rfl, not_ended left, fun _ => Or.inr⟩
  | hostFetchAdd found left owns =>
      exact Or.inr ⟨_, _, _, found, rfl, rfl, not_ended left, fun _ => Or.inr⟩
  | loadSum loaded found left =>
      exact Or.inr ⟨_, _, _, found, rfl, rfl, not_ended left, fun _ => Or.inr⟩
  | exchange found left owns =>
      exact Or.inr ⟨_, _, _, found, rfl, rfl, not_ended left, fun _ => Or.inr⟩
  | store found left => exact Or.inr ⟨_, _, _, found, rfl, rfl, not_ended left, fun _ => Or.inr⟩
  | clear found left free =>
      exact Or.inr ⟨_, _, _, found, rfl, rfl, not_ended left, fun _ => Or.inr⟩
  | load found left =>
      refine Or.inr ⟨_, _, _, found, rfl, rfl, not_ended left, ?_⟩
      intro shown among
      rcases List.mem_append.mp among with before | now
      · exact Or.inr before
      · rw [List.mem_singleton.mp now]
        exact Or.inl rfl
  | unlock found left => exact Or.inr ⟨_, _, _, found, rfl, rfl, not_ended left, fun _ => Or.inr⟩
  | lock found left free through =>
      exact Or.inr ⟨_, _, _, found, rfl, rfl, not_ended left, fun _ => Or.inr⟩
  | forget found => exact Or.inr ⟨_, _, _, found, rfl, rfl, fun ended => ended, fun _ => Or.inr⟩

/-- A call after a step was there before, or is the one that has begun. -/
theorem Continues.cases {next : State F} {index : Nat} {call after : Call F}
    (continues : Continues state next index call after) {other : Nat} {later : Call F}
    (there : next.calls[other]? = some later) :
    (other = index ∧ later = after) ∨ (other ≠ index ∧ state.calls[other]? = some later) := by
  rw [continues.calls] at there
  by_cases same : index = other
  · subst same
    rw [List.getElem?_set_self (List.getElem?_eq_some_iff.mp continues.found).1] at there
    exact Or.inl ⟨rfl, (Option.some.inj there).symm⟩
  · rw [List.getElem?_set_ne same] at there
    exact Or.inr ⟨Ne.symm same, there⟩

end Accuracy

end Metrics
end Lkrequest
