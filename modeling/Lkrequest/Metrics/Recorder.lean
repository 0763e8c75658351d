import Mathlib.Algebra.Order.Ring.Unbundled.Rat
import Lkrequest.Foundations.Histories
import Lkrequest.Foundations.Runs

namespace Lkrequest
namespace Metrics

open Foundations

/-!
# Recording metrics

`MetricsInner` is updated by any number of threads without a common lock.  A
call is the list of the atomic operations and mutex sections it has still to
do, and a step of the system does the first one of some call.

What was done is kept in a history, which no call reads.
-/

/-! ## Data -/

/-- `f64`, by its bits, with the operations that are used and what IEEE 754 says of them. -/
structure Floats (F : Type) where
  zero : F
  add : F -> F -> F
  le : F -> F -> Bool
  /-- The `f64` nearest to a number. -/
  ofRat : Rat -> F
  le_zero : le zero zero = true
  le_refl : forall number, le zero number = true -> le number number = true
  le_trans : forall first second third, le first second = true -> le second third = true ->
    le first third = true
  le_add : forall sum elapsed, le zero sum = true -> le zero elapsed = true ->
    le sum (add sum elapsed) = true
  ofRat_mono : forall first second : Rat, first ≤ second -> le (ofRat first) (ofRat second) = true

/-- Rational numbers, added and compared exactly. -/
def Floats.exact : Floats Rat where
  zero := 0
  add := (· + ·)
  le := fun first second => first ≤ second
  ofRat := id
  le_zero := rfl
  le_refl := by
    intro number _
    exact decide_eq_true (Rat.le_refl)
  le_trans := by
    intro first second third early late
    exact decide_eq_true (Rat.le_trans (of_decide_eq_true early) (of_decide_eq_true late))
  le_add := by
    intro sum elapsed _ nonneg
    exact decide_eq_true (le_add_of_nonneg_right (of_decide_eq_true nonneg))
  ofRat_mono := by
    intro first second below
    exact decide_eq_true below

/-- `HISTOGRAM_BUCKETS`. -/
def histogramBuckets : List Rat := [1 / 100, 1 / 40, 1 / 20, 1 / 10, 1 / 4, 1 / 2, 1, 5 / 2, 5, 10]

/-- The addition of `AtomicU64`. -/
def wrap (number : Nat) : Nat := number % 2 ^ 64

/-- The counters of `MetricsInner`. -/
inductive Total
  | requests
  | errors
  | bytesReceived
deriving DecidableEq

/-- The counters of `HostMetrics`; `histogram` is an index of `histogram_counts`. -/
inductive Counter
  | requests
  | errors
  | bytesReceived
  | histogram (bucket : Nat)
deriving DecidableEq

/-- The counter of a host that a total sums up. -/
def Total.counter : Total -> Counter
  | .requests => .requests
  | .errors => .errors
  | .bytesReceived => .bytesReceived

structure HostMetrics (F : Type) where
  counters : Counter -> Nat
  histogramSum : F

/-- An `Arc<HostMetrics>`. -/
abbrev HostId := Nat

/-- The arguments of `MetricsInner::record`. -/
structure Record (F : Type) where
  host : String
  elapsed : F
  bodySize : Nat
  isError : Bool
deriving DecidableEq

inductive Scrape
  | prometheusText
  | snapshot
deriving DecidableEq

inductive Operation (F : Type)
  | record (args : Record F)
  | reset
  | scrape (kind : Scrape)
deriving DecidableEq

/-- What a scrape reads.  The host is shown by its name. -/
inductive Location
  | total (total : Total)
  | counter (host : String) (id : HostId) (counter : Counter)
  | sum (host : String) (id : HostId)
deriving DecidableEq

inductive Value (F : Type)
  | count (number : Nat)
  | seconds (sum : F)

/-- One atomic operation, one mutex section, or the taking or the release of the mutex. -/
inductive Instruction (F : Type)
  | fetchAdd (total : Total) (amount : Nat)
  | getHostMetrics (host : String)
  | hostFetchAdd (counter : Counter) (amount : Nat)
  | addToSum (elapsed : F)
  | store (total : Total)
  | clear
  | load (location : Location)
  | lock (kind : Scrape)
  | unlock

/-! ## The code of the calls -/

section Code

variable {F : Type} (ops : Floats F)

/-- The additions of `MetricsInner::record`. -/
def Record.totalAdds (args : Record F) : List (Total × Nat) :=
  [(.requests, 1), (.bytesReceived, args.bodySize)] ++
    if args.isError then [(.errors, 1)] else []

/-- The buckets that a number of seconds is counted in. -/
def bucketsOf (elapsed : F) : List Nat :=
  (List.range histogramBuckets.length).filter (fun bucket =>
    ops.le elapsed (ops.ofRat (histogramBuckets.getD bucket 0)))

/-- The additions of `HostMetrics::record`. -/
def Record.hostAdds (args : Record F) : List (Counter × Nat) :=
  [(.requests, 1), (.bytesReceived, args.bodySize)] ++
    (if args.isError then [(.errors, 1)] else []) ++
    (bucketsOf ops args.elapsed).map (fun bucket => (.histogram bucket, 1))

/-- `HostMetrics::record`. -/
def Record.hostProgram (args : Record F) : List (Instruction F) :=
  (args.hostAdds ops).map (fun add => .hostFetchAdd add.1 add.2) ++ [.addToSum args.elapsed]

/-- `MetricsInner::record`. -/
def Record.program (args : Record F) : List (Instruction F) :=
  args.totalAdds.map (fun add => .fetchAdd add.1 add.2) ++ .getHostMetrics args.host ::
    args.hostProgram ops

/-- `PyMetricsCollector::reset`. -/
def resetProgram : List (Instruction F) :=
  [.store .requests, .store .errors, .store .bytesReceived, .clear]

/-- What a scrape reads before it takes the mutex. -/
def totalReads : List Location := [.total .requests, .total .errors, .total .bytesReceived]

def histogramReads (host : String) (id : HostId) : List Location :=
  (List.range histogramBuckets.length).map (fun bucket => .counter host id (.histogram bucket))

/-- What a scrape reads of one host.  The request count of `prometheus_text` is
read once and shown twice. -/
def Scrape.hostReads (host : String) (id : HostId) : Scrape -> List Location
  | .prometheusText => histogramReads host id ++ [.counter host id .requests, .sum host id]
  | .snapshot =>
      [.counter host id .requests, .counter host id .errors, .counter host id .bytesReceived,
        .sum host id] ++ histogramReads host id

/-- `PyMetricsCollector::snapshot` and `prometheus_text`, up to the mutex. -/
def Scrape.program (kind : Scrape) : List (Instruction F) :=
  totalReads.map .load ++ [.lock kind]

/-- The rest of them, for a map in its iteration order. -/
def Scrape.lockedProgram (kind : Scrape) (map : List (String × HostId)) : List (Instruction F) :=
  (map.flatMap (fun entry => kind.hostReads entry.1 entry.2)).map .load ++ [.unlock]

def Operation.program : Operation F -> List (Instruction F)
  | .record args => args.program ops
  | .reset => resetProgram
  | .scrape kind => kind.program

end Code

/-! ## The system -/

/-- What was done, with the host it was done to. -/
inductive Op (F : Type)
  | add (total : Total) (amount : Nat)
  | lookup (host : String) (id : HostId)
  | hostAdd (id : HostId) (counter : Counter) (amount : Nat)
  | addToSum (id : HostId) (elapsed : F)
  | store (total : Total)
  | clear

/-- A value that a scrape has read, and what had been done by then. -/
structure Shown (F : Type) where
  location : Location
  value : Value F
  seen : History (Op F)

/-- A call: its code still to run, the host entry it got, and the sum it loaded. -/
structure Call (F : Type) where
  operation : Operation F
  remaining : List (Instruction F)
  host : Option HostId
  loaded : Option F
  shown : List (Shown F)

/-- `MetricsInner` with the `HostMetrics` that were ever made, and the calls.
`perHost` says which of them are in the map, and `locked` which scrape holds the mutex. -/
structure State (F : Type) where
  totals : Total -> Nat
  perHost : List (String × HostId)
  hosts : HostId -> HostMetrics F
  made : Nat
  locked : Option Nat
  calls : List (Call F)
  history : History (Op F)

/-- A step: a call begins, a call does its next operation, a weak exchange fails
for no reason, or a scrape takes the mutex of a map that iterates in this order. -/
inductive Event (F : Type)
  | begin (operation : Operation F)
  | advance (call : Nat)
  | exchangeFails (call : Nat)
  | lock (call : Nat) (order : List (String × HostId))

namespace State

variable {F : Type} (ops : Floats F)

def initial : State F where
  totals := fun _ => 0
  perHost := []
  hosts := fun _ => ⟨fun _ => 0, ops.zero⟩
  made := 0
  locked := none
  calls := []
  history := []

variable (state : State F)

def read : Location -> Value F
  | .total total => .count (state.totals total)
  | .counter _ id counter => .count ((state.hosts id).counters counter)
  | .sum _ id => .seconds (state.hosts id).histogramSum

/-- The entry of a host in the map. -/
def entry (host : String) : Option HostId :=
  (state.perHost.find? (fun entry => entry.1 = host)).map Prod.snd

def setCall (index : Nat) (call : Call F) : State F :=
  { state with calls := state.calls.set index call }

/-- Something was done by a call. -/
def log (index : Nat) (op : Op F) : State F :=
  { state with history := state.history ++ [(index, op)] }

def addTotal (total : Total) (amount : Nat) : State F :=
  { state with totals := Function.update state.totals total (wrap (state.totals total + amount)) }

def setTotal (total : Total) (value : Nat) : State F :=
  { state with totals := Function.update state.totals total value }

def setHost (id : HostId) (host : HostMetrics F) : State F :=
  { state with hosts := Function.update state.hosts id host }

def addCounter (id : HostId) (counter : Counter) (amount : Nat) : State F :=
  let host := state.hosts id
  state.setHost id
    { host with counters := Function.update host.counters counter (wrap (host.counters counter + amount)) }

/-- `entry(host).or_insert_with(...)`: the map with the host in it, and its entry. -/
def orInsert (host : String) : State F × HostId :=
  match state.entry host with
  | some id => (state, id)
  | none =>
      ({ state with perHost := state.perHost ++ [(host, state.made)], made := state.made + 1 }, state.made)

variable [DecidableEq F]

/-- The next operation of a call. -/
def execute (index : Nat) (call : Call F) (rest : List (Instruction F)) : Instruction F -> Option (State F)
  | .fetchAdd total amount =>
      some (((state.addTotal total amount).setCall index { call with remaining := rest }).log index
        (.add total amount))
  | .getHostMetrics host =>
      if state.locked = none then
        let (inserted, id) := state.orInsert host
        some ((inserted.setCall index { call with remaining := rest, host := some id }).log index
          (.lookup host id))
      else none
  | .hostFetchAdd counter amount =>
      call.host.map (fun id =>
        ((state.addCounter id counter amount).setCall index { call with remaining := rest }).log index
          (.hostAdd id counter amount))
  | .addToSum elapsed =>
      call.host.map (fun id =>
        let host := state.hosts id
        match call.loaded with
        | none => state.setCall index { call with loaded := some host.histogramSum }
        | some current =>
            if host.histogramSum = current then
              ((state.setHost id { host with histogramSum := ops.add current elapsed }).setCall index
                { call with remaining := rest, loaded := none }).log index (.addToSum id elapsed)
            else state.setCall index { call with loaded := none })
  | .store total =>
      some (((state.setTotal total 0).setCall index { call with remaining := rest }).log index
        (.store total))
  | .clear =>
      if state.locked = none then
        some (({ state with perHost := [] }.setCall index { call with remaining := rest }).log index .clear)
      else none
  | .load location =>
      some (state.setCall index
        { call with
          remaining := rest
          shown := call.shown ++ [⟨location, state.read location, state.history⟩] })
  | .lock _ => none
  | .unlock => some ({ state with locked := none }.setCall index { call with remaining := rest })

/-- The scrape goes through the map, which it has locked. -/
def lockMap (index : Nat) (call : Call F) (order : List (String × HostId)) : Option (State F) :=
  match call.remaining with
  | .lock kind :: rest =>
      if state.locked = none ∧ order.Perm state.perHost then
        some ({ state with locked := some index }.setCall index
          { call with remaining := kind.lockedProgram order ++ rest })
      else none
  | _ => none

def step : Event F -> Option (State F)
  | .begin operation =>
      some { state with calls := state.calls ++ [⟨operation, operation.program ops, none, none, []⟩] }
  | .advance index => do
      let call <- state.calls[index]?
      match call.remaining with
      | [] => none
      | instruction :: rest => state.execute ops index call rest instruction
  | .exchangeFails index => do
      let call <- state.calls[index]?
      if call.loaded.isSome then return state.setCall index { call with loaded := none } else none
  | .lock index order => do
      let call <- state.calls[index]?
      state.lockMap index call order

end State

/-- All calls on one `MetricsInner`. -/
def metrics {F : Type} [DecidableEq F] (ops : Floats F) : Machine (State F) (Event F) :=
  ⟨fun state => state.step ops⟩

end Metrics
end Lkrequest
