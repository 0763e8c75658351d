import Lkrequest.Response.Invariants

namespace Lkrequest
namespace Response

open Foundations

/-!
# A streamed body is consumed once

What operations return of a body is a prefix of it, in the order in which they
had the mutex.  The stream is gone when somebody has seen its end or has taken
it, and from then on every operation is refused.
-/

section Consumption

variable {Error Encoding : Type}

/-! ## What an operation returns -/

namespace Operation

def takes : Operation -> Bool
  | .bytes => true
  | .text _ => true
  | .chunk => false
  | .next => false

end Operation

namespace Api

/-- The exception that ends an iteration. -/
def stop : Api -> PyErr
  | .async => PyStreamingResponse.stop
  | .blocking => PyBlockingStreamingResponse.stop

/-- What an operation raises when there is no stream. -/
def refusal (api : Api) : Operation -> PyErr
  | .next => api.stop
  | _ => consumed

end Api

namespace Entry

/-- What the operation returns. -/
def result (toPyErr : Error -> PyErr) (methods : Operation -> Method) (entry : Entry Error) : Result :=
  (methods entry.operation).result toPyErr entry.served

/-- The bytes of the body in what the operation returns.  A text has those that
it was decoded from. -/
def delivered (toPyErr : Error -> PyErr) (methods : Operation -> Method) (entry : Entry Error) : Bytes :=
  match entry.result toPyErr methods with
  | .ok .none => []
  | .ok (.bytes data) => data
  | .ok (.str _) => entry.served.data
  | .error _ => []

/-- The operation has seen the end, or has taken the stream. -/
def Closes (entry : Entry Error) : Prop :=
  entry.served = .ended ∨ entry.operation.takes = true ∧ entry.served ≠ .refused

end Entry

/-- A value that an operation returns for these bytes. -/
def Operation.Presents (codecs : Codecs Encoding) (headers : HeaderList) (data : Bytes) (value : PyValue) :
    Operation -> Prop
  | .chunk => value = .bytes data ∨ value = .none ∧ data = []
  | .bytes => value = .bytes data
  | .text encoding => convertText codecs headers encoding data = .ok value
  | .next => value = .bytes data

variable {codecs : Codecs Encoding} {headers : HeaderList} {toPyErr : Error -> PyErr} {api : Api}
variable {methods : Operation -> Method} {takes : Entry Error -> Bool} {body : Source Error}
variable {state : State Error} {log : List (Entry Error)} {entry : Entry Error}

theorem isTake_method (operation : Operation) :
    (api.method codecs headers operation).isTake = operation.takes := by
  cases api <;> cases operation <;> rfl

theorem result_refused (operation : Operation) :
    (api.method codecs headers operation).result toPyErr .refused = .error (api.refusal operation) := by
  cases api <;> cases operation <;> rfl

theorem comparable_result (operation : Operation) (served : Served Error) :
    comparable ((PyStreamingResponse.method codecs headers operation).result toPyErr served) =
      comparable ((PyBlockingStreamingResponse.method codecs headers operation).result toPyErr served) := by
  cases operation <;> cases served <;> rfl

theorem result_ended (operation : Operation) (borrows : operation.takes = false) :
    (api.method codecs headers operation).result toPyErr .ended =
      if operation = .chunk then .ok .none else .error api.stop := by
  cases operation with
  | chunk => cases api <;> rfl
  | next => cases api <;> rfl
  | bytes => exact Bool.noConfusion borrows
  | text encoding => exact Bool.noConfusion borrows

/-- A value is of the bytes that were read. -/
theorem presents_of_ok (operation : Operation) (served : Served Error) {value : PyValue}
    (returned : (api.method codecs headers operation).result toPyErr served = .ok value) :
    operation.Presents codecs headers served.data value := by
  cases operation with
  | chunk =>
      have same : (api.method codecs headers .chunk).result toPyErr served =
          PyStreamingResponse.chunk.result toPyErr served := by cases api <;> rfl
      rw [same] at returned
      cases served with
      | read data => exact Or.inl (Except.ok.inj returned).symm
      | ended => exact Or.inr ⟨(Except.ok.inj returned).symm, rfl⟩
      | refused => exact (nomatch returned)
      | failed error => exact (nomatch returned)
  | bytes =>
      have same : (api.method codecs headers .bytes).result toPyErr served =
          PyStreamingResponse.bytes.result toPyErr served := by cases api <;> rfl
      rw [same] at returned
      cases served with
      | read data => exact (Except.ok.inj returned).symm
      | _ => exact (nomatch returned)
  | text encoding =>
      have same : (api.method codecs headers (.text encoding)).result toPyErr served =
          (PyStreamingResponse.text codecs headers encoding).result toPyErr served := by cases api <;> rfl
      rw [same] at returned
      cases served with
      | read data => exact returned
      | _ => exact (nomatch returned)
  | next =>
      cases served with
      | read data => cases api <;> exact (Except.ok.inj returned).symm
      | _ => cases api <;> exact (nomatch returned)

theorem Operation.Presents.cases {operation : Operation} {data : Bytes} {value : PyValue}
    (presents : operation.Presents codecs headers data value) :
    value = .bytes data ∨ value = .none ∧ data = [] ∨ ∃ text, value = .str text := by
  cases operation with
  | chunk =>
      rcases presents with whole | ended
      · exact Or.inl whole
      · exact Or.inr (Or.inl ended)
  | bytes => exact Or.inl presents
  | next => exact Or.inl presents
  | text encoding =>
      change convertText codecs headers encoding data = .ok value at presents
      unfold convertText at presents
      cases decoded : decodeText codecs data (parseEncoding headers) encoding with
      | error error =>
          rw [decoded] at presents
          exact (nomatch presents)
      | ok text =>
          rw [decoded] at presents
          exact Or.inr (Or.inr ⟨text, (Except.ok.inj presents).symm⟩)

/-- What a value was returned for is delivered. -/
theorem Entry.delivered_of_ok {value : PyValue}
    (returned : entry.result toPyErr (api.method codecs headers) = .ok value) :
    entry.delivered toPyErr (api.method codecs headers) = entry.served.data := by
  have presents := presents_of_ok entry.operation entry.served returned
  unfold Entry.delivered
  rw [returned]
  rcases presents.cases with rfl | ⟨rfl, nothing⟩ | ⟨text, rfl⟩
  · rfl
  · exact nothing.symm
  · rfl

theorem Entry.delivered_of_error {error : PyErr}
    (raised : entry.result toPyErr (api.method codecs headers) = .error error) :
    entry.delivered toPyErr (api.method codecs headers) = [] := by
  unfold Entry.delivered
  rw [raised]

theorem Entry.delivered_of_unread (codecs : Codecs Encoding) (headers : HeaderList) (toPyErr : Error -> PyErr)
    (api : Api) (entry : Entry Error) (unread : forall data, entry.served ≠ .read data) :
    entry.delivered toPyErr (api.method codecs headers) = entry.served.data := by
  cases returned : entry.result toPyErr (api.method codecs headers) with
  | ok value => exact Entry.delivered_of_ok returned
  | error error =>
      rw [Entry.delivered_of_error returned]
      cases served : entry.served with
      | read data => exact absurd served (unread data)
      | _ => rfl

/-- A method that borrows returns what it read. -/
theorem Entry.delivered_cases (codecs : Codecs Encoding) (headers : HeaderList) (toPyErr : Error -> PyErr)
    (api : Api) (entry : Entry Error) :
    entry.delivered toPyErr (api.method codecs headers) = entry.served.data ∨
      (api.method codecs headers entry.operation).isTake = true ∧
        entry.delivered toPyErr (api.method codecs headers) = [] := by
  rcases entry with ⟨index, operation, served⟩
  cases served with
  | read data =>
      cases takes : operation.takes with
      | true =>
          cases returned : Entry.result toPyErr (api.method codecs headers) ⟨index, operation, .read data⟩ with
          | ok value => exact Or.inl (Entry.delivered_of_ok returned)
          | error error => exact Or.inr ⟨(isTake_method operation).trans takes, Entry.delivered_of_error returned⟩
      | false =>
          left
          cases operation with
          | chunk => cases api <;> rfl
          | next => cases api <;> rfl
          | bytes => exact Bool.noConfusion takes
          | text encoding => exact Bool.noConfusion takes
  | _ => exact Or.inl (Entry.delivered_of_unread codecs headers toPyErr api _ nofun)

/-- A method that takes the stream returns a value for what it read only. -/
theorem read_of_ok {value : PyValue} (takes : entry.operation.takes = true)
    (returned : entry.result toPyErr (api.method codecs headers) = .ok value) :
    ∃ data, entry.served = .read data := by
  rcases entry with ⟨index, operation, served⟩
  have raises : (forall data, served ≠ .read data) ->
      ∃ error, (api.method codecs headers operation).result toPyErr served = .error error := by
    intro other
    cases served with
    | read data => exact absurd rfl (other data)
    | _ => cases api <;> cases operation <;> first | exact Bool.noConfusion takes | exact ⟨_, rfl⟩
  by_contra none
  rcases raises (fun data same => none ⟨data, same⟩) with ⟨error, raised⟩
  exact (nomatch returned.symm.trans raised)

/-! ## The order of the entries -/

theorem Ordered.borrowed {rest : Source Error} (ordered : Ordered takes (some body) log (some rest)) :
    ∀ entry ∈ log, takes entry = false := by
  generalize begins : some body = slot at ordered
  generalize ends : some rest = after at ordered
  induction ordered generalizing body with
  | nil slot => exact fun _ among => absurd among List.not_mem_nil
  | @cons slot next after entry log served later ih =>
      subst begins
      cases next with
      | none => exact (nomatch later.refused.1.trans ends.symm)
      | some stream => exact List.forall_mem_cons.mpr ⟨(content_of_serve served).1, ih rfl ends⟩

/-- An entry in the log, with the stream before and after it. -/
theorem Ordered.around {slot after : Option (Source Error)} {early late : List (Entry Error)}
    (ordered : Ordered takes slot (early ++ entry :: late) after) :
    ∃ before next, Ordered takes slot early before ∧ serve (takes entry) before = (entry.served, next) ∧
      Ordered takes next late after := by
  rcases ordered.split with ⟨before, begins, ends⟩
  cases ends with
  | cons served later => exact ⟨before, _, begins, served, later⟩

/-- Nothing is left after the end, and after the stream was taken. -/
theorem serve_closes {isTake : Bool} {before next : Option (Source Error)} {served : Served Error}
    (serves : serve isTake before = (served, next)) (closes : served = .ended ∨ isTake = true) :
    next = none := by
  cases before with
  | none => exact (Prod.mk.inj serves).2.symm
  | some stream =>
      cases isTake with
      | true =>
          rcases serve_takes stream with ⟨_, takesIt, _⟩
          exact congrArg Prod.snd (serves.symm.trans takesIt)
      | false =>
          rcases serve_borrows stream with ⟨_, finds⟩ | ⟨got, rest, reads, other, _⟩
          · exact congrArg Prod.snd (serves.symm.trans finds)
          · rcases closes with ended | takesIt
            · exact absurd ((congrArg Prod.fst (serves.symm.trans reads)).symm.trans ended) other
            · exact (nomatch takesIt)

theorem Ordered.closed {early late : List (Entry Error)} {after : Option (Source Error)}
    (ordered : Ordered takes (some body) (early ++ entry :: late) after)
    (closes : ∃ other ∈ early, other.served = .ended ∨ takes other = true) : entry.served = .refused := by
  rcases ordered.around with ⟨before, next, begins, served, _⟩
  rcases closes with ⟨other, among, closes⟩
  rcases List.append_of_mem among with ⟨front, back, rfl⟩
  rcases begins.around with ⟨middle, left, _, got, remaining⟩
  rw [serve_closes got closes] at remaining
  rw [← remaining.refused.1] at served
  exact (Prod.mk.inj served).1.symm

/-- An operation that took the stream and got it has all that was not delivered. -/
theorem Ordered.covers {early late : List (Entry Error)} {after : Option (Source Error)}
    (ordered : Ordered (fun entry => (api.method codecs headers entry.operation).isTake) (some body)
      (early ++ entry :: late) after)
    (isTake : (api.method codecs headers entry.operation).isTake = true) {data : Bytes} (read : entry.served = .read data) :
    early.flatMap (Entry.delivered toPyErr (api.method codecs headers)) ++ data = body.content := by
  rcases ordered.around with ⟨before, next, begins, served, _⟩
  rw [isTake, read] at served
  cases before with
  | none => exact (nomatch congrArg Prod.fst served)
  | some stream =>
      rcases serve_takes stream with ⟨got, takesIt, whole | ⟨error, _, fails⟩⟩
      · have all : data = stream.content := by
          rw [served, whole] at takesIt
          exact Served.read.inj (Prod.mk.inj takesIt).1
        have same : early.flatMap (Entry.delivered toPyErr (api.method codecs headers)) =
            early.flatMap (fun entry => entry.served.data) := by
          apply List.flatMap_congr
          intro other among
          rcases other.delivered_cases codecs headers toPyErr api with same | ⟨took, _⟩
          · exact same
          · exact (nomatch took.symm.trans (begins.borrowed other among))
        rw [begins.content, same, all]
      · rw [fails] at takesIt
        exact (nomatch congrArg Prod.fst (served.symm.trans takesIt))

/-! ## The contract -/

/-- What a streaming response promises in a state of a run. -/
structure Consumed (codecs : Codecs Encoding) (headers : HeaderList) (toPyErr : Error -> PyErr) (api : Api)
    (body : Source Error) (state : State Error) : Prop where
  /-- No byte is returned twice, and none before an earlier one. -/
  in_order : state.log.flatMap (Entry.delivered toPyErr (api.method codecs headers)) <+: body.content
  /-- A value is the bytes that were delivered, or the text they decode to. -/
  presents : forall entry value, entry ∈ state.log ->
    entry.result toPyErr (api.method codecs headers) = .ok value ->
      entry.operation.Presents codecs headers (entry.delivered toPyErr (api.method codecs headers)) value
  covers : forall early entry late value, state.log = early ++ entry :: late ->
    entry.operation.takes = true -> entry.result toPyErr (api.method codecs headers) = .ok value ->
      early.flatMap (Entry.delivered toPyErr (api.method codecs headers)) ++
        entry.delivered toPyErr (api.method codecs headers) = body.content
  /-- The end is a `None` or the end of the iteration. -/
  ends : forall entry, entry ∈ state.log -> entry.served = .ended ->
    entry.result toPyErr (api.method codecs headers) =
      if entry.operation = .chunk then .ok .none else .error api.stop
  refused : forall early entry late, state.log = early ++ entry :: late ->
    (∃ other ∈ early, other.Closes) ->
      entry.served = .refused ∧
        entry.result toPyErr (api.method codecs headers) = .error (api.refusal entry.operation)
  returns : forall index operation result,
    state.operations[index]? = some ⟨operation, .returned result⟩ ->
      ∃ entry, slice Entry.by_ index state.log = [entry] ∧ entry.operation = operation ∧
        result = entry.result toPyErr (api.method codecs headers)

/-- Only a method that borrows finds the end. -/
theorem Ordered.ended_borrows {slot after : Option (Source Error)} (ordered : Ordered takes slot log after)
    (among : entry ∈ log) (ended : entry.served = .ended) : takes entry = false := by
  rcases List.append_of_mem among with ⟨early, late, rfl⟩
  rcases ordered.around with ⟨before, next, _, served, _⟩
  rw [ended] at served
  cases isTake : takes entry with
  | false => rfl
  | true =>
      rw [isTake] at served
      cases before with
      | none => exact (nomatch congrArg Prod.fst served)
      | some stream =>
          rcases serve_takes stream with ⟨got, takesIt, rfl | ⟨error, _, rfl⟩⟩
          · exact (nomatch congrArg Prod.fst (served.symm.trans takesIt))
          · exact (nomatch congrArg Prod.fst (served.symm.trans takesIt))

theorem Sound.consumed (sound : Sound toPyErr (api.method codecs headers) api body state) :
    Consumed codecs headers toPyErr api body state where
  in_order := sound.ordered.prefix_content _ (fun entry _ => entry.delivered_cases codecs headers toPyErr api)
  presents := by
    intro entry value _ returned
    rw [Entry.delivered_of_ok returned]
    exact presents_of_ok entry.operation entry.served returned
  covers := by
    intro early entry late value split takes returned
    have ordered := sound.ordered
    rw [split] at ordered
    rcases read_of_ok takes returned with ⟨data, read⟩
    have whole : early.flatMap (Entry.delivered toPyErr (api.method codecs headers)) ++ data = body.content :=
      ordered.covers ((isTake_method entry.operation).trans takes) read
    rw [Entry.delivered_of_ok returned, read]
    exact whole
  ends := by
    intro entry among ended
    have borrows := (isTake_method entry.operation).symm.trans (sound.ordered.ended_borrows among ended)
    unfold Entry.result
    rw [ended]
    exact result_ended entry.operation borrows
  refused := by
    intro early entry late split closes
    have ordered := sound.ordered
    rw [split] at ordered
    have refused : entry.served = .refused := by
      apply ordered.closed
      rcases closes with ⟨other, among, ended | ⟨takes, _⟩⟩
      · exact ⟨other, among, Or.inl ended⟩
      · exact ⟨other, among, Or.inr ((isTake_method other.operation).trans takes)⟩
    refine ⟨refused, ?_⟩
    unfold Entry.result
    rw [refused]
    exact result_refused entry.operation
  returns := by
    intro index operation result found
    have story := sound.told.story index _ found
    dsimp only at story
    generalize slice Entry.by_ index state.log = entries at story
    generalize same : Stage.returned result = stage at story
    cases story with
    | returned served => exact ⟨_, rfl, rfl, Stage.returned.inj same⟩
    | _ => exact (nomatch same)

/-- What was returned is consumed, in every run of both classes, and in the same
order of the operations both return the same. -/
theorem streamed_body_is_consumed (codecs : Codecs Encoding) (headers : HeaderList)
    (toPyErr : Error -> PyErr) (body : Source Error) :
    (forall api events state, (streaming codecs headers toPyErr api).run (.initial body) events = some state ->
      Consumed codecs headers toPyErr api body state) ∧
    forall events events' state state',
      (streaming codecs headers toPyErr .async).run (.initial body) events = some state ->
      (streaming codecs headers toPyErr .blocking).run (.initial body) events' = some state' ->
      state.log.map Entry.operation = state'.log.map Entry.operation ->
        state.log.map (fun entry =>
            comparable (entry.result toPyErr (Api.async.method codecs headers))) =
          state'.log.map (fun entry =>
            comparable (entry.result toPyErr (Api.blocking.method codecs headers))) := by
  refine ⟨fun api events state ran => (sound_run ran).consumed, ?_⟩
  intro events events' state state' ran ran' same
  have kinds : forall {api : Api} (log : List (Entry Error)),
      log.map (fun entry => (api.method codecs headers entry.operation).isTake) =
        (log.map Entry.operation).map Operation.takes := by
    intro api log
    rw [List.map_map]
    exact List.map_congr_left (fun entry _ => isTake_method entry.operation)
  have parts : forall {api : Api} (log : List (Entry Error)),
      log.map (fun entry => comparable (entry.result toPyErr (api.method codecs headers))) =
        List.zipWith (fun operation served =>
          comparable ((api.method codecs headers operation).result toPyErr served))
          (log.map Entry.operation) (log.map Entry.served) := by
    intro api log
    rw [List.zipWith_map, List.zipWith_self]
    rfl
  have served := ((sound_run ran).ordered.deterministic (sound_run ran').ordered
    (by rw [kinds, kinds, same])).1
  rw [parts, parts, same, served]
  congr 1
  funext operation served
  exact comparable_result operation served

end Consumption

/-- A body in three chunks: one is read, `bytes()` takes the others, and an
iteration and a `chunk()` come too late. -/
def readInTurns : List Event :=
  [.start .chunk, .start .bytes, .start .next, .acquire 0, .finish 0, .acquire 1, .start .chunk, .finish 1,
    .acquire 3, .acquire 2]

theorem chunk_then_bytes :
    ∃ state, (streaming exampleCodecs [] PyErr.runtimeError .async).run
        (.initial [.ok [72], .ok [105, 32], .ok [33]]) readInTurns = some state ∧
      state.log.map Entry.served = [.read [72], .read [105, 32, 33], .refused, .refused] ∧
      Consumed exampleCodecs [] PyErr.runtimeError .async [.ok [72], .ok [105, 32], .ok [33]] state := by
  have ran : ((streaming exampleCodecs [] PyErr.runtimeError .async).run
      (.initial [.ok [72], .ok [105, 32], .ok [33]]) readInTurns).map (fun state =>
        state.log.map Entry.served) = some [.read [72], .read [105, 32, 33], .refused, .refused] := by
    decide +kernel
  rcases Option.map_eq_some_iff.mp ran with ⟨state, ran, served⟩
  exact ⟨state, ran, served, (streamed_body_is_consumed exampleCodecs [] PyErr.runtimeError _).1 .async
    readInTurns state ran⟩

end Response
end Lkrequest
