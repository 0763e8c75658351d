import Lkrequest.Response.Buffered
import Lkrequest.Response.Consumption

namespace Lkrequest
namespace Response

open Foundations

/-!
# One text for all classes

A buffered response returns the same text whenever it is asked, and the
streaming responses return it too when nothing was read of them before.
-/

section Agreement

variable {Encoding Value Error : Type} {codecs : Codecs Encoding} {headers : HeaderList}

/-! ## The text of a fresh stream -/

/-- A `text()` that is the first to have the mutex decodes all that upstream delivers. -/
theorem result_of_first {toPyErr : Error -> PyErr} {api : Api} {source : Source Error} {body : Bytes}
    {state : State Error} {index : Nat} {encoding : Option String} {served : Served Error}
    {late : List (Entry Error)} (sound : Sound toPyErr (api.method codecs headers) api source state)
    (delivers : source.bytes = .ok body) (first : state.log = ⟨index, .text encoding, served⟩ :: late) :
    Entry.result toPyErr (api.method codecs headers) ⟨index, .text encoding, served⟩ =
      (decodeText codecs body (parseEncoding headers) encoding).map .str := by
  have ordered := sound.ordered
  rw [first] at ordered
  cases ordered with
  | cons serves later =>
      rw [isTake_method] at serves
      have read : served = .read body := by
        rcases serve_takes source with ⟨got, takesIt, rfl | ⟨error, fails, _⟩⟩
        · rw [Source.bytes_ok delivers]
          exact congrArg Prod.fst (serves.symm.trans takesIt)
        · exact (nomatch delivers.symm.trans fails)
      rw [read]
      cases api <;> rfl

/-- `text()` alone. -/
def textAlone (encoding : Option String) : Api -> List Event
  | .async => [.start (.text encoding), .acquire 0, .finish 0]
  | .blocking => [.start (.text encoding), .acquire 0, .finish 0, .convert 0]

theorem textAlone_returns (toPyErr : Error -> PyErr) (api : Api) {source : Source Error} {body : Bytes}
    (delivers : source.bytes = .ok body) (encoding : Option String) :
    ∃ state, (streaming codecs headers toPyErr api).run (.initial source) (textAlone encoding api) = some state ∧
      state.operations = [⟨.text encoding,
        .returned ((decodeText codecs body (parseEncoding headers) encoding).map .str)⟩] := by
  have reads : forall (state : State Error), state.finish toPyErr (api.method codecs headers) api 0
      ⟨.text encoding, .reading source⟩ =
        some (state.settle toPyErr (api.method codecs headers) api 0 ⟨.text encoding, .reading source⟩
          (.read body)) := by
    intro state
    unfold State.finish
    dsimp only
    rw [delivers]
  refine ⟨⟨none, none, [⟨.text encoding,
    .returned ((decodeText codecs body (parseEncoding headers) encoding).map .str)⟩],
      [⟨0, .text encoding, .read body⟩]⟩, ?_, rfl⟩
  have steps : forall {state next final : State Error} {event : Event} {rest : List Event},
      (streaming codecs headers toPyErr api).step state event = some next ->
      (streaming codecs headers toPyErr api).run next rest = some final ->
        (streaming codecs headers toPyErr api).run state (event :: rest) = some final :=
    fun stepped ran => (Machine.run_cons _).mpr ⟨_, stepped, ran⟩
  cases api with
  | async => exact steps rfl (steps rfl (steps (reads _) rfl))
  | blocking => exact steps rfl (steps rfl (steps (reads _) (steps rfl rfl)))

/-! ## The contract -/

/-- What `text()` returns of a stream, when it is the first to read of it. -/
structure ReadsWhole (codecs : Codecs Encoding) (headers : HeaderList) (toPyErr : Error -> PyErr) (api : Api)
    (source : Source Error) (body : Bytes) (encoding : Option String) : Prop where
  alone : ∃ state,
    (streaming codecs headers toPyErr api).run (.initial source) (textAlone encoding api) = some state ∧
      state.operations = [⟨.text encoding,
        .returned ((decodeText codecs body (parseEncoding headers) encoding).map .str)⟩]
  first : forall events state index result,
    (streaming codecs headers toPyErr api).run (.initial source) events = some state ->
    state.log.head?.map Entry.index = some index ->
    state.operations[index]? = some ⟨.text encoding, .returned result⟩ ->
      result = (decodeText codecs body (parseEncoding headers) encoding).map .str

theorem readsWhole (toPyErr : Error -> PyErr) (api : Api) {source : Source Error} {body : Bytes}
    (delivers : source.bytes = .ok body) (encoding : Option String) :
    ReadsWhole codecs headers toPyErr api source body encoding where
  alone := textAlone_returns toPyErr api delivers encoding
  first := by
    intro events state index result ran begins found
    have sound := sound_run ran
    rcases sound.consumed.returns index _ result found with ⟨entry, own, names, rfl⟩
    cases logged : state.log with
    | nil =>
        rw [logged] at begins
        exact (nomatch begins)
    | cons first late =>
        rw [logged] at begins own
        have among : first ∈ slice Entry.by_ index (first :: late) :=
          mem_slice.mpr ⟨List.mem_cons_self, begins⟩
        rw [own] at among
        rcases first with ⟨place, operation, served⟩
        have same : Entry.mk place operation served = entry := List.mem_singleton.mp among
        subst same
        dsimp only at names
        subst names
        exact result_of_first sound delivers logged

/-- What the calls of a buffered response return, and what they return of each other. -/
structure CacheFree (codecs : Codecs Encoding) (loads : PyStr -> Except PyErr Value)
    (toJsonPyErr : PyErr -> PyErr) (headers : HeaderList) (body : Bytes) (parsed : Nat) : Prop where
  text : forall (calls : List Call) (index : Nat) encoding, calls[index]? = some (Call.text encoding) ->
    (Reading.answers codecs loads toJsonPyErr ⟨fromResponse headers body, parsed⟩ calls)[index]? =
      some ((decodeText codecs body (parseEncoding headers) encoding).map Answer.str)
  /-- A call that is left out, as a `json()` that raised, changes no other. -/
  without : forall early call late,
    (Reading.answers codecs loads toJsonPyErr ⟨fromResponse headers body, parsed⟩
        (early ++ call :: late)).eraseIdx early.length =
      Reading.answers codecs loads toJsonPyErr ⟨fromResponse headers body, parsed⟩ (early ++ late)
  /-- One object is made, of what `text()` returns. -/
  json : forall (calls : List Call) (index : Nat), calls[index]? = some Call.json ->
    (Reading.answers codecs loads toJsonPyErr ⟨fromResponse headers body, parsed⟩ calls)[index]? =
      some ((decodeText codecs body (parseEncoding headers) none).bind (fun text =>
        ((loads text).mapError toJsonPyErr).map (fun value => Answer.json ⟨parsed, value⟩)))

theorem cacheFree (codecs : Codecs Encoding) (loads : PyStr -> Except PyErr Value)
    (toJsonPyErr : PyErr -> PyErr) (headers : HeaderList) (body : Bytes) (parsed : Nat) :
    CacheFree codecs loads toJsonPyErr headers body parsed := by
  have each : forall calls, Reading.answers codecs loads toJsonPyErr ⟨fromResponse headers body, parsed⟩ calls =
      calls.map (answerOf codecs loads toJsonPyErr (parseEncoding headers) body parsed) :=
    (faithful_fromResponse headers body parsed).answers
  constructor
  case text =>
    intro calls index encoding called
    rw [each, List.getElem?_map, called]
    rfl
  case without =>
    intro early call late
    rw [each, each, List.map_append, List.map_append, List.map_cons]
    have places : early.length = (early.map (answerOf codecs loads toJsonPyErr (parseEncoding headers) body
      parsed)).length := (List.length_map _).symm
    rw [places, List.eraseIdx_append_of_length_le (Nat.le_refl _), Nat.sub_self]
    rfl
  case json =>
    intro calls index called
    rw [each, List.getElem?_map, called, decodeText_none]
    apply congrArg some
    change answerOf codecs loads toJsonPyErr (parseEncoding headers) body parsed .json =
      ((loads (PyStr.ofString (declaredText codecs (parseEncoding headers) body))).mapError toJsonPyErr).map _
    unfold answerOf
    rw [decodeText_none]
    dsimp only
    cases loads (PyStr.ofString (declaredText codecs (parseEncoding headers) body)) with
    | error error => rfl
    | ok value => rfl

/-- `text()` of all three classes decodes alike, and the caches of a buffered
response cannot be seen. -/
theorem buffered_and_streamed_text_agree (codecs : Codecs Encoding)
    (loads : PyStr -> Except PyErr Value) (toJsonPyErr : PyErr -> PyErr) (headers : HeaderList) (body : Bytes) :
    (forall parsed, CacheFree codecs loads toJsonPyErr headers body parsed) ∧
    (forall (reading : Reading Value) codec, reading.text codecs (some codec) =
      (decodeText codecs reading.response.body (parseEncoding headers) (some codec), reading)) ∧
    forall {Error : Type} (toPyErr : Error -> PyErr) api (source : Source Error), source.bytes = .ok body ->
      forall encoding, ReadsWhole codecs headers toPyErr api source body encoding := by
  refine ⟨cacheFree codecs loads toJsonPyErr headers body, Reading.text_codec, ?_⟩
  intro Error toPyErr api source delivers encoding
  exact readsWhole toPyErr api delivers encoding

end Agreement

/-- Two calls that raise, between calls that do not. -/
def mixedCalls : List Call := [.json, .text none, .text (some "nope"), .text (some "latin-1"), .json]

/-- A `loads` that knows one object. -/
def exampleLoads (text : PyStr) : Except PyErr Nat :=
  if text = PyStr.ofString "{}" then .ok 0 else .error (PyErr.valueError "Expecting value")

theorem braces_agree :
    Reading.answers exampleCodecs exampleLoads id ⟨fromResponse [] [123, 125], 7⟩ mixedCalls =
      [.ok (.json ⟨7, 0⟩), .ok (.str (PyStr.ofString "{}")),
        .error (.lookupError "unknown encoding: nope"), .ok (.str (PyStr.ofString "{}")),
        .ok (.json ⟨7, 0⟩)] ∧
    CacheFree exampleCodecs exampleLoads id [] [123, 125] 7 ∧
    ReadsWhole exampleCodecs [] PyErr.runtimeError .blocking [.ok [123], .ok [125]] [123, 125] none := by
  have agree := buffered_and_streamed_text_agree exampleCodecs exampleLoads id [] [123, 125]
  exact ⟨by decide +kernel, agree.1 7, agree.2.2 PyErr.runtimeError .blocking _ rfl none⟩

end Response
end Lkrequest
