import Lkrequest.Response.Text

namespace Lkrequest
namespace Response

/-!
# A response that was read whole

`text()` and `json()` fill a cache each.  What a call returns is a function of
the headers and the body, whatever was called before: the caches cannot be seen.
-/

section Buffered

variable {Encoding Value : Type} (codecs : Codecs Encoding)
variable (loads : PyStr -> Except PyErr Value) (toJsonPyErr : PyErr -> PyErr)

/-! ## The class -/

/-- What `json.loads` made, with the number of objects it had made before. -/
structure JsonObject (Value : Type) where
  serial : Nat
  value : Value
deriving DecidableEq

/-- `Response`, as far as it is read by `text()` and `json()`. -/
structure PyResponse (Value : Type) where
  encoding : Option String
  body : Bytes
  cachedText : Option String
  cachedJson : Option (JsonObject Value)

/-- A response, and the number of objects that `json.loads` has made. -/
structure Reading (Value : Type) where
  response : PyResponse Value
  parsed : Nat

/-- `OnceLock::set`. -/
def onceSet {Item : Type} (cell : Option Item) (item : Item) : Option Item := cell <|> some item

/-- `from_response`. -/
def fromResponse (headers : HeaderList) (body : Bytes) : PyResponse Value where
  encoding := parseEncoding headers
  body := body
  cachedText := none
  cachedJson := none

namespace Reading

def text (reading : Reading Value) (encoding : Option String) : Except PyErr PyStr × Reading Value :=
  let response := reading.response
  match encoding with
  | some codec => (decodeWithCodec codecs response.body codec, reading)
  | none =>
      match response.cachedText with
      | some cached => (.ok (PyStr.ofString cached), reading)
      | none =>
          let text := decodeBody codecs (declaredDecoder codecs response.encoding) response.body
          (.ok (PyStr.ofString text),
            { reading with response := { response with cachedText := onceSet response.cachedText text } })

def json (reading : Reading Value) : Except PyErr (JsonObject Value) × Reading Value :=
  match reading.response.cachedJson with
  | some cached => (.ok cached, reading)
  | none =>
      match reading.text codecs none with
      | (.error error, next) => (.error error, next)
      | (.ok text, next) =>
          match loads text with
          | .error error => (.error (toJsonPyErr error), next)
          | .ok value =>
              let result : JsonObject Value := ⟨next.parsed, value⟩
              let cachedJson := onceSet next.response.cachedJson result
              (.ok result, ⟨{ next.response with cachedJson := cachedJson }, next.parsed + 1⟩)

end Reading

/-! ## Calls one after the other -/

inductive Call
  | text (encoding : Option String)
  | json

/-- What a call returns. -/
inductive Answer (Value : Type)
  | str (text : PyStr)
  | json (object : JsonObject Value)
deriving DecidableEq

namespace Reading

def call (reading : Reading Value) : Call -> Except PyErr (Answer Value) × Reading Value
  | .text encoding => ((reading.text codecs encoding).1.map .str, (reading.text codecs encoding).2)
  | .json =>
      ((reading.json codecs loads toJsonPyErr).1.map .json, (reading.json codecs loads toJsonPyErr).2)

/-- What the calls return. -/
def answers (reading : Reading Value) : List Call -> List (Except PyErr (Answer Value))
  | [] => []
  | call :: rest =>
      let answered := reading.call codecs loads toJsonPyErr call
      answered.1 :: answered.2.answers rest

end Reading

/-- What a call returns, without a cache. -/
def answerOf (declared : Option String) (body : Bytes) (serial : Nat) :
    Call -> Except PyErr (Answer Value)
  | .text encoding => (decodeText codecs body declared encoding).map .str
  | .json =>
      match decodeText codecs body declared none with
      | .error error => .error error
      | .ok text =>
          match loads text with
          | .error error => .error (toJsonPyErr error)
          | .ok value => .ok (.json ⟨serial, value⟩)

/-! ## The caches cannot be seen -/

/-- The text that the headers declare. -/
def declaredText (declared : Option String) (body : Bytes) : String :=
  decodeBody codecs (declaredDecoder codecs declared) body

/-- The caches hold what a call would make anew. -/
structure Faithful (declared : Option String) (body : Bytes) (serial : Nat) (reading : Reading Value) :
    Prop where
  declares : reading.response.encoding = declared
  holds : reading.response.body = body
  text : ∀ cached ∈ reading.response.cachedText, cached = declaredText codecs declared body
  json : ∀ cached ∈ reading.response.cachedJson, cached.serial = serial ∧
    loads (PyStr.ofString (declaredText codecs declared body)) = .ok cached.value
  unparsed : reading.response.cachedJson = none -> reading.parsed = serial

variable {codecs loads toJsonPyErr}
variable {declared : Option String} {body : Bytes} {serial : Nat} {reading : Reading Value}

theorem decodeText_none (declared : Option String) (body : Bytes) :
    decodeText codecs body declared none = .ok (PyStr.ofString (declaredText codecs declared body)) := rfl

theorem faithful_fromResponse (headers : HeaderList) (body : Bytes) (serial : Nat) :
    Faithful codecs loads (parseEncoding headers) body serial ⟨fromResponse headers body, serial⟩ where
  declares := rfl
  holds := rfl
  text := nofun
  json := nofun
  unparsed := fun _ => rfl

/-- A call with a codec neither reads nor fills a cache. -/
theorem Reading.text_codec (reading : Reading Value) (codec : String) :
    reading.text codecs (some codec) = (decodeWithCodec codecs reading.response.body codec, reading) := rfl

/-- `text()` returns the declared text, and fills no cache but its own. -/
theorem Faithful.text_none (faithful : Faithful codecs loads declared body serial reading) :
    ∃ next, reading.text codecs none = (decodeText codecs body declared none, next) ∧
      Faithful codecs loads declared body serial next ∧
      next.response.cachedJson = reading.response.cachedJson := by
  unfold Reading.text
  dsimp only
  cases there : reading.response.cachedText with
  | some cached =>
      refine ⟨reading, ?_, faithful, rfl⟩
      rw [faithful.text cached there]
      rfl
  | none =>
      dsimp only
      rw [faithful.declares, faithful.holds]
      refine ⟨_, rfl, ?_, rfl⟩
      constructor
      case declares => rfl
      case holds => rfl
      case text => exact fun cached among => (Option.some.inj among).symm
      case json => exact faithful.json
      case unparsed => exact faithful.unparsed

theorem Faithful.json_call (faithful : Faithful codecs loads declared body serial reading) :
    ((reading.json codecs loads toJsonPyErr).1.map Answer.json) =
        answerOf codecs loads toJsonPyErr declared body serial .json ∧
      Faithful codecs loads declared body serial (reading.json codecs loads toJsonPyErr).2 := by
  unfold Reading.json answerOf
  rw [decodeText_none]
  cases there : reading.response.cachedJson with
  | some cached =>
      rcases faithful.json cached there with ⟨own, parsed⟩
      refine ⟨?_, faithful⟩
      dsimp only
      rw [parsed, ← own]
      rfl
  | none =>
      rcases faithful.text_none with ⟨next, text, after, cache⟩
      rw [text, decodeText_none]
      dsimp only
      cases parsed : loads (PyStr.ofString (declaredText codecs declared body)) with
      | error error => exact ⟨rfl, after⟩
      | ok value =>
          have count : next.parsed = serial := after.unparsed (cache.trans there)
          have empty : next.response.cachedJson = none := cache.trans there
          dsimp only
          rw [empty, count]
          refine ⟨rfl, after.declares, after.holds, after.text, ?_, nofun⟩
          intro cached among
          cases among
          exact ⟨rfl, parsed⟩

theorem Faithful.call (faithful : Faithful codecs loads declared body serial reading) (call : Call) :
    (reading.call codecs loads toJsonPyErr call).1 =
        answerOf codecs loads toJsonPyErr declared body serial call ∧
      Faithful codecs loads declared body serial (reading.call codecs loads toJsonPyErr call).2 := by
  cases call with
  | json => exact faithful.json_call
  | text encoding =>
      cases encoding with
      | some codec =>
          refine ⟨?_, faithful⟩
          change (decodeWithCodec codecs reading.response.body codec).map _ = _
          rw [faithful.holds]
          rfl
      | none =>
          rcases faithful.text_none with ⟨next, text, after, _⟩
          change (reading.text codecs none).1.map _ = _ ∧ Faithful _ _ _ _ _ (reading.text codecs none).2
          rw [text]
          exact ⟨rfl, after⟩

/-- Whatever is called, every call returns what it would return alone. -/
theorem Faithful.answers (faithful : Faithful codecs loads declared body serial reading)
    (calls : List Call) : reading.answers codecs loads toJsonPyErr calls =
      calls.map (answerOf codecs loads toJsonPyErr declared body serial) := by
  induction calls generalizing reading with
  | nil => rfl
  | cons call rest ih =>
      rcases faithful.call call with ⟨answered, after⟩
      exact congrArg₂ List.cons answered (ih after)

end Buffered

end Response
end Lkrequest
