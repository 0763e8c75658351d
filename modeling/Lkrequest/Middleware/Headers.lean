import Mathlib.Data.List.Dedup
import Mathlib.Data.List.Induction
import Lkrequest.Foundations.OrderedDict
import Lkrequest.Session.State

namespace Lkrequest
namespace Middleware

open Foundations
open Session (MiddlewareSlots)

/-!
# Requests and responses through a Python middleware

The headers of a request leave Rust as a Python dict and come back as a new
header map.  What the `http` crate does with names, values and maps is a
parameter here, with what its documentation promises; what the Python callback
does is a function of the dict it is given.

A dict holds one value for each key, and a value that is not visible ASCII is
shown to the callback as an empty string, so the trip is faithful to a name only
if the name has no value or one visible value.
-/

/-! ## The `http` crate -/

/-- What the code uses of the `http` crate: `HeaderName::as_str` and
`from_bytes`, `HeaderValue::to_str` and `from_str`, and `HeaderMap`. -/
structure Http (Name Value Map : Type) where
  asStr : Name -> String
  fromBytes : String -> Option Name
  toStr : Value -> Option String
  fromStr : String -> Option Value
  new : Map
  append : Map -> Name -> Value -> Map
  iter : Map -> List (Name × Value)
  getAll : Map -> Name -> List Value

variable {Name Value Map : Type}

/-! ## The dicts a callback sees -/

/-- A Python value, as far as `extract::<String>` distinguishes it.  A `str`
with surrogates is none that it takes. -/
inductive PyValue
  | text (value : String)
  | surrogates (value : { text : PyStr // text.extract = none })
  | int (value : Nat)
  | other (object : PyObject)
deriving DecidableEq

abbrev HeadersDict := OrderedDict PyValue PyValue

/-- A value of the outer dict. -/
inductive Field
  | leaf (value : PyValue)
  | dict (headers : HeadersDict)

abbrev InfoDict := OrderedDict PyValue Field

/-- What a callback returns. -/
inductive Returned
  | dict (info : InfoDict)
  | none
  | other

structure MiddlewareRequest (Map : Type) where
  method : String
  url : String
  headers : Map

structure MiddlewareResponse (Map : Type) where
  status : Nat
  headers : Map

/-- `lkrequest::error::Error::Http`. -/
structure Error where
  http : String
deriving DecidableEq

section Bridge

variable (http : Http Name Value Map)

/-- `v.to_str().unwrap_or("")`. -/
def shown (value : Value) : String := (http.toStr value).getD ""

/-- `headers_dict`. -/
def headersDict (map : Map) : HeadersDict :=
  (http.iter map).foldl
    (fun dict pair => dict.setItem (.text (http.asStr pair.1)) (.text (shown http pair.2))) .empty

/-- The dict given to `on_request`. -/
def requestDict (req : MiddlewareRequest Map) : InfoDict :=
  ((OrderedDict.empty.setItem (.text "method") (.leaf (.text req.method))).setItem
    (.text "url") (.leaf (.text req.url))).setItem
    (.text "headers") (.dict (headersDict http req.headers))

/-- The dict given to `on_response`. -/
def responseDict (resp : MiddlewareResponse Map) : InfoDict :=
  (OrderedDict.empty.setItem (.text "status") (.leaf (.int resp.status))).setItem
    (.text "headers") (.dict (headersDict http resp.headers))

/-- One entry of the returned headers.  An entry that is not text, or not a
valid header, is skipped. -/
def appendEntry (map : Map) (entry : PyValue × PyValue) : Map :=
  match entry with
  | (.text name, .text value) =>
      match http.fromBytes name, http.fromStr value with
      | some name, some value => http.append map name value
      | _, _ => map
  | _ => map

/-- `new_headers`. -/
def newHeaders (headers : HeadersDict) : Map := headers.entries.foldl (appendEntry http) http.new

/-- `returned.get_item("headers")`: headers that are not a dict are ignored. -/
def returnedHeaders (returned : InfoDict) (headers : Map) : Map :=
  match returned.getItem (.text "headers") with
  | some (.dict dict) => newHeaders http dict
  | _ => headers

/-- `returned.get_item("url")`: a URL that is not a string is ignored. -/
def returnedUrl (returned : InfoDict) (url : String) : String :=
  match returned.getItem (.text "url") with
  | some (.leaf (.text url)) => url
  | _ => url

/-- What a callback does when it is called with a dict. -/
abbrev Callback := PyObject -> InfoDict -> Except PyErr Returned

variable (display : PyErr -> String) (callback : Callback)

/-- `on_request` from the conversion on. -/
def callRequest (func : PyObject) (req : MiddlewareRequest Map) :
    Except Error (MiddlewareRequest Map) :=
  match callback func (requestDict http req) with
  | .error error => .error ⟨"Middleware on_request error: " ++ display error⟩
  | .ok (.dict returned) =>
      .ok { req with
        url := returnedUrl returned req.url
        headers := returnedHeaders http returned req.headers }
  | .ok _ => .ok req

/-- `on_response` from the conversion on. -/
def callResponse (func : PyObject) (resp : MiddlewareResponse Map) :
    Except Error (MiddlewareResponse Map) :=
  match callback func (responseDict http resp) with
  | .error error => .error ⟨"Middleware on_response error: " ++ display error⟩
  | .ok (.dict returned) =>
      .ok { resp with headers := returnedHeaders http returned resp.headers }
  | .ok _ => .ok resp

/-- `PyMiddlewareWrapper::on_request`, with what the slots hold when they are
looked at before the GIL is taken, and under it. -/
def onRequest (before under : MiddlewareSlots) :
    MiddlewareRequest Map -> Except Error (MiddlewareRequest Map) :=
  MiddlewareSlots.passRequest (callRequest http display callback) before under

/-- `PyMiddlewareWrapper::on_response`. -/
def onResponse (before under : MiddlewareSlots) :
    MiddlewareResponse Map -> Except Error (MiddlewareResponse Map) :=
  MiddlewareSlots.passResponse (callResponse http display callback) before under

end Bridge

/-! ## Callbacks that edit the headers -/

/-- The callback returned headers that are a dict, and the URL it was given. -/
structure EditsHeaders (given returned : InfoDict) (headers : HeadersDict) : Prop where
  headers : returned.getItem (.text "headers") = some (.dict headers)
  url : returned.getItem (.text "url") = given.getItem (.text "url")

section Edits

variable {http : Http Name Value Map} {display : PyErr -> String} {callback : Callback}
  {before under : MiddlewareSlots} {func : PyObject}

theorem requestDict_url (req : MiddlewareRequest Map) :
    (requestDict http req).getItem (.text "url") = some (.leaf (.text req.url)) := by
  unfold requestDict
  rw [OrderedDict.getItem_setItem_other _ (by decide)]
  exact OrderedDict.getItem_setItem_same ..

theorem requestDict_headers (req : MiddlewareRequest Map) :
    (requestDict http req).getItem (.text "headers") = some (.dict (headersDict http req.headers)) :=
  OrderedDict.getItem_setItem_same ..

theorem responseDict_headers (resp : MiddlewareResponse Map) :
    (responseDict http resp).getItem (.text "headers") =
      some (.dict (headersDict http resp.headers)) :=
  OrderedDict.getItem_setItem_same ..

/-- A request whose callback edits the headers has the headers read back, and nothing else changes. -/
theorem onRequest_edited (had : before.onRequest = some func) (has : under.onRequest = some func)
    {req : MiddlewareRequest Map} {returned : InfoDict} {headers : HeadersDict}
    (returns : callback func (requestDict http req) = .ok (.dict returned))
    (edits : EditsHeaders (requestDict http req) returned headers) :
    onRequest http display callback before under req =
      .ok { req with headers := newHeaders http headers } := by
  have url : returnedUrl returned req.url = req.url := by
    unfold returnedUrl
    rw [edits.url, requestDict_url]
  have read : returnedHeaders http returned req.headers = newHeaders http headers := by
    unfold returnedHeaders
    rw [edits.headers]
  unfold onRequest MiddlewareSlots.passRequest MiddlewareSlots.bridge
  rw [had, has]
  simp only [Option.isNone_some, Bool.false_eq_true, if_false, callRequest, returns, url, read]

theorem onResponse_edited (had : before.onResponse = some func)
    (has : under.onResponse = some func)
    {resp : MiddlewareResponse Map} {returned : InfoDict} {headers : HeadersDict}
    (returns : callback func (responseDict http resp) = .ok (.dict returned))
    (edits : EditsHeaders (responseDict http resp) returned headers) :
    onResponse http display callback before under resp =
      .ok { resp with headers := newHeaders http headers } := by
  have read : returnedHeaders http returned resp.headers = newHeaders http headers := by
    unfold returnedHeaders
    rw [edits.headers]
  unfold onResponse MiddlewareSlots.passResponse MiddlewareSlots.bridge
  rw [had, has]
  simp only [Option.isNone_some, Bool.false_eq_true, if_false, callResponse, returns, read]

end Edits

/-! ## What the trip does to one name -/

/-- The header that an entry is: its key and its value are strings and valid. -/
def fieldOf (http : Http Name Value Map) (entry : PyValue × PyValue) : Option (Name × Value) :=
  match entry with
  | (.text name, .text value) =>
      (http.fromBytes name).bind (fun name => (http.fromStr value).map (fun value => (name, value)))
  | _ => none

/-- The headers of a dict, in its order. -/
def fieldsOf (http : Http Name Value Map) (headers : HeadersDict) : List (Name × Value) :=
  headers.entries.filterMap (fieldOf http)

theorem newHeaders_fields (http : Http Name Value Map) (headers : HeadersDict) : newHeaders http headers =
    (fieldsOf http headers).foldl (fun map pair => http.append map pair.1 pair.2) http.new := by
  have each : forall map entry, appendEntry http map entry =
      match fieldOf http entry with
      | some pair => http.append map pair.1 pair.2
      | none => map := by
    intro map entry
    rcases entry with ⟨key, value⟩
    cases key with
    | text key =>
        cases value with
        | text value =>
            unfold appendEntry fieldOf
            dsimp only
            cases http.fromBytes key with
            | none => rfl
            | some name => cases http.fromStr value <;> rfl
        | _ => rfl
    | _ => rfl
  unfold newHeaders fieldsOf
  rw [List.foldl_filterMap]
  congr 1
  funext map entry
  rw [each]
  cases fieldOf http entry <;> rfl

variable [DecidableEq Name]

/-- The values an iteration over a map shows for a name. -/
def valuesOf (name : Name) (pairs : List (Name × Value)) : List Value :=
  (pairs.filter (fun pair => pair.1 = name)).map Prod.snd

/-- What `HeaderMap::append` promises for as many names as a map has room for. -/
def Http.Collects (http : Http Name Value Map) (capacity : Nat) : Prop :=
  forall pairs : List (Name × Value), (pairs.map Prod.fst).dedup.length ≤ capacity ->
    forall name, http.getAll (pairs.foldl (fun map pair => http.append map pair.1 pair.2) http.new) name =
      valuesOf name pairs

/-- What the documentation of the `http` crate says of these functions: a name
is printed in the spelling it is parsed from, a value that `to_str` shows is
read back by `from_str`, `""` is a value, and a map with room for all names keeps
the values of each name in order. -/
structure Http.Documented (http : Http Name Value Map) : Prop where
  fromBytes_asStr : forall name, http.fromBytes (http.asStr name) = some name
  fromStr_toStr : forall value text, http.toStr value = some text -> http.fromStr text = some value
  fromStr_empty : ∃ value, http.fromStr "" = some value ∧ http.toStr value = some ""
  getAll_iter : forall map name, http.getAll map name = valuesOf name (http.iter map)
  collects : forall capacity, http.Collects capacity

section Trip

variable (http : Http Name Value Map)

/-- A key of a headers dict is read as this name, in whatever letter case. -/
def spells (name : Name) : PyValue -> Bool
  | .text key => http.fromBytes key = some name
  | _ => false

/-- The value an entry is read as. -/
def readValue (entry : PyValue × PyValue) : Option Value :=
  match entry.2 with
  | .text value => http.fromStr value
  | _ => none

/-- The callback left the entry of a name as it was given, and added none under
another spelling of the name. -/
def Untouched (given returned : HeadersDict) (name : Name) : Prop :=
  returned.select (spells http name) = given.select (spells http name)

/-- A name that survives the trip: no value, or one that `to_str` can show. -/
def Faithful (map : Map) (name : Name) : Prop :=
  http.getAll map name = [] ∨
    ∃ value, http.getAll map name = [value] ∧ (http.toStr value).isSome

/-- Every name the callback left untouched has the values it had. -/
def FrameKept (returned : HeadersDict) (before after : Map) : Prop :=
  forall name, Untouched http (headersDict http before) returned name ->
    http.getAll after name = http.getAll before name

/-- Every name the callback left untouched survives the trip. -/
def FrameFaithful (returned : HeadersDict) (before : Map) : Prop :=
  forall name, Untouched http (headersDict http before) returned name ->
    Faithful http before name

variable {http}

theorem valuesOf_fieldOf (entry : PyValue × PyValue) (name : Name) :
    valuesOf name (fieldOf http entry).toList =
      ([entry].filter (fun entry => spells http name entry.1)).filterMap (readValue http) := by
  rcases entry with ⟨key, value⟩
  cases key with
  | text key =>
      cases value with
      | text value =>
          cases parsed : http.fromBytes key with
          | none => simp [valuesOf, fieldOf, spells, parsed]
          | some other =>
              cases read : http.fromStr value with
              | none =>
                  by_cases same : other = name <;>
                    simp [valuesOf, fieldOf, spells, readValue, parsed, read, same]
              | some value =>
                  by_cases same : other = name <;>
                    simp [valuesOf, fieldOf, spells, readValue, parsed, read, same]
      | surrogates text | int number | other object =>
          by_cases own : http.fromBytes key = some name <;>
            simp [valuesOf, fieldOf, spells, readValue, own]
  | surrogates text | int number | other object => simp [valuesOf, fieldOf, spells]

/-- The values of a name among the headers of a dict are what its entries under
the spellings of the name are read as. -/
theorem valuesOf_fieldsOf (headers : HeadersDict) (name : Name) :
    valuesOf name (fieldsOf http headers) =
      (headers.select (spells http name)).filterMap (readValue http) := by
  unfold fieldsOf OrderedDict.select
  induction headers.entries with
  | nil => rfl
  | cons entry rest hypothesis =>
      have split : (entry :: rest).filterMap (fieldOf http) =
          (fieldOf http entry).toList ++ rest.filterMap (fieldOf http) := by
        cases read : fieldOf http entry <;> simp [read]
      rw [split, valuesOf, List.filter_append, List.map_append]
      change valuesOf name _ ++ valuesOf name _ = _
      rw [valuesOf_fieldOf, hypothesis, ← List.filterMap_append, ← List.filter_append]
      rfl

variable (documented : http.Documented)

include documented

theorem spells_asStr (name other : Name) :
    spells http name (.text (http.asStr other)) = decide (other = name) := by
  change decide (http.fromBytes (http.asStr other) = some name) = decide (other = name)
  simp only [documented.fromBytes_asStr other, Option.some.injEq]

/-- The dict shows the last value of a name, under the name as `as_str` prints it. -/
theorem select_headersDict (map : Map) (name : Name) :
    (headersDict http map).select (spells http name) =
      ((http.getAll map name).getLast?.map (fun value =>
        (PyValue.text (http.asStr name), PyValue.text (shown http value)))).toList := by
  rw [documented.getAll_iter, headersDict]
  induction http.iter map using List.reverseRecOn with
  | nil => rfl
  | append_singleton pairs pair hypothesis =>
      rcases pair with ⟨other, value⟩
      rw [List.foldl_append, List.foldl_cons, List.foldl_nil]
      by_cases same : other = name
      · subst other
        have own : spells http name (.text (http.asStr name)) = true := by
          rw [spells_asStr documented]
          exact decide_eq_true rfl
        rw [OrderedDict.select_setItem_own own]
        · simp [valuesOf]
        · rw [hypothesis]
          cases (valuesOf name pairs).getLast? with
          | none => exact Or.inl rfl
          | some last => exact Or.inr ⟨_, rfl⟩
      · have foreign : spells http name (.text (http.asStr other)) = false := by
          rw [spells_asStr documented]
          exact decide_eq_false same
        rw [OrderedDict.select_setItem_of_not foreign, hypothesis]
        simp [valuesOf, same]

theorem getAll_newHeaders (headers : HeadersDict) (name : Name) :
    http.getAll (newHeaders http headers) name =
      (headers.select (spells http name)).filterMap (readValue http) := by
  rw [newHeaders_fields, documented.collects _ _ (Nat.le_refl _), valuesOf_fieldsOf]

/-- What an untouched name holds after the trip: the last of its values, as shown. -/
theorem getAll_untouched {map : Map} {returned : HeadersDict} {name : Name}
    (untouched : Untouched http (headersDict http map) returned name) :
    http.getAll (newHeaders http returned) name =
      ((http.getAll map name).getLast?.bind (fun value =>
        http.fromStr (shown http value))).toList := by
  rw [getAll_newHeaders documented, untouched, select_headersDict documented]
  cases (http.getAll map name).getLast? with
  | none => rfl
  | some last => cases read : http.fromStr (shown http last) <;> simp [readValue, read]

/-- An untouched name keeps its values exactly when it is faithful. -/
theorem untouched_kept_iff {map : Map} {returned : HeadersDict} {name : Name}
    (untouched : Untouched http (headersDict http map) returned name) :
    http.getAll (newHeaders http returned) name = http.getAll map name <->
      Faithful http map name := by
  rw [getAll_untouched documented untouched]
  constructor
  · intro kept
    cases last : (http.getAll map name).getLast? with
    | none => exact Or.inl (List.getLast?_eq_none_iff.mp last)
    | some value =>
        rw [last] at kept
        cases read : http.fromStr (shown http value) with
        | none =>
            simp only [Option.bind_some, read, Option.toList_none] at kept
            rw [← kept] at last
            exact (nomatch last)
        | some again =>
            simp only [Option.bind_some, read, Option.toList_some] at kept
            have same : again = value := by
              rw [← kept, List.getLast?_singleton] at last
              exact Option.some.inj last
            subst again
            refine Or.inr ⟨value, kept.symm, ?_⟩
            -- a hidden value comes back as the empty one, which is not hidden
            cases visible : http.toStr value with
            | some text => rfl
            | none =>
                rcases documented.fromStr_empty with ⟨empty, readEmpty, shownEmpty⟩
                rw [shown, visible, Option.getD_none, readEmpty] at read
                rw [Option.some.inj read] at shownEmpty
                rw [shownEmpty] at visible
                exact (nomatch visible)
  · intro faithful
    rcases faithful with none | ⟨value, single, visible⟩
    · rw [none]
      rfl
    · rcases Option.isSome_iff_exists.mp visible with ⟨text, shownAs⟩
      have read : http.fromStr (shown http value) = some value := by
        rw [shown, shownAs]
        exact documented.fromStr_toStr value text shownAs
      rw [single]
      simp [read]

/-- After a trip every name is faithful, so a second one changes nothing more. -/
theorem faithful_after_observing (map : Map) (name : Name) :
    Faithful http (newHeaders http (headersDict http map)) name := by
  have untouched : Untouched http (headersDict http map) (headersDict http map) name := rfl
  have trip := getAll_untouched documented untouched
  unfold Faithful
  rw [trip]
  cases (http.getAll map name).getLast? with
  | none => exact Or.inl rfl
  | some value =>
      right
      rw [Option.bind_some]
      cases visible : http.toStr value with
      | none =>
          rcases documented.fromStr_empty with ⟨empty, read, shownAs⟩
          rw [shown, visible, Option.getD_none, read]
          exact ⟨empty, rfl, by rw [shownAs]; rfl⟩
      | some text =>
          rw [shown, visible, Option.getD_some, documented.fromStr_toStr value text visible]
          exact ⟨value, rfl, by rw [visible]; rfl⟩

theorem frame_kept_iff (map : Map) (returned : HeadersDict) :
    FrameKept http returned map (newHeaders http returned) <-> FrameFaithful http returned map := by
  constructor
  · intro kept name untouched
    exact (untouched_kept_iff documented untouched).mp (kept name untouched)
  · intro faithful name untouched
    exact (untouched_kept_iff documented untouched).mpr (faithful name untouched)

end Trip

end Middleware
end Lkrequest
