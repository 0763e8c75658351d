import Lkrequest.Middleware.Observers
import Lkrequest.Response.HeaderMap

namespace Lkrequest
namespace Response

open Middleware.Bytes (HeaderName HeaderValue toStr fromStr visible fromStr_toStr fullName)

/-!
# The fields of a response

Four classes take the fields of upstream over.  A value that is not visible ASCII
is taken over as an empty string, and so are all such values.
-/

/-- A `http::HeaderMap`, as it is iterated over. -/
abbrev Fields := List (HeaderName × HeaderValue)

/-- `v.to_str().unwrap_or("")`. -/
def shown (value : HeaderValue) : String := (toStr value).getD ""

/-- `(k.as_str().to_string(), v.to_str().unwrap_or("").to_string())` for each field. -/
def shownFields (fields : Fields) : HeaderList :=
  fields.map (fun field => (String.ofList field.1.val, shown field.2))

namespace Received

/-! ## The four classes -/

/-- `lkrequest::RedirectRecord`. -/
structure RedirectRecord where
  url : String
  status : Nat
  headers : Fields
  redirectTo : String

structure PyRedirectRecord where
  url : String
  statusCode : Nat
  headers : HeaderList
  redirectTo : String

def PyRedirectRecord.fromRust (record : RedirectRecord) : PyRedirectRecord where
  url := record.url
  statusCode := record.status
  headers := shownFields record.headers
  redirectTo := record.redirectTo

/-- What `from_response` reads of a `lkrequest::Response`. -/
structure Buffered where
  status : Nat
  headers : Fields
  url : String
  cookies : List (String × String)
  contentLength : Option Nat
  redirectHistory : List RedirectRecord
  body : Bytes

structure PyResponse where
  statusCode : Nat
  headers : HeaderList
  url : String
  cookies : List (String × String)
  contentLength : Option Nat
  body : Bytes
  encoding : Option String
  history : List PyRedirectRecord

def PyResponse.fromResponse (resp : Buffered) : PyResponse where
  statusCode := resp.status
  headers := shownFields resp.headers
  url := resp.url
  cookies := resp.cookies
  contentLength := resp.contentLength
  body := resp.body
  encoding := parseEncoding (shownFields resp.headers)
  history := resp.redirectHistory.map .fromRust

/-- What is read of a `lkrequest::StreamingResponse` when it is wrapped. -/
structure Streamed where
  status : Nat
  headers : Fields

structure PyStreamingResponse where
  statusCode : Nat
  headers : HeaderList

def PyStreamingResponse.new (resp : Streamed) : PyStreamingResponse where
  statusCode := resp.status
  headers := shownFields resp.headers

structure PyBlockingStreamingResponse where
  statusCode : Nat
  headers : HeaderList

def PyBlockingStreamingResponse.new (resp : Streamed) : PyBlockingStreamingResponse where
  statusCode := resp.status
  headers := shownFields resp.headers

/-- `Response.headers_list`. -/
def PyResponse.headersList (resp : PyResponse) : HeaderList := resp.headers

/-- The entries that a class has of these fields. -/
inductive Presents (fields : Fields) : HeaderList -> Prop
  | response (resp : Buffered) (own : resp.headers = fields) :
      Presents fields (PyResponse.fromResponse resp).headersList
  | streaming (resp : Streamed) (own : resp.headers = fields) :
      Presents fields (PyStreamingResponse.new resp).headers
  | blockingStreaming (resp : Streamed) (own : resp.headers = fields) :
      Presents fields (PyBlockingStreamingResponse.new resp).headers
  | redirect (record : RedirectRecord) (own : record.headers = fields) :
      Presents fields (PyRedirectRecord.fromRust record).headers

theorem Presents.eq {fields : Fields} {entries : HeaderList} (presents : Presents fields entries) :
    entries = shownFields fields := by
  cases presents with
  | response resp own => exact congrArg shownFields own
  | streaming resp own => exact congrArg shownFields own
  | blockingStreaming resp own => exact congrArg shownFields own
  | redirect record own => exact congrArg shownFields own

theorem presents (fields : Fields) : Presents fields (shownFields fields) :=
  .streaming ⟨200, fields⟩ rfl

end Received

/-! ## What is told apart -/

/-- A value that is shown as an empty string: it is empty, or has a byte that
`to_str` does not accept. -/
def Hidden (value : HeaderValue) : Prop := value.val = [] ∨ ∃ byte ∈ value.val, visible byte = false

/-- The same names in the same order, and the same values but for hidden ones. -/
def Blurred (first second : Fields) : Prop :=
  List.Forall₂ (fun field other => field.1 = other.1 ∧
    (field.2 = other.2 ∨ (Hidden field.2 ∧ Hidden other.2))) first second

theorem shown_eq_empty_iff (value : HeaderValue) : shown value = "" <-> Hidden value := by
  unfold shown toStr Hidden
  by_cases all : value.val.all visible = true
  · have none : ¬ ∃ byte ∈ value.val, visible byte = false := by
      rintro ⟨byte, among, hidden⟩
      exact Bool.false_ne_true (hidden.symm.trans (List.all_eq_true.mp all byte among))
    rw [if_pos all, or_iff_left none, Option.getD_some, ← String.toList_inj, String.toList_ofList]
    exact List.map_eq_nil_iff
  · rw [if_neg all]
    refine ⟨fun _ => Or.inr ?_, fun _ => rfl⟩
    by_contra none
    apply all
    apply List.all_eq_true.mpr
    intro byte among
    by_contra hidden
    exact none ⟨byte, among, Bool.eq_false_iff.mpr hidden⟩

theorem shown_eq_iff (first second : HeaderValue) :
    shown first = shown second <-> first = second ∨ (Hidden first ∧ Hidden second) := by
  constructor
  · intro same
    by_cases hidden : Hidden first
    · right
      refine ⟨hidden, (shown_eq_empty_iff second).mp ?_⟩
      rw [← same]
      exact (shown_eq_empty_iff first).mpr hidden
    · left
      have read (value : HeaderValue) (plain : ¬ shown value = "") : fromStr (shown value) = some value := by
        unfold shown at plain ⊢
        cases found : toStr value with
        | none =>
            rw [found] at plain
            exact absurd rfl plain
        | some text => exact fromStr_toStr value text found
      have plain : ¬ shown first = "" := fun empty => hidden ((shown_eq_empty_iff first).mp empty)
      have left := read first plain
      rw [same, read second (same ▸ plain)] at left
      exact (Option.some.inj left).symm
  · rintro (rfl | ⟨first, second⟩)
    · rfl
    · rw [(shown_eq_empty_iff _).mpr first, (shown_eq_empty_iff _).mpr second]

theorem shownFields_eq_iff (first second : Fields) :
    shownFields first = shownFields second <-> Blurred first second := by
  unfold Blurred
  induction first generalizing second with
  | nil =>
      cases second with
      | nil => simp [shownFields]
      | cons field rest => simp [shownFields]
  | cons field rest ih =>
      cases second with
      | nil => simp [shownFields]
      | cons other others =>
          have unfolds : shownFields (field :: rest) = shownFields (other :: others) <->
              (String.ofList field.1.val = String.ofList other.1.val ∧ shown field.2 = shown other.2) ∧
                shownFields rest = shownFields others := by
            unfold shownFields
            rw [List.map_cons, List.map_cons, List.cons.injEq, Prod.mk.injEq]
          have names : String.ofList field.1.val = String.ofList other.1.val <-> field.1 = other.1 := by
            rw [String.ofList_inj]
            exact Subtype.val_inj
          rw [unfolds, List.forall₂_cons, ih, names, shown_eq_iff]

/-! ## The contract -/

section Contract

open Received

/-- Different entries, whichever of the classes have them. -/
def ToldApart (first second : Fields) : Prop :=
  forall one other, Presents first one -> Presents second other -> one ≠ other

/-- No value but an empty one is an empty string. -/
def NoneEmptied (fields : Fields) : Prop :=
  forall entries, Presents fields entries -> forall (index : Nat) field entry,
    fields[index]? = some field -> entries[index]? = some entry -> field.2.val ≠ [] -> entry.2 ≠ ""

/-- Two lists of fields that differ are told apart unless they differ in hidden
values only, and a value is emptied exactly if it has a byte that is not visible. -/
theorem fields_reach_python_iff (first second : Fields) :
    ((first ≠ second -> ToldApart first second) <-> (first ≠ second -> ¬ Blurred first second)) ∧
    (NoneEmptied first <-> ∀ field ∈ first, ∀ byte ∈ field.2.val, visible byte = true) := by
  refine ⟨?_, ?_⟩
  · have apart : ToldApart first second <-> ¬ Blurred first second := by
      rw [← shownFields_eq_iff]
      constructor
      · exact fun told => told _ _ (presents first) (presents second)
      · intro differ one other made made'
        rw [made.eq, made'.eq]
        exact differ
    rw [apart]
  · have hidden (value : HeaderValue) (some : value.val ≠ []) :
        shown value ≠ "" <-> ∀ byte ∈ value.val, visible byte = true := by
      rw [Ne, shown_eq_empty_iff, Hidden, or_iff_right some]
      simp
    constructor
    · intro kept field among byte inside
      rcases List.getElem?_of_mem among with ⟨index, found⟩
      have shownAt : (shownFields first)[index]? = some (String.ofList field.1.val, shown field.2) := by
        unfold shownFields
        rw [List.getElem?_map, found]
        rfl
      have nonempty : field.2.val ≠ [] := List.ne_nil_of_mem inside
      exact (hidden field.2 nonempty).mp (kept _ (presents first) index field _ found shownAt nonempty)
        byte inside
    · intro visible entries made index field entry found shownAt nonempty
      rw [made.eq] at shownAt
      unfold shownFields at shownAt
      rw [List.getElem?_map, found] at shownAt
      cases shownAt
      exact (hidden field.2 nonempty).mpr (visible field (List.mem_of_getElem? found))

/-- Two names in Latin-1 that differ. -/
def jose : Fields := [(fullName, ⟨[74, 111, 115, 0xE9], by decide⟩)]

def zoe : Fields := [(fullName, ⟨[90, 111, 0xEB], by decide⟩)]

theorem latin_names_are_emptied :
    jose ≠ zoe ∧ shownFields jose = [("x-name", "")] ∧ shownFields zoe = [("x-name", "")] ∧
      ¬ ToldApart jose zoe ∧ ¬ NoneEmptied jose := by
  have first : shownFields jose = [("x-name", "")] := by decide
  have second : shownFields zoe = [("x-name", "")] := by decide
  refine ⟨by decide, first, second, ?_, ?_⟩
  · intro told
    exact told _ _ (presents jose) (presents zoe) (first.trans second.symm)
  · intro kept
    have found : (shownFields jose)[0]? = some ("x-name", "") := by
      rw [first]
      rfl
    exact kept _ (presents jose) 0 _ ("x-name", "") rfl found (List.cons_ne_nil _ _) rfl

end Contract

end Response
end Lkrequest
