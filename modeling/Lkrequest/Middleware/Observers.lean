import Lkrequest.Middleware.Headers

namespace Lkrequest
namespace Middleware

open Foundations
open Session (MiddlewareSlots)

/-!
# What middlewares keep of a request and a response

A callback that edits some headers keeps the others exactly when each of them
has no value or one visible value, and a stack of callbacks that only observe is
the identity exactly when every name is so: the first observer already loses
repeated and hidden values, the others find nothing more to lose.
-/

/-! ## Stacks -/

section Stacks

variable {Message : Type}

/-- A stack of middlewares, in the order they are called. -/
def stack (passes : List (Message -> Except Error Message)) (message : Message) :
    Except Error Message :=
  passes.foldlM (fun message pass => pass message) message

/-- A pass after which nothing more changes, and which changes nothing exactly
when nothing is left to change. -/
def Settles (Same : Message -> Message -> Prop) (Settled : Message -> Prop)
    (pass : Message -> Except Error Message) : Prop :=
  forall message, ∃ after, pass message = .ok after ∧ Settled after ∧
    (Same message after <-> Settled message)

variable {Same : Message -> Message -> Prop} {Settled : Message -> Prop}

theorem stack_settled (refl : forall message, Same message message)
    (trans : forall {first second third}, Same first second -> Same second third -> Same first third)
    (passes : List (Message -> Except Error Message))
    (settles : ∀ pass ∈ passes, Settles Same Settled pass) {message : Message}
    (settled : Settled message) : ∃ after, stack passes message = .ok after ∧ Same message after := by
  induction passes generalizing message with
  | nil => exact ⟨message, rfl, refl message⟩
  | cons pass passes hypothesis =>
      rcases settles pass (List.mem_cons_self ..) message with ⟨middle, passed, settledMiddle, same⟩
      have rest := hypothesis (fun other member => settles other (List.mem_cons_of_mem _ member))
        settledMiddle
      rcases rest with ⟨after, ran, sameRest⟩
      refine ⟨after, ?_, trans (same.mpr settled) sameRest⟩
      rw [stack, List.foldlM_cons, passed]
      exact ran

/-- A stack of such passes is the identity exactly when the first one is. -/
theorem stack_same_iff (refl : forall message, Same message message)
    (symm : forall {first second}, Same first second -> Same second first)
    (trans : forall {first second third}, Same first second -> Same second third -> Same first third)
    {passes : List (Message -> Except Error Message)} (nonempty : passes ≠ [])
    (settles : ∀ pass ∈ passes, Settles Same Settled pass) (message : Message) :
    ∃ after, stack passes message = .ok after ∧ (Same message after <-> Settled message) := by
  cases passes with
  | nil => exact absurd rfl nonempty
  | cons pass passes =>
      rcases settles pass (List.mem_cons_self ..) message with ⟨middle, passed, settledMiddle, same⟩
      have rest := stack_settled refl trans passes
        (fun other member => settles other (List.mem_cons_of_mem _ member)) settledMiddle
      rcases rest with ⟨after, ran, sameRest⟩
      refine ⟨after, ?_, ?_⟩
      · rw [stack, List.foldlM_cons, passed]
        exact ran
      · rw [← same]
        constructor
        · intro sameAfter
          exact trans sameAfter (symm sameRest)
        · intro sameMiddle
          exact trans sameMiddle sameRest

end Stacks

variable {Name Value Map : Type}

/-! ## Observers -/

section Observers

variable (http : Http Name Value Map)

/-- The callback returns the dict it was given. -/
def Observes (callback : Callback) (func : PyObject) : Prop :=
  forall info, callback func info = .ok (.dict info)

/-- Header maps are equal when they hold the same values under every name. -/
def SameHeaders (first second : Map) : Prop :=
  forall name, http.getAll second name = http.getAll first name

def SameRequest (first second : MiddlewareRequest Map) : Prop :=
  second.method = first.method ∧ second.url = first.url ∧
    SameHeaders http first.headers second.headers

def SameResponse (first second : MiddlewareResponse Map) : Prop :=
  second.status = first.status ∧ SameHeaders http first.headers second.headers

variable {http}

theorem SameHeaders.symm {first second : Map} (same : SameHeaders http first second) :
    SameHeaders http second first := by
  intro name
  exact (same name).symm

theorem SameHeaders.trans {first second third : Map} (early : SameHeaders http first second)
    (late : SameHeaders http second third) : SameHeaders http first third := by
  intro name
  exact (late name).trans (early name)

variable [DecidableEq Name] (documented : http.Documented)

include documented

theorem same_observed_iff (map : Map) :
    SameHeaders http map (newHeaders http (headersDict http map)) <->
      forall name, Faithful http map name := by
  constructor
  · intro same name
    exact (untouched_kept_iff documented (Eq.refl _)).mp (same name)
  · intro faithful name
    exact (untouched_kept_iff documented (Eq.refl _)).mpr (faithful name)

theorem onRequest_settles {display : PyErr -> String} {callback : Callback}
    {slots : MiddlewareSlots} {func : PyObject} (has : slots.onRequest = some func)
    (observes : Observes callback func) :
    Settles (SameRequest http) (fun req => forall name, Faithful http req.headers name)
      (onRequest http display callback slots slots) := by
  intro req
  refine ⟨_, onRequest_edited has has (observes _) ⟨requestDict_headers req, rfl⟩, ?_, ?_⟩
  · exact faithful_after_observing documented req.headers
  · refine Iff.trans ?_ (same_observed_iff documented req.headers)
    constructor
    · intro same
      exact same.2.2
    · intro same
      exact ⟨rfl, rfl, same⟩

theorem onResponse_settles {display : PyErr -> String} {callback : Callback}
    {slots : MiddlewareSlots} {func : PyObject} (has : slots.onResponse = some func)
    (observes : Observes callback func) :
    Settles (SameResponse http) (fun resp => forall name, Faithful http resp.headers name)
      (onResponse http display callback slots slots) := by
  intro resp
  refine ⟨_, onResponse_edited has has (observes _) ⟨responseDict_headers resp, rfl⟩, ?_, ?_⟩
  · exact faithful_after_observing documented resp.headers
  · refine Iff.trans ?_ (same_observed_iff documented resp.headers)
    constructor
    · intro same
      exact same.2
    · intro same
      exact ⟨rfl, same⟩

end Observers

/-! ## Editors and stacks of observers -/

section Main

variable (http : Http Name Value Map) (display : PyErr -> String) (callback : Callback)

/-- A request comes back from a callback that edits headers with its method and
URL, and with the headers the callback left alone exactly if they are faithful. -/
def RequestFrame [DecidableEq Name] : Prop :=
  forall {before under : MiddlewareSlots} {func : PyObject} {req : MiddlewareRequest Map}
    {returned : InfoDict} {headers : HeadersDict},
    before.onRequest = some func -> under.onRequest = some func ->
    callback func (requestDict http req) = .ok (.dict returned) ->
    EditsHeaders (requestDict http req) returned headers ->
    ∃ after, onRequest http display callback before under req = .ok after ∧
      after.method = req.method ∧ after.url = req.url ∧
      (FrameKept http headers req.headers after.headers <-> FrameFaithful http headers req.headers)

/-- The same for a response. -/
def ResponseFrame [DecidableEq Name] : Prop :=
  forall {before under : MiddlewareSlots} {func : PyObject} {resp : MiddlewareResponse Map}
    {returned : InfoDict} {headers : HeadersDict},
    before.onResponse = some func -> under.onResponse = some func ->
    callback func (responseDict http resp) = .ok (.dict returned) ->
    EditsHeaders (responseDict http resp) returned headers ->
    ∃ after, onResponse http display callback before under resp = .ok after ∧
      after.status = resp.status ∧
      (FrameKept http headers resp.headers after.headers <->
        FrameFaithful http headers resp.headers)

/-- A stack of observers is the identity on a request exactly if all its names are faithful. -/
def RequestObservers [DecidableEq Name] : Prop :=
  forall slots : List MiddlewareSlots, slots ≠ [] ->
    (∀ slot ∈ slots, ∃ func, slot.onRequest = some func ∧ Observes callback func) ->
    forall req, ∃ after,
      stack (slots.map (fun slot => onRequest http display callback slot slot)) req = .ok after ∧
      (SameRequest http req after <-> forall name, Faithful http req.headers name)

/-- The same for a response. -/
def ResponseObservers [DecidableEq Name] : Prop :=
  forall slots : List MiddlewareSlots, slots ≠ [] ->
    (∀ slot ∈ slots, ∃ func, slot.onResponse = some func ∧ Observes callback func) ->
    forall resp, ∃ after,
      stack (slots.map (fun slot => onResponse http display callback slot slot)) resp = .ok after ∧
      (SameResponse http resp after <-> forall name, Faithful http resp.headers name)

variable {http} [DecidableEq Name]

/-- A middleware changes only what its callback changed exactly when every name
left untouched has no value or one that `to_str` shows. -/
theorem middleware_keeps_untouched_headers_iff (documented : http.Documented) :
    RequestFrame http display callback ∧ ResponseFrame http display callback ∧
      RequestObservers http display callback ∧ ResponseObservers http display callback := by
  refine ⟨?_, ?_, ?_, ?_⟩
  · intro before under func req returned headers had has returns edits
    exact ⟨_, onRequest_edited had has returns edits, rfl, rfl,
      frame_kept_iff documented req.headers headers⟩
  · intro before under func resp returned headers had has returns edits
    exact ⟨_, onResponse_edited had has returns edits, rfl,
      frame_kept_iff documented resp.headers headers⟩
  · intro slots nonempty observers
    apply stack_same_iff
    · intro req
      exact ⟨rfl, rfl, fun _ => rfl⟩
    · intro first second same
      exact ⟨same.1.symm, same.2.1.symm, same.2.2.symm⟩
    · intro first second third early late
      exact ⟨late.1.trans early.1, late.2.1.trans early.2.1, early.2.2.trans late.2.2⟩
    · simpa using nonempty
    · intro pass member
      rcases List.mem_map.mp member with ⟨slot, among, rfl⟩
      rcases observers slot among with ⟨func, has, observes⟩
      exact onRequest_settles documented has observes
  · intro slots nonempty observers
    apply stack_same_iff
    · intro resp
      exact ⟨rfl, fun _ => rfl⟩
    · intro first second same
      exact ⟨same.1.symm, same.2.symm⟩
    · intro first second third early late
      exact ⟨late.1.trans early.1, early.2.trans late.2⟩
    · simpa using nonempty
    · intro pass member
      rcases List.mem_map.mp member with ⟨slot, among, rfl⟩
      rcases observers slot among with ⟨func, has, observes⟩
      exact onResponse_settles documented has observes

end Main

/-! ## Headers as bytes -/

namespace Bytes

/-- The characters of a header name, in lower case. -/
def lowerToken (char : Char) : Bool :=
  (char.isAlphanum || "!#$%&'*+-.^_`|~".toList.contains char) && char.toLower == char

/-- `HeaderName`. -/
abbrev HeaderName := { chars : List Char // chars ≠ [] ∧ chars.all lowerToken = true }

/-- A byte of a `HeaderValue`. -/
def valid (byte : UInt8) : Bool := 32 ≤ byte && byte != 127 || byte == 9

/-- A byte `to_str` accepts. -/
def visible (byte : UInt8) : Bool := 32 ≤ byte && byte < 127 || byte == 9

/-- `HeaderValue`. -/
abbrev HeaderValue := { bytes : List UInt8 // bytes.all valid = true }

def fromBytes (text : String) : Option HeaderName :=
  let chars := text.toList.map Char.toLower
  if token : chars ≠ [] ∧ chars.all lowerToken = true then some ⟨chars, token⟩ else none

def toStr (value : HeaderValue) : Option String :=
  if value.val.all visible then
    some (String.ofList (value.val.map (fun byte => Char.ofNat byte.toNat)))
  else none

def fromStr (text : String) : Option HeaderValue :=
  let bytes := text.toList.flatMap String.utf8EncodeChar
  if admitted : bytes.all valid = true then some ⟨bytes, admitted⟩ else none

/-- The crate's functions, with a map that is the list of its entries. -/
def http : Http HeaderName HeaderValue (List (HeaderName × HeaderValue)) where
  asStr := fun name => String.ofList name.val
  fromBytes := fromBytes
  toStr := toStr
  fromStr := fromStr
  new := []
  append := fun map name value => map ++ [(name, value)]
  iter := id
  getAll := fun map name => valuesOf name map

theorem encode_visible {byte : UInt8} (shown : visible byte = true) :
    String.utf8EncodeChar (Char.ofNat byte.toNat) = [byte] := by
  have small : forall number : Nat, number < 128 ->
      String.utf8EncodeChar (Char.ofNat number) = [UInt8.ofNat number] := by decide
  have bound : byte.toNat < 128 := by
    simp only [visible, Bool.or_eq_true, Bool.and_eq_true, decide_eq_true_eq, beq_iff_eq,
      UInt8.lt_iff_toNat_lt] at shown
    rcases shown with ⟨-, below⟩ | tab
    · exact Nat.lt_trans below (by decide)
    · rw [tab]
      decide
  rw [small _ bound, UInt8.ofNat_toNat]

theorem encode_all_visible {bytes : List UInt8} (shown : bytes.all visible = true) :
    (bytes.map (fun byte => Char.ofNat byte.toNat)).flatMap String.utf8EncodeChar = bytes := by
  induction bytes with
  | nil => rfl
  | cons byte bytes hypothesis =>
      rw [List.all_cons, Bool.and_eq_true] at shown
      rw [List.map_cons, List.flatMap_cons, encode_visible shown.1, hypothesis shown.2]
      rfl

theorem fromStr_toStr (value : HeaderValue) (text : String) (shown : toStr value = some text) :
    fromStr text = some value := by
  unfold toStr at shown
  split at shown
  · rename_i all
    rw [← Option.some.inj shown]
    unfold fromStr
    simp only [String.toList_ofList, encode_all_visible all, value.property, dif_pos]
  · exact (nomatch shown)

theorem fromBytes_asStr (name : HeaderName) : fromBytes (http.asStr name) = some name := by
  have lower : name.val.map Char.toLower = name.val := by
    have own : name.val.map Char.toLower = name.val.map id := by
      apply List.map_congr_left
      intro char member
      have token := List.all_eq_true.mp name.property.2 char member
      rw [lowerToken, Bool.and_eq_true, beq_iff_eq] at token
      exact token.2
    rw [own, List.map_id]
  unfold fromBytes http
  simp only [String.toList_ofList, lower]
  rw [dif_pos name.property]

theorem collects (capacity : Nat) : http.Collects capacity := by
  have whole : forall (pairs map : List (HeaderName × HeaderValue)),
      pairs.foldl (fun map pair => http.append map pair.1 pair.2) map = map ++ pairs := by
    intro pairs
    induction pairs with
    | nil => exact fun map => (List.append_nil map).symm
    | cons pair rest ih => exact fun map => (ih _).trans (List.append_assoc map [pair] rest)
  intro pairs _ name
  rw [whole]
  rfl

theorem documented : http.Documented where
  fromBytes_asStr := fromBytes_asStr
  fromStr_toStr := fromStr_toStr
  fromStr_empty := ⟨⟨[], rfl⟩, by decide, by decide⟩
  getAll_iter := fun _ _ => rfl
  collects := collects

/-- A callback that returns the dict it is given, whatever function it is. -/
def observer : Callback := fun _ info => .ok (.dict info)

/-- A middleware with one function for both directions. -/
def logger : MiddlewareSlots := ⟨some 1, some 1⟩

def setCookie : HeaderName := ⟨"set-cookie".toList, by decide⟩
def fullName : HeaderName := ⟨"x-name".toList, by decide⟩
def contentType : HeaderName := ⟨"content-type".toList, by decide⟩

/-- `set-cookie: a`, `set-cookie: b`, and a name written in Latin-1. -/
def greeting : MiddlewareResponse (List (HeaderName × HeaderValue)) where
  status := 200
  headers := [(setCookie, ⟨[97], by decide⟩), (setCookie, ⟨[98], by decide⟩),
    (fullName, ⟨[0x52, 0xE9], by decide⟩)]

/-- An observer loses the first cookie and the name. -/
theorem observer_drops_a_cookie :
    ∃ after, onResponse http (fun _ => "") observer logger logger greeting = .ok after ∧
      after.headers = [(setCookie, ⟨[98], by decide⟩), (fullName, ⟨[], by decide⟩)] ∧
      ¬ FrameKept http (headersDict http greeting.headers) greeting.headers after.headers := by
  refine ⟨_, rfl, rfl, ?_⟩
  intro kept
  have cookies := kept setCookie (Eq.refl _)
  exact absurd cookies (by decide)

/-- `content-type: a`. -/
def page : MiddlewareResponse (List (HeaderName × HeaderValue)) where
  status := 200
  headers := [(contentType, ⟨[97], by decide⟩)]

/-- Two observers leave a response with one visible header as it is. -/
theorem observers_keep_a_content_type :
    ∃ after, stack ([logger, logger].map (fun slots =>
        onResponse http (fun _ => "") observer slots slots)) page = .ok after ∧
      SameResponse http page after := by
  have main := middleware_keeps_untouched_headers_iff (fun _ => "") observer documented
  have observed := main.2.2.2 [logger, logger] (by decide)
    (by
      intro slots member
      have same : slots = logger := by simpa using member
      exact ⟨1, by rw [same]; rfl, fun _ => rfl⟩) page
  rcases observed with ⟨after, ran, same⟩
  refine ⟨after, ran, same.mpr ?_⟩
  intro name
  by_cases here : contentType = name
  · subst here
    exact Or.inr ⟨⟨[97], by decide⟩, by decide, by decide⟩
  · left
    change valuesOf name page.headers = []
    simp [valuesOf, page, here]

end Bytes

end Middleware
end Lkrequest
