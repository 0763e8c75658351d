import Lkrequest.Client.Dns
import Mathlib.Data.List.Basic

namespace Lkrequest
namespace Client

/-!
# The grammar of origins

A key of `connect_to=` is `HOST:PORT`, with the port in digits and a host that
is bracketed or has no colon.  `parse_origin` finds exactly these splits, and it
takes one port more than the grammar has: `u16::from_str` reads a plus sign.
-/

/-! ## Splitting a key -/

theorem splitBracket_eq {text before after : List Char}
    (split : splitBracket text = some (before, after)) :
    text = before ++ ':' :: after ∧ ∃ inner, before = inner ++ [']'] := by
  induction text generalizing before with
  | nil => exact (nomatch split)
  | cons char rest ih =>
      unfold splitBracket at split
      by_cases ends : char = ']' ∧ rest.head? = some ':'
      · rw [if_pos ends] at split
        cases split
        rcases List.head?_eq_some_iff.mp ends.2 with ⟨tail, rfl⟩
        exact ⟨rfl, [], by rw [ends.1]; rfl⟩
      · rw [if_neg ends] at split
        rcases Option.map_eq_some_iff.mp split with ⟨⟨front, back⟩, found, same⟩
        cases same
        rcases ih found with ⟨whole, inner, rfl⟩
        exact ⟨by rw [whole]; rfl, char :: inner, rfl⟩

theorem splitBracket_append {inner : List Char} (plain : ']' ∉ inner) (after : List Char) :
    splitBracket (inner ++ ']' :: ':' :: after) = some (inner ++ [']'], after) := by
  induction inner with
  | nil => rfl
  | cons char inner ih =>
      rw [List.mem_cons, not_or] at plain
      rw [List.cons_append, splitBracket, if_neg (fun ends => plain.1 ends.1.symm), ih plain.2]
      rfl

theorem rsplitColon_eq_none {text : List Char} : rsplitColon text = none <-> ':' ∉ text := by
  induction text with
  | nil => simp [rsplitColon]
  | cons char rest ih =>
      unfold rsplitColon
      cases found : rsplitColon rest with
      | some parts =>
          have there : ¬ ':' ∉ rest := fun absent => by simp [ih.mpr absent] at found
          simp [there]
      | none =>
          have absent := ih.mp found
          by_cases colon : char = ':'
          · simp [colon]
          · simp [colon, absent, Ne.symm colon]

theorem rsplitColon_eq {text before after : List Char} (split : rsplitColon text = some (before, after)) :
    text = before ++ ':' :: after ∧ ':' ∉ after := by
  induction text generalizing before with
  | nil => exact (nomatch split)
  | cons char rest ih =>
      unfold rsplitColon at split
      cases found : rsplitColon rest with
      | some parts =>
          rw [found] at split
          cases split
          rcases ih found with ⟨whole, absent⟩
          exact ⟨congrArg (char :: ·) whole, absent⟩
      | none =>
          rw [found] at split
          by_cases colon : char = ':'
          · rw [if_pos colon] at split
            cases split
            exact ⟨by rw [colon]; rfl, rsplitColon_eq_none.mp found⟩
          · rw [if_neg colon] at split
            exact (nomatch split)

theorem rsplitColon_append {after : List Char} (plain : ':' ∉ after) (before : List Char) :
    rsplitColon (before ++ ':' :: after) = some (before, after) := by
  induction before with
  | nil =>
      rw [List.nil_append, rsplitColon, rsplitColon_eq_none.mpr plain]
      rfl
  | cons char before ih =>
      rw [List.cons_append, rsplitColon, ih]

/-- A text has one split at its last colon. -/
theorem lastColon_unique {before before' after after' : List Char} (plain : ':' ∉ after)
    (plain' : ':' ∉ after') (same : before ++ ':' :: after = before' ++ ':' :: after') :
    before = before' ∧ after = after' := by
  have split := rsplitColon_append plain before
  rw [same, rsplitColon_append plain' before'] at split
  rcases Prod.mk.inj (Option.some.inj split) with ⟨fronts, backs⟩
  exact ⟨fronts.symm, backs.symm⟩

/-! ## Ports -/

/-- A port in digits. -/
structure IsPort (digits : List Char) (port : Nat) : Prop where
  nonempty : digits ≠ []
  digit : ∀ char ∈ digits, char.isDigit = true
  value : Nat.ofDigitChars 10 digits 0 = port
  pos : 1 ≤ port
  bound : port ≤ 65535

theorem IsPort.absent {digits : List Char} {port : Nat} (isPort : IsPort digits port) {char : Char}
    (other : char.isDigit = false) : char ∉ digits := by
  intro among
  exact Bool.noConfusion (other.symm.trans (isPort.digit char among))

/-- What `u16::from_str` takes for digits, with its plus sign gone. -/
theorem filter_digits_iff (digits : List Char) (port : Nat) :
    (if digits ≠ [] ∧ digits.all Char.isDigit then
      let value := digits.foldl (fun value digit => 10 * value + (digit.toNat - '0'.toNat)) 0
      if value < 65536 then some value else none
    else none : Option Nat).filter (· ≠ 0) = some port <-> IsPort digits port := by
  rw [Option.filter_eq_some_iff]
  constructor
  · rintro ⟨found, nonzero⟩
    split at found
    case isFalse => exact (nomatch found)
    case isTrue valid =>
      dsimp only at found
      split at found
      case isFalse => exact (nomatch found)
      case isTrue small =>
        cases found
        have positive := Nat.pos_of_ne_zero (of_decide_eq_true nonzero)
        exact ⟨valid.1, List.all_eq_true.mp valid.2, rfl, positive, Nat.le_of_lt_succ small⟩
  · intro isPort
    have value : digits.foldl (fun value digit => 10 * value + (digit.toNat - '0'.toNat)) 0 = port :=
      isPort.value
    rw [if_pos ⟨isPort.nonempty, List.all_eq_true.mpr isPort.digit⟩]
    dsimp only
    rw [value, if_pos (Nat.lt_succ_of_le isPort.bound)]
    exact ⟨rfl, decide_eq_true (Nat.ne_of_gt isPort.pos)⟩

/-- A plus sign may stand before the digits. -/
theorem parsePort_iff {text : List Char} {port : Nat} : parsePort text = some port <->
    IsPort text port ∨ ∃ digits, text = '+' :: digits ∧ IsPort digits port := by
  unfold parsePort parseU16
  by_cases signed : text.head? = some '+'
  · rcases List.head?_eq_some_iff.mp signed with ⟨digits, rfl⟩
    have sign : ¬ IsPort ('+' :: digits) port := fun isPort =>
      absurd List.mem_cons_self (isPort.absent (by decide))
    rw [if_pos signed, List.tail_cons, filter_digits_iff, or_iff_right sign]
    constructor
    · intro isPort
      exact ⟨digits, rfl, isPort⟩
    · rintro ⟨others, same, isPort⟩
      exact (List.cons.inj same).2 ▸ isPort
  · rw [if_neg signed, filter_digits_iff]
    refine (or_iff_left ?_).symm
    rintro ⟨digits, rfl, _⟩
    exact signed rfl

/-! ## The grammar -/

/-- A host as it stands before a port: in brackets, or without a colon. -/
def HostForm (host : List Char) : Prop :=
  (∃ inner, host = '[' :: inner ++ [']']) ∨ ':' ∉ host

/-- The two sides of the colon in `HOST:PORT`, and what they stand for. -/
structure Sides (addresses : Addresses) (hostText portText : List Char) (host : String) (port : Nat) :
    Prop where
  form : HostForm hostText
  parsed : addresses.parseHost (String.ofList hostText) = some host
  isPort : IsPort portText port

def IsOrigin (addresses : Addresses) (key : String) (host : String) (port : Nat) : Prop :=
  ∃ hostText portText, key.toList = hostText ++ ':' :: portText ∧ Sides addresses hostText portText host port

/-- The key is no origin with a plus sign before its port. -/
def Unsigned (addresses : Addresses) (key : String) : Prop :=
  forall hostText digits, key.toList = hostText ++ ':' :: '+' :: digits ->
    forall host port, ¬ Sides addresses hostText digits host port

/-- `url::Host::parse` takes a bracket for the begin of an IPv6 address, which
goes up to a bracket at the end. -/
def Addresses.BracketsHosts (addresses : Addresses) : Prop :=
  forall text host, addresses.parseHost text = some host -> text.toList.head? = some '[' ->
    ∃ inner, text.toList = '[' :: inner ++ [']'] ∧ ']' ∉ inner

variable {addresses : Addresses} {key : String} {host : String} {port : Nat}

theorem splitOrigin_sound {hostText portText : List Char}
    (split : splitOrigin key = .ok (hostText, portText)) :
    key.toList = hostText ++ ':' :: portText ∧ HostForm hostText := by
  unfold splitOrigin at split
  by_cases bracket : key.toList.head? = some '['
  · rw [if_pos bracket] at split
    cases found : splitBracket key.toList with
    | none =>
        rw [found] at split
        exact (nomatch split)
    | some parts =>
        rw [found] at split
        cases split
        rcases splitBracket_eq found with ⟨whole, inner, rfl⟩
        refine ⟨whole, Or.inl ?_⟩
        rw [whole] at bracket
        cases inner with
        | nil => exact absurd bracket (by simp)
        | cons char inner =>
            have opens : char = '[' := by simpa using bracket
            exact ⟨inner, by rw [opens]⟩
  · rw [if_neg bracket] at split
    cases found : rsplitColon key.toList with
    | none =>
        rw [found] at split
        exact (nomatch split)
    | some parts =>
        rw [found] at split
        rcases parts with ⟨before, after⟩
        dsimp only at split
        by_cases colon : ':' ∈ before
        · rw [if_pos colon] at split
          exact (nomatch split)
        · rw [if_neg colon] at split
          cases split
          exact ⟨(rsplitColon_eq found).1, Or.inr colon⟩

theorem splitOrigin_complete (brackets : addresses.BracketsHosts) {hostText portText : List Char}
    (whole : key.toList = hostText ++ ':' :: portText) (plain : ':' ∉ portText) (form : HostForm hostText)
    (parsed : addresses.parseHost (String.ofList hostText) = some host) :
    splitOrigin key = .ok (hostText, portText) := by
  unfold splitOrigin
  by_cases bracket : hostText.head? = some '['
  · rcases brackets _ _ parsed (by rwa [String.toList_ofList]) with ⟨inner, same, closed⟩
    rw [String.toList_ofList] at same
    have split : splitBracket key.toList = some (hostText, portText) := by
      have inside : ']' ∉ '[' :: inner := by simpa using closed
      rw [whole, same, List.append_assoc]
      exact splitBracket_append inside portText
    rw [if_pos (by rw [whole, same]; rfl), split]
  · have opens : key.toList.head? ≠ some '[' := by
      rw [whole]
      cases hostText with
      | nil => simp
      | cons char rest => exact bracket
    have colon : ':' ∉ hostText := by
      rcases form with ⟨inner, same⟩ | colon
      · exact absurd (by rw [same]; rfl) bracket
      · exact colon
    rw [if_neg opens, whole, rsplitColon_append plain]
    exact if_neg colon

theorem parseOrigin_ok_iff : parseOrigin addresses key = .ok (host, port) <->
    ∃ hostText portText, splitOrigin key = .ok (hostText, portText) ∧ parsePort portText = some port ∧
      addresses.parseHost (String.ofList hostText) = some host := by
  unfold parseOrigin
  cases splitOrigin key with
  | error error => simp [bind, Except.bind]
  | ok parts =>
      rcases parts with ⟨hostText, portText⟩
      simp only [bind, Except.bind]
      cases named : parsePort portText with
      | none => simp [throw, throwThe, MonadExceptOf.throw, named]
      | some number =>
          cases parsed : addresses.parseHost (String.ofList hostText) with
          | none => simp [throw, throwThe, MonadExceptOf.throw, parsed]
          | some name => simp [pure, Except.pure, named, parsed, and_comm]

/-- What is accepted: the grammar, and the grammar with a plus sign. -/
theorem parseOrigin_accepts (brackets : addresses.BracketsHosts) :
    parseOrigin addresses key = .ok (host, port) <->
      IsOrigin addresses key host port ∨
        ∃ hostText digits, key.toList = hostText ++ ':' :: '+' :: digits ∧
          Sides addresses hostText digits host port := by
  have colon : Char.isDigit ':' = false := by decide
  rw [parseOrigin_ok_iff]
  constructor
  · rintro ⟨hostText, portText, split, numbered, parsed⟩
    rcases splitOrigin_sound split with ⟨whole, form⟩
    rcases parsePort_iff.mp numbered with isPort | ⟨digits, rfl, isPort⟩
    · exact Or.inl ⟨hostText, portText, whole, form, parsed, isPort⟩
    · exact Or.inr ⟨hostText, digits, whole, form, parsed, isPort⟩
  · rintro (⟨hostText, portText, whole, sides⟩ | ⟨hostText, digits, whole, sides⟩)
    · have plain := sides.isPort.absent colon
      have split := splitOrigin_complete brackets whole plain sides.form sides.parsed
      exact ⟨hostText, portText, split, parsePort_iff.mpr (Or.inl sides.isPort), sides.parsed⟩
    · have plain : ':' ∉ '+' :: digits := by
        simpa using sides.isPort.absent colon
      have split := splitOrigin_complete brackets whole plain sides.form sides.parsed
      exact ⟨hostText, _, split, parsePort_iff.mpr (Or.inr ⟨digits, rfl, sides.isPort⟩), sides.parsed⟩

/-- A key with a plus sign before its port is not in the grammar. -/
theorem not_isOrigin_of_signed {hostText digits : List Char}
    (whole : key.toList = hostText ++ ':' :: '+' :: digits) (isPort : IsPort digits port) :
    forall host other, ¬ IsOrigin addresses key host other := by
  rintro host other ⟨hostText', portText, whole', sides⟩
  have colon : Char.isDigit ':' = false := by decide
  have plain : ':' ∉ '+' :: digits := by simpa using isPort.absent colon
  have same := (lastColon_unique plain (sides.isPort.absent colon) (whole.symm.trans whole')).2
  have digit := sides.isPort.digit '+' (same ▸ List.mem_cons_self)
  exact Bool.noConfusion digit

/-! ## The contract -/

/-- A key is accepted as the grammar has it if and only if it does not put a
plus sign before the port of an origin. -/
theorem parseOrigin_grammar_iff (brackets : addresses.BracketsHosts) :
    (forall host port, parseOrigin addresses key = .ok (host, port) <-> IsOrigin addresses key host port) <->
      Unsigned addresses key := by
  constructor
  · intro grammar hostText digits whole host port sides
    have accepted := (parseOrigin_accepts brackets).mpr (Or.inr ⟨hostText, digits, whole, sides⟩)
    exact not_isOrigin_of_signed whole sides.isPort host port ((grammar host port).mp accepted)
  · intro unsigned host port
    rw [parseOrigin_accepts brackets]
    refine or_iff_left ?_
    rintro ⟨hostText, digits, whole, sides⟩
    exact unsigned hostText digits whole host port sides

/-- The addresses of `example.com` and of the loopback, in their two spellings. -/
def exampleAddresses : Addresses where
  parseHost text :=
    if text = "example.com" ∨ text = "Example.com" then some "example.com"
    else if text = "[::1]" then some "[::1]" else none
  parseSocketAddr text := if text = "192.0.2.1:443" then some (.v4 0xc0000201#32 443) else none
  showSocketAddr address := if address = .v4 0xc0000201#32 443 then "192.0.2.1:443" else ""

theorem exampleAddresses_bracketsHosts : exampleAddresses.BracketsHosts := by
  intro text host parsed opens
  change (if text = "example.com" ∨ text = "Example.com" then some "example.com"
    else if text = "[::1]" then some "[::1]" else none) = some host at parsed
  by_cases named : text = "example.com" ∨ text = "Example.com"
  · rcases named with rfl | rfl
    · exact absurd opens (by decide)
    · exact absurd opens (by decide)
  · rw [if_neg named] at parsed
    by_cases loopback : text = "[::1]"
    · exact ⟨[':', ':', '1'], by rw [loopback]; rfl, by decide⟩
    · rw [if_neg loopback] at parsed
      exact (nomatch parsed)

/-- The plus sign is read, although the key is not in the grammar. -/
theorem parseOrigin_takes_plus :
    parseOrigin exampleAddresses "example.com:+443" = .ok ("example.com", 443) ∧
      forall host port, ¬ IsOrigin exampleAddresses "example.com:+443" host port := by
  constructor
  · rfl
  · have whole : "example.com:+443".toList =
        ['e', 'x', 'a', 'm', 'p', 'l', 'e', '.', 'c', 'o', 'm'] ++ ':' :: '+' :: ['4', '4', '3'] := rfl
    have isPort : IsPort ['4', '4', '3'] 443 := ⟨by decide, by simp, rfl, by decide, by decide⟩
    exact not_isOrigin_of_signed whole isPort

theorem parseOrigin_grammar_loopback :
    parseOrigin exampleAddresses "[::1]:8443" = .ok ("[::1]", 8443) ∧
      forall host port, parseOrigin exampleAddresses "[::1]:8443" = .ok (host, port) <->
        IsOrigin exampleAddresses "[::1]:8443" host port := by
  refine ⟨rfl, (parseOrigin_grammar_iff exampleAddresses_bracketsHosts).mpr ?_⟩
  intro hostText digits whole
  have sign : '+' ∈ "[::1]:8443".toList := by
    rw [whole]
    simp
  exact absurd sign (by decide)

end Client
end Lkrequest
