import Mathlib.Data.List.DropRight
import Mathlib.Data.List.Infix

namespace Foundations
namespace MediaType

/-!
# Media types

A media type is a type, a subtype and parameters.  The value of a parameter is a
token or a quoted string, in which a backslash stands before a character that is
taken as it is.  Semicolons separate parameters, and are also characters of
quoted strings.

`Trimmed` is about texts without blanks at their ends, and `split` about texts
that are cut at semicolons, whatever these mean.
-/

abbrev Text := List Char

/-! ## The grammar -/

def isTchar (char : Char) : Bool :=
  char.isAlphanum || "!#$%&'*+-.^_\x60|~".toList.contains char

structure Token where
  chars : Text
  filled : chars ≠ []
  tchars : chars.all isTchar = true

/-- Optional blanks. -/
structure Ows where
  chars : Text
  blank : chars.all (fun char => char == ' ' || char == '\t') = true

/-- A character that may be quoted with a backslash. -/
def isQuotable (char : Char) : Bool := char == '\t' || (32 ≤ char.toNat && char.toNat != 127)

/-- A character that stands for itself in a quoted string. -/
def isQdtext (char : Char) : Bool := isQuotable char && char != '"' && char != '\\'

inductive QuotedChar
  | plain (char : Char) (allowed : isQdtext char = true)
  | pair (char : Char) (allowed : isQuotable char = true)

namespace QuotedChar

def text : QuotedChar -> Text
  | .plain char _ => [char]
  | .pair char _ => ['\\', char]

/-- The character that is meant. -/
def char : QuotedChar -> Char
  | .plain char _ => char
  | .pair char _ => char

def isPair : QuotedChar -> Bool
  | .plain _ _ => false
  | .pair _ _ => true

end QuotedChar

inductive Value
  | token (own : Token)
  | quoted (body : List QuotedChar)

namespace Value

/-- The characters between the quotes, as they are written. -/
def raw (body : List QuotedChar) : Text := body.flatMap QuotedChar.text

def text : Value -> Text
  | .token own => own.chars
  | .quoted body => '"' :: raw body ++ ['"']

def unquoted : Value -> Text
  | .token own => own.chars
  | .quoted body => body.map QuotedChar.char

end Value

structure Parameter where
  name : Token
  value : Value

def Parameter.text (parameter : Parameter) : Text :=
  parameter.name.chars ++ '=' :: parameter.value.text

/-- What follows a semicolon: a parameter between blanks, or only blanks. -/
structure Segment where
  opening : Ows
  parameter : Option Parameter
  closing : Ows

def Segment.text (segment : Segment) : Text :=
  segment.opening.chars ++ (segment.parameter.elim [] Parameter.text ++ segment.closing.chars)

end MediaType

structure MediaType where
  type : MediaType.Token
  subtype : MediaType.Token
  closing : MediaType.Ows
  segments : List MediaType.Segment

namespace MediaType

/-- What is before the first semicolon. -/
def essence (media : MediaType) : Text :=
  media.type.chars ++ '/' :: media.subtype.chars ++ media.closing.chars

def text (media : MediaType) : Text :=
  media.essence ++ media.segments.flatMap (fun segment => ';' :: segment.text)

/-- The name, in any case. -/
def Parameter.isNamed (name : Text) (parameter : Parameter) : Bool :=
  parameter.name.chars.map Char.toLower == name

def Segment.isNamed (name : Text) (segment : Segment) : Bool := segment.parameter.any (Parameter.isNamed name)

/-- The first parameter of a name. -/
def find (media : MediaType) (name : Text) : Option Parameter :=
  media.segments.findSome? (fun segment => segment.parameter.filter (Parameter.isNamed name))

theorem Segment.chooses_none {name : Text} {segment : Segment} (other : segment.isNamed name = false) :
    segment.parameter.filter (Parameter.isNamed name) = none := by
  unfold Segment.isNamed at other
  cases holds : segment.parameter with
  | none => rfl
  | some parameter =>
      rw [holds] at other
      exact Option.filter_some_neg other

/-- No parameter is found where none has the name. -/
theorem find_none {media : MediaType} {name : Text}
    (others : ∀ segment ∈ media.segments, segment.isNamed name = false) : media.find name = none :=
  List.findSome?_eq_none_iff.mpr (fun segment among => Segment.chooses_none (others segment among))

/-- The parameter that is found is the first one of the name. -/
theorem find_first {media : MediaType} {name : Text} {early late : List Segment} {segment : Segment}
    {parameter : Parameter} (first : media.segments = early ++ segment :: late)
    (holds : segment.parameter = some parameter)
    (others : ∀ segment ∈ early, segment.isNamed name = false) (named : parameter.isNamed name = true) :
    media.find name = some parameter := by
  have skipped : early.findSome? (fun segment => segment.parameter.filter (Parameter.isNamed name)) = none :=
    List.findSome?_eq_none_iff.mpr (fun segment among => Segment.chooses_none (others segment among))
  unfold find
  rw [first, List.findSome?_append, skipped, List.findSome?_cons, holds, Option.filter_some_pos named]
  rfl

/-- A name is that of no parameter, or of a first one. -/
theorem find_cases (media : MediaType) (name : Text) :
    (∀ segment ∈ media.segments, segment.isNamed name = false) ∨
      ∃ early segment late parameter, media.segments = early ++ segment :: late ∧
        segment.parameter = some parameter ∧ (∀ segment ∈ early, segment.isNamed name = false) ∧
        parameter.isNamed name = true := by
  cases found : media.segments.find? (Segment.isNamed name) with
  | none =>
      left
      exact fun segment among => Bool.eq_false_iff.mpr (List.find?_eq_none.mp found segment among)
  | some segment =>
      right
      rcases List.find?_eq_some_iff_append.mp found with ⟨named, early, late, split, others⟩
      rcases (Option.any_eq_true _ _).mp named with ⟨parameter, holds, own⟩
      refine ⟨early, segment, late, parameter, split, holds, ?_, own⟩
      exact fun segment among => by simpa using others segment among

/-! ## Characters -/

theorem toNat_mono {low high : Char} (le : low.val ≤ high.val) : low.toNat ≤ high.toNat :=
  UInt32.le_iff_toNat_le.mp le

theorem isTchar_range {char : Char} (tchar : isTchar char = true) : 33 ≤ char.toNat ∧ char.toNat ≤ 126 := by
  unfold isTchar at tchar
  rcases Bool.or_eq_true_iff.mp tchar with alphanumeric | symbol
  · have letterOrDigit : char.isAlpha = true ∨ char.isDigit = true := Bool.or_eq_true_iff.mp alphanumeric
    rcases letterOrDigit with letter | digit
    · have someCase : char.isUpper = true ∨ char.isLower = true := Bool.or_eq_true_iff.mp letter
      rcases someCase with upper | lower
      · exact ⟨Nat.le_trans (by decide) (toNat_mono (of_decide_eq_true upper).1),
          Nat.le_trans (toNat_mono (of_decide_eq_true upper).2) (by decide)⟩
      · rcases Bool.and_eq_true_iff.mp lower with ⟨above, below⟩
        exact ⟨Nat.le_trans (by decide) (toNat_mono (of_decide_eq_true above)),
          Nat.le_trans (toNat_mono (of_decide_eq_true below)) (by decide)⟩
    · rcases Bool.and_eq_true_iff.mp digit with ⟨above, below⟩
      exact ⟨Nat.le_trans (by decide) (toNat_mono (of_decide_eq_true above)),
        Nat.le_trans (toNat_mono (of_decide_eq_true below)) (by decide)⟩
  · have every : "!#$%&'*+-.^_\x60|~".toList.all (fun char => 33 ≤ char.toNat && char.toNat ≤ 126) = true := by
      decide
    have own := List.all_eq_true.mp every char (List.contains_iff_mem.mp symbol)
    simpa only [Bool.and_eq_true, decide_eq_true_eq] using own

/-- A token has none of the characters that the grammar uses. -/
theorem Token.without (token : Token) {char : Char} (special : isTchar char = false) : char ∉ token.chars := by
  intro among
  rw [List.all_eq_true.mp token.tchars char among] at special
  exact (nomatch special)

theorem Ows.blank_or (ows : Ows) : ∀ char ∈ ows.chars, char = ' ' ∨ char = '\t' := by
  intro char among
  have own := List.all_eq_true.mp ows.blank char among
  simpa only [Bool.or_eq_true, beq_iff_eq] using own

theorem isQdtext_ne {char : Char} (qdtext : isQdtext char = true) : char ≠ '"' ∧ char ≠ '\\' := by
  unfold isQdtext at qdtext
  simp only [Bool.and_eq_true, bne_iff_ne] at qdtext
  exact ⟨qdtext.1.2, qdtext.2⟩

/-! ## Texts without blanks at their ends -/

section Strip

variable {p : Char -> Bool}

/-- The text without the characters at its ends that are to go. -/
def strip (p : Char -> Bool) (text : Text) : Text := (text.dropWhile p).rdropWhile p

theorem rdropWhile_append_cons {last : Char} (stays : p last = false) (before after : Text) :
    (before ++ last :: after).rdropWhile p = before ++ last :: after.rdropWhile p := by
  have kept : ¬ p last = true := by
    rw [stays]
    exact Bool.false_ne_true
  unfold List.rdropWhile
  rw [List.reverse_append, List.reverse_cons, List.append_assoc, List.dropWhile_append]
  split
  · rename_i gone
    rw [List.isEmpty_iff.mp gone, List.singleton_append, List.dropWhile_cons_of_neg kept]
    simp
  · simp

/-- What is to go at both ends of a text is gone. -/
theorem strip_around {opening closing : Text} (before : ∀ char ∈ opening, p char = true)
    (after : ∀ char ∈ closing, p char = true) (core : Text) :
    strip p (opening ++ (core ++ closing)) = strip p core := by
  have trailing : forall text : Text, (text ++ closing).rdropWhile p = text.rdropWhile p := by
    intro text
    unfold List.rdropWhile
    rw [List.reverse_append, List.dropWhile_append_of_pos]
    exact fun char among => after char (List.mem_reverse.mp among)
  unfold strip
  rw [List.dropWhile_append_of_pos before, List.dropWhile_append]
  split
  · rename_i gone
    have blank := List.dropWhile_eq_nil_iff.mpr after
    rw [List.isEmpty_iff.mp gone, blank]
  · exact trailing _

/-- A text that begins with a character that stays, and has one that stays further on. -/
theorem strip_cons_append {first last : Char} (begins : p first = false) (stays : p last = false)
    (middle after : Text) :
    strip p (first :: (middle ++ last :: after)) = first :: (middle ++ last :: after.rdropWhile p) := by
  have kept : ¬ p first = true := by
    rw [begins]
    exact Bool.false_ne_true
  unfold strip
  rw [List.dropWhile_cons_of_neg kept]
  exact rdropWhile_append_cons stays (first :: middle) after

theorem strip_sublist (text : Text) : (strip p text).Sublist text :=
  (List.rdropWhile_prefix p (text.dropWhile p)).sublist.trans (List.dropWhile_sublist p)

/-- Nothing goes of a text of characters that stay. -/
theorem strip_eq_self {text : Text} (stay : ∀ char ∈ text, p char = false) : strip p text = text := by
  have kept : ∀ char ∈ text, ¬ p char = true := by
    intro char among
    rw [stay char among]
    exact Bool.false_ne_true
  have whole : text.dropWhile p = text := by
    cases text with
    | nil => rfl
    | cons first rest => exact List.dropWhile_cons_of_neg (kept first List.mem_cons_self)
  unfold strip
  rw [whole]
  exact List.rdropWhile_eq_self_iff.mpr (fun filled => kept _ (List.getLast_mem filled))

/-- A character that stays is as often there as before. -/
theorem count_strip {char : Char} (stays : p char = false) (text : Text) :
    (strip p text).count char = text.count char := by
  have drop : forall text : Text, (text.dropWhile p).count char = text.count char := by
    intro text
    induction text with
    | nil => rfl
    | cons first rest ih =>
        rw [List.dropWhile_cons]
        split
        · rename_i goes
          have other : first ≠ char := by
            rintro rfl
            rw [stays] at goes
            exact Bool.false_ne_true goes
          rw [ih, List.count_cons_of_ne other]
        · rfl
  unfold strip List.rdropWhile
  rw [List.count_reverse, drop, List.count_reverse, drop]

end Strip

/-! ## Quoted strings -/

namespace Value

/-- Of the backslashes that are written, those that quote are not meant. -/
theorem count_raw (body : List QuotedChar) :
    (raw body).count '\\' = body.countP QuotedChar.isPair + (body.map QuotedChar.char).count '\\' := by
  induction body with
  | nil => rfl
  | cons first rest ih =>
      have onward : (raw (first :: rest)).count '\\' = first.text.count '\\' + (raw rest).count '\\' := by
        unfold raw
        rw [List.flatMap_cons, List.count_append]
      rw [onward, ih, List.countP_cons, List.map_cons, List.count_cons]
      cases first with
      | plain char allowed =>
          have other : (char == '\\') = false := beq_eq_false_iff_ne.mpr (isQdtext_ne allowed).2
          simp [QuotedChar.text, QuotedChar.isPair, QuotedChar.char, List.count_cons, other]
      | pair char allowed =>
          simp [QuotedChar.text, QuotedChar.isPair, QuotedChar.char, List.count_cons]
          omega

/-- Without a quoted character, what is written is what is meant, and no quote is among it. -/
theorem raw_plain {body : List QuotedChar} (plain : ∀ char ∈ body, char.isPair = false) :
    raw body = body.map QuotedChar.char ∧ '"' ∉ raw body := by
  induction body with
  | nil => exact ⟨rfl, List.not_mem_nil⟩
  | cons first rest ih =>
      rcases ih (fun char among => plain char (List.mem_cons_of_mem _ among)) with ⟨same, unquoted⟩
      have own := plain first List.mem_cons_self
      cases first with
      | pair char allowed => exact (nomatch own)
      | plain char allowed =>
          have onward : raw (.plain char allowed :: rest) = char :: raw rest := rfl
          rw [onward]
          refine ⟨congrArg (char :: ·) same, ?_⟩
          intro among
          rcases List.mem_cons.mp among with quote | later
          · exact (isQdtext_ne allowed).1 quote.symm
          · exact unquoted later

/-- A character other than a backslash is meant wherever it is written. -/
theorem mem_unquoted_of_mem_raw {body : List QuotedChar} {char : Char} (written : char ∈ raw body)
    (unslashed : char ≠ '\\') : char ∈ body.map QuotedChar.char := by
  rcases List.mem_flatMap.mp written with ⟨quoted, among, own⟩
  refine List.mem_map.mpr ⟨quoted, among, ?_⟩
  cases quoted with
  | plain char' allowed => exact (List.mem_singleton.mp own).symm
  | pair char' allowed =>
      rcases List.mem_cons.mp own with slash | meant
      · exact absurd slash unslashed
      · exact (List.mem_singleton.mp meant).symm

end Value

/-! ## Cutting at semicolons -/

/-- The texts between semicolons. -/
def split (text : Text) : List Text := text.splitOn ';'

theorem split_text (media : MediaType) (simple : ';' ∉ media.essence) :
    split media.text = media.essence :: media.segments.flatMap (fun segment => split segment.text) := by
  have general : forall (segments : List Segment) (before : Text),
      split (before ++ segments.flatMap (fun segment => ';' :: segment.text)) =
        split before ++ segments.flatMap (fun segment => split segment.text) := by
    intro segments
    induction segments with
    | nil =>
        intro before
        rw [List.flatMap_nil, List.flatMap_nil, List.append_nil, List.append_nil]
    | cons segment rest ih =>
        intro before
        unfold split at ih ⊢
        rw [List.flatMap_cons, List.flatMap_cons, List.cons_append, List.splitOn_append_cons_self, ih]
  unfold text
  rw [general, split, List.splitOn_eq_singleton simple]
  rfl

end MediaType
end Foundations
