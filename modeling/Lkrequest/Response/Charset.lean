import Lkrequest.Foundations.MediaType
import Lkrequest.Response.Agreement

namespace Lkrequest
namespace Response

open Foundations
open Foundations.MediaType (Text Value Segment Parameter Ows Token strip split)

/-!
# The charset of a media type

`parse_encoding` cuts a `Content-Type` at every semicolon and takes the first
part that begins with `charset=`.  A media type says otherwise where the name of
the parameter is in another case, where a quoted string has a semicolon or a
backslash in it, and where there is a further `Content-Type`.
-/

/-! ## The first part that begins with `charset=` -/

def charsetName : Text := "charset".toList

/-- The part is taken for the charset. -/
def Begins (part : Text) : Prop := "charset=".toList <+: trim part

instance (part : Text) : Decidable (Begins part) := inferInstanceAs (Decidable (_ <+: _))

/-- What a part that is taken for the charset spells. -/
def spelled (part : Text) : String :=
  String.ofList (trim (trimMatches (· == '"') ((trim part).drop 8)))

/-- The parts of the `Content-Type` headers. -/
def contentTypeParts (headers : HeaderList) : List Text :=
  headers.flatMap (fun header =>
    if eqIgnoreAsciiCase header.1 "content-type" then split header.2.toList else [])

theorem dropPrefix_eq (text start : Text) :
    text.dropPrefix? start = if start <+: text then some (text.drop start.length) else none := by
  by_cases begins : start <+: text
  · rw [if_pos begins]
    rcases begins with ⟨rest, rfl⟩
    rw [List.dropPrefix?_append_of_beq rest (beq_self_eq_true start), List.drop_left]
  · rw [if_neg begins]
    cases dropped : text.dropPrefix? start with
    | none => rfl
    | some rest =>
        rcases List.dropPrefix?_eq_some_iff.mp dropped with ⟨begin', split, same⟩
        exact absurd ⟨rest, (beq_iff_eq.mp same) ▸ split.symm⟩ begins

theorem charsetOf_eq (part : Text) : charsetOf part = if Begins part then some (spelled part) else none := by
  unfold charsetOf
  rw [dropPrefix_eq]
  by_cases begins : Begins part
  · rw [if_pos begins]
    exact congrArg _ (if_pos begins)
  · rw [if_neg begins]
    exact congrArg _ (if_neg begins)

/-- The headers are read as the parts of them all. -/
theorem parseEncoding_eq (headers : HeaderList) :
    parseEncoding headers = (contentTypeParts headers).findSome? charsetOf := by
  induction headers with
  | nil => rfl
  | cons header rest ih =>
      unfold parseEncoding contentTypeParts at ih ⊢
      rw [List.findSome?_cons, List.flatMap_cons, List.findSome?_append, ← ih]
      by_cases contentType : eqIgnoreAsciiCase header.1 "content-type" = true
      · rw [if_pos contentType, if_pos contentType]
        unfold split
        cases (header.2.toList.splitOn ';').findSome? charsetOf <;> rfl
      · rw [if_neg contentType, if_neg contentType]
        rfl

/-- The first part that is taken for the charset is what is read. -/
theorem findSome_charsetOf (parts : List Text) :
    parts.findSome? charsetOf = (parts.find? (fun part => decide (Begins part))).map spelled := by
  induction parts with
  | nil => rfl
  | cons part rest ih =>
      rw [List.findSome?_cons, charsetOf_eq, ih, List.find?_cons]
      by_cases begins : Begins part
      · rw [if_pos begins, decide_eq_true begins]
        rfl
      · rw [if_neg begins, decide_eq_false begins]

/-! ## Parts of a media type -/

theorem isWhitespace_of_isTchar {char : Char} (tchar : MediaType.isTchar char = true) :
    isWhitespace char = false := by
  have range := MediaType.isTchar_range tchar
  unfold isWhitespace
  simp only [Bool.or_eq_false_iff, Bool.and_eq_false_iff, decide_eq_false_iff_not, beq_eq_false_iff_ne]
  omega

theorem Ows.whitespace (ows : Ows) : ∀ char ∈ ows.chars, isWhitespace char = true := by
  intro char among
  rcases ows.blank_or char among with rfl | rfl <;> decide

theorem Ows.simple (ows : Ows) : ';' ∉ ows.chars := by
  intro among
  rcases ows.blank_or ';' among with space | tab
  · exact absurd space (by decide)
  · exact absurd tab (by decide)

theorem trim_eq_strip (text : Text) : trim text = strip isWhitespace text := rfl

theorem trimMatches_eq_strip (text : Text) : trimMatches (· == '"') text = strip (· == '"') text := rfl

/-- What is before the first semicolon names no charset. -/
theorem essence_begins (media : MediaType) : ';' ∉ media.essence ∧ ¬ Begins media.essence := by
  have semicolons : ';' ∉ media.essence := by
    unfold MediaType.essence
    simp [media.type.without (show MediaType.isTchar ';' = false from by decide),
      media.subtype.without (show MediaType.isTchar ';' = false from by decide), Ows.simple media.closing]
  refine ⟨semicolons, ?_⟩
  intro begins
  have equals : '=' ∈ media.essence := by
    apply (MediaType.strip_sublist media.essence).subset
    exact begins.subset (by decide)
  have blank : '=' ∉ media.closing.chars := by
    intro among
    rcases media.closing.blank_or '=' among with space | tab
    · exact absurd space (by decide)
    · exact absurd tab (by decide)
  unfold MediaType.essence at equals
  simp [media.type.without (show MediaType.isTchar '=' = false from by decide),
    media.subtype.without (show MediaType.isTchar '=' = false from by decide), blank] at equals

/-! ## The parameter -/

/-- The value is read as it is meant: a token, or a quoted string without a
backslash, a semicolon, or whitespace at its ends. -/
def IsPlain : Value -> Prop
  | .token _ => True
  | .quoted body =>
      (∀ char ∈ body, char.isPair = false ∧ char.char ≠ ';') ∧ trim (Value.raw body) = Value.raw body

/-- The text of a charset that is named as it is looked for. -/
def charsetText (value : Value) : Text := "charset=".toList ++ value.text

theorem trimMatches_quoteless {text : Text} (quoteless : '"' ∉ text) :
    trimMatches (· == '"') text = text := by
  apply MediaType.strip_eq_self
  intro char among
  apply beq_eq_false_iff_ne.mpr
  rintro rfl
  exact quoteless among

/-- The part of a token spells it. -/
theorem spelled_token (token : Token) {part : Text} (trimmed : trim part = charsetText (.token token)) :
    Begins part ∧ spelled part = String.ofList token.chars := by
  have solid : ∀ char ∈ token.chars, isWhitespace char = false :=
    fun char among => isWhitespace_of_isTchar (List.all_eq_true.mp token.tchars char among)
  unfold Begins spelled
  rw [trimmed]
  refine ⟨List.prefix_append _ _, ?_⟩
  have value : (charsetText (.token token)).drop 8 = token.chars := rfl
  rw [value, trimMatches_quoteless (token.without (by decide)), trim_eq_strip,
    MediaType.strip_eq_self solid]

/-- Where a quoted string is in one part, what is spelled is meant if nothing of
it is quoted and nothing is trimmed. -/
theorem spelled_quoted {body : List MediaType.QuotedChar} (whole : ';' ∉ Value.raw body) {part : Text}
    (trimmed : trim part = charsetText (.quoted body)) :
    Begins part ∧
      (spelled part = String.ofList (Value.unquoted (.quoted body)) <-> IsPlain (.quoted body)) := by
  have slashes : forall text : Text, (trim (trimMatches (· == '"') text)).count '\\' = text.count '\\' := by
    intro text
    rw [trim_eq_strip, trimMatches_eq_strip, MediaType.count_strip (by decide), MediaType.count_strip (by decide)]
  have value : (charsetText (.quoted body)).drop 8 = ['"'] ++ (Value.raw body ++ ['"']) := rfl
  have quotes : trimMatches (· == '"') (['"'] ++ (Value.raw body ++ ['"'])) =
      trimMatches (· == '"') (Value.raw body) :=
    MediaType.strip_around (List.all_eq_true.mp rfl) (List.all_eq_true.mp rfl) (Value.raw body)
  unfold Begins spelled
  rw [trimmed, value, quotes, String.ofList_inj]
  refine ⟨List.prefix_append _ _, ?_, ?_⟩
  · intro same
    have counts := congrArg (List.count '\\') same
    have unquoted : Value.unquoted (.quoted body) = body.map MediaType.QuotedChar.char := rfl
    rw [slashes, Value.count_raw, unquoted] at counts
    have pairs : body.countP MediaType.QuotedChar.isPair = 0 := by omega
    have plain : ∀ char ∈ body, char.isPair = false := by
      intro char among
      exact Bool.eq_false_iff.mpr (List.countP_eq_zero.mp pairs char among)
    rcases Value.raw_plain plain with ⟨meant, quoteless⟩
    rw [trimMatches_quoteless quoteless] at same
    refine ⟨fun char among => ⟨plain char among, ?_⟩, same.trans meant.symm⟩
    rintro semicolon
    apply whole
    rw [meant]
    exact List.mem_map.mpr ⟨char, among, semicolon⟩
  · rintro ⟨plain, kept⟩
    rcases Value.raw_plain (fun char among => (plain char among).1) with ⟨meant, quoteless⟩
    rw [trimMatches_quoteless quoteless, kept, meant]
    rfl

/-- Where a quoted string is cut at a semicolon, its part spells something else. -/
theorem spelled_cut {body : List MediaType.QuotedChar} {before after : Text}
    (cut : Value.raw body = before ++ ';' :: after) (first : ';' ∉ before) {part : Text}
    (trimmed : trim part = trim ("charset=".toList ++ '"' :: before)) :
    Begins part ∧ spelled part ≠ String.ofList (Value.unquoted (.quoted body)) := by
  have begins : trim ("charset=".toList ++ '"' :: before) =
      "charset=".toList ++ '"' :: before.rdropWhile isWhitespace :=
    @MediaType.strip_cons_append isWhitespace 'c' '"' (by decide) (by decide) "harset=".toList before
  have value : ("charset=".toList ++ '"' :: before.rdropWhile isWhitespace).drop 8 =
      '"' :: before.rdropWhile isWhitespace := rfl
  unfold Begins spelled
  rw [trimmed, begins, value]
  refine ⟨List.prefix_append _ _, ?_⟩
  intro same
  have semicolon : ';' ∈ Value.unquoted (.quoted body) := by
    apply Value.mem_unquoted_of_mem_raw _ (by decide)
    rw [cut]
    exact List.mem_append_right _ List.mem_cons_self
  rw [← String.ofList_inj.mp same] at semicolon
  have among := (MediaType.strip_sublist _).subset ((MediaType.strip_sublist _).subset semicolon)
  rcases List.mem_cons.mp among with quote | rest
  · exact absurd quote (by decide)
  · exact first ((List.rdropWhile_prefix _ _).subset rest)

section Between

variable (opening closing : Ows)

theorem trim_between (core : Text) : trim (opening.chars ++ (core ++ closing.chars)) = trim core :=
  MediaType.strip_around (Ows.whitespace opening) (Ows.whitespace closing) core

theorem split_between {core : Text} (simple : ';' ∉ core) :
    split (opening.chars ++ (core ++ closing.chars)) = [opening.chars ++ (core ++ closing.chars)] := by
  unfold split
  rw [List.splitOn_eq_singleton]
  simp [Ows.simple opening, Ows.simple closing, simple]

/-- What is said of the first part of a charset: it is taken for the charset, and
spells what is meant exactly if the value is plain. -/
def FirstPart (value : Value) (text : Text) : Prop :=
  ∃ part rest, split text = part :: rest ∧ Begins part ∧
    (spelled part = String.ofList value.unquoted <-> IsPlain value)

theorem firstPart_token (own : Token) :
    FirstPart (.token own) (opening.chars ++ (charsetText (.token own) ++ closing.chars)) := by
  have label : "charset=".toList.all (fun char => !isWhitespace char) = true := by decide
  have solid : trim (charsetText (.token own)) = charsetText (.token own) := by
    apply MediaType.strip_eq_self
    intro char among
    rcases List.mem_append.mp among with name | value
    · exact Bool.not_eq_true' _ ▸ List.all_eq_true.mp label char name
    · exact isWhitespace_of_isTchar (List.all_eq_true.mp own.tchars char value)
  have simple : ';' ∉ charsetText (.token own) := by
    have token : ';' ∉ own.chars := own.without (by decide)
    unfold charsetText Value.text
    simp [token]
  rcases spelled_token own ((trim_between opening closing _).trans solid) with ⟨begins, spells⟩
  exact ⟨_, [], split_between opening closing simple, begins, iff_of_true spells trivial⟩

theorem firstPart_whole {body : List MediaType.QuotedChar} (whole : ';' ∉ Value.raw body) :
    FirstPart (.quoted body) (opening.chars ++ (charsetText (.quoted body) ++ closing.chars)) := by
  have solid : trim (charsetText (.quoted body)) = charsetText (.quoted body) :=
    @MediaType.strip_cons_append isWhitespace 'c' '"' (by decide) (by decide)
      ("harset=".toList ++ '"' :: Value.raw body) []
  have simple : ';' ∉ charsetText (.quoted body) := by
    unfold charsetText Value.text
    simp [whole]
  rcases spelled_quoted whole ((trim_between opening closing _).trans solid) with ⟨begins, spells⟩
  exact ⟨_, [], split_between opening closing simple, begins, spells⟩

theorem firstPart_cut {body : List MediaType.QuotedChar} (semicolon : ';' ∈ Value.raw body) :
    FirstPart (.quoted body) (opening.chars ++ (charsetText (.quoted body) ++ closing.chars)) := by
  rcases List.eq_append_cons_of_mem semicolon with ⟨before, after, cut, first⟩
  have text : opening.chars ++ (charsetText (.quoted body) ++ closing.chars) =
      (opening.chars ++ ("charset=".toList ++ '"' :: before)) ++ ';' :: (after ++ '"' :: closing.chars) := by
    have quotedText : charsetText (.quoted body) = "charset=".toList ++ '"' :: (Value.raw body ++ ['"']) := rfl
    rw [quotedText, cut]
    simp only [List.append_assoc, List.cons_append, List.nil_append]
  have simple : ';' ∉ opening.chars ++ ("charset=".toList ++ '"' :: before) := by
    simp [Ows.simple opening, first]
  have trimmed := trim_between opening ⟨[], rfl⟩ ("charset=".toList ++ '"' :: before)
  rw [List.append_nil] at trimmed
  rcases spelled_cut cut first trimmed with ⟨begins, other⟩
  refine ⟨_, split (after ++ '"' :: closing.chars), ?_, begins, iff_of_false other ?_⟩
  · rw [text, split, List.splitOn_append_cons_self_of_not_mem simple]
    rfl
  · rintro ⟨plain, _⟩
    rcases List.mem_map.mp (Value.mem_unquoted_of_mem_raw semicolon (by decide)) with ⟨char, among, same⟩
    exact (plain char among).2 same

end Between

/-- The first part of a parameter that is named as it is looked for. -/
theorem own_part {segment : Segment} {parameter : Parameter} (own : segment.parameter = some parameter)
    (named : parameter.name.chars = charsetName) : FirstPart parameter.value segment.text := by
  rcases segment with ⟨opening, _, closing⟩
  rcases parameter with ⟨name, value⟩
  cases own
  have text : Segment.text ⟨opening, some ⟨name, value⟩, closing⟩ =
      opening.chars ++ (charsetText value ++ closing.chars) := by
    have ownName : name.chars = charsetName := named
    unfold Segment.text Parameter.text charsetText
    dsimp only [Option.elim]
    rw [ownName]
    rfl
  rw [text]
  cases value with
  | token own => exact firstPart_token opening closing own
  | quoted body =>
      by_cases semicolon : ';' ∈ Value.raw body
      · exact firstPart_cut opening closing semicolon
      · exact firstPart_whole opening closing semicolon

/-! ## The contract -/

/-- The charset that a media type declares. -/
def declaredCharset (media : MediaType) : Option String :=
  (media.find charsetName).map (fun parameter => String.ofList parameter.value.unquoted)

/-- The parts that are cut out of segments. -/
def partsOf (segments : List Segment) : List Text := segments.flatMap (fun segment => split segment.text)

/-- When the charset that is declared is what is read, with the parts of the
later `Content-Type` headers. -/
inductive ReadAsDeclared (media : MediaType) (later : List Text) : Prop
  /-- None is declared, and no part is taken for one. -/
  | undeclared (undeclared : ∀ segment ∈ media.segments, segment.isNamed charsetName = false)
      (unseen : ∀ part ∈ split media.text ++ later, ¬ Begins part)
  /-- The parameter is named `charset`, no part of an earlier parameter is taken
  for it, and its value is plain. -/
  | own {early late : List Segment} {segment : Segment} {parameter : Parameter}
      (first : media.segments = early ++ segment :: late) (holds : segment.parameter = some parameter)
      (others : ∀ segment ∈ early, segment.isNamed charsetName = false)
      (named : parameter.name.chars = charsetName) (unseen : ∀ part ∈ partsOf early, ¬ Begins part)
      (plain : IsPlain parameter.value)
  /-- Another part is taken for it, which spells the same by chance. -/
  | other {early late : List Segment} {segment : Segment} {parameter : Parameter} {part : Text}
      (first : media.segments = early ++ segment :: late) (holds : segment.parameter = some parameter)
      (others : ∀ segment ∈ early, segment.isNamed charsetName = false)
      (named : parameter.isNamed charsetName = true)
      (passed : parameter.name.chars ≠ charsetName ∨ ∃ part ∈ partsOf early, Begins part)
      (found : (split media.text ++ later).find? (fun part => decide (Begins part)) = some part)
      (same : spelled part = String.ofList parameter.value.unquoted)

section Contract

variable {media : MediaType} {early late : List Segment} {segment : Segment} {parameter : Parameter}

theorem split_parts (first : media.segments = early ++ segment :: late) (later : List Text) :
    split media.text ++ later =
      media.essence :: (partsOf early ++ (split segment.text ++ (partsOf late ++ later))) := by
  unfold partsOf
  rw [MediaType.split_text media (essence_begins media).1, first, List.flatMap_append, List.flatMap_cons,
    List.cons_append, List.append_assoc, List.append_assoc]

/-- What is read where the parameter has its name and no earlier part is taken for it. -/
theorem read_own (first : media.segments = early ++ segment :: late) (holds : segment.parameter = some parameter)
    (named : parameter.name.chars = charsetName) (unseen : ∀ part ∈ partsOf early, ¬ Begins part)
    (later : List Text) :
    (split media.text ++ later).findSome? charsetOf = some (String.ofList parameter.value.unquoted) <->
      IsPlain parameter.value := by
  rcases own_part holds named with ⟨part, rest, cut, begins, spells⟩
  have skipped : (partsOf early).findSome? charsetOf = none := by
    apply List.findSome?_eq_none_iff.mpr
    intro part among
    rw [charsetOf_eq, if_neg (unseen part among)]
  rw [split_parts first, List.findSome?_cons, charsetOf_eq, if_neg (essence_begins media).2]
  dsimp only
  rw [List.findSome?_append, skipped, Option.none_or, cut, List.cons_append, List.findSome?_cons, charsetOf_eq,
    if_pos begins]
  dsimp only
  rw [Option.some_inj]
  exact spells

theorem isNamed_of_chars (named : parameter.name.chars = charsetName) :
    parameter.isNamed charsetName = true := by
  unfold Parameter.isNamed
  rw [named]
  decide

/-- What is read of a media type, and of what follows it. -/
theorem read_iff (media : MediaType) (later : List Text) :
    (split media.text ++ later).findSome? charsetOf = declaredCharset media <->
      ReadAsDeclared media later := by
  unfold declaredCharset
  constructor
  · intro read
    rcases media.find_cases charsetName with
      undeclared | ⟨early, segment, late, parameter, first, holds, others, named⟩
    · rw [MediaType.find_none undeclared] at read
      refine .undeclared undeclared ?_
      intro part among begins
      have skipped := List.findSome?_eq_none_iff.mp read part among
      rw [charsetOf_eq, if_pos begins] at skipped
      exact (nomatch skipped)
    · rw [MediaType.find_first first holds others named] at read
      by_cases passed : parameter.name.chars ≠ charsetName ∨ ∃ part ∈ partsOf early, Begins part
      · rw [findSome_charsetOf] at read
        rcases Option.map_eq_some_iff.mp read with ⟨part, found, same⟩
        exact .other first holds others named passed found same
      · rcases not_or.mp passed with ⟨exact', unseen⟩
        have own := not_not.mp exact'
        have unseen' : ∀ part ∈ partsOf early, ¬ Begins part :=
          fun part among begins => unseen ⟨part, among, begins⟩
        exact .own first holds others own unseen' ((read_own first holds own unseen' later).mp read)
  · intro condition
    cases condition with
    | undeclared undeclared unseen =>
        rw [MediaType.find_none undeclared]
        apply List.findSome?_eq_none_iff.mpr
        intro part among
        rw [charsetOf_eq, if_neg (unseen part among)]
    | own first holds others named unseen plain =>
        rw [MediaType.find_first first holds others (isNamed_of_chars named)]
        exact (read_own first holds named unseen later).mpr plain
    | other first holds others named passed found same =>
        rw [MediaType.find_first first holds others named, findSome_charsetOf, found]
        exact congrArg some same

end Contract

/-- The first `Content-Type` is the media type, with headers after it. -/
def FirstContentType (headers : HeaderList) (media : MediaType) (after : HeaderList) : Prop :=
  ∃ before name, headers = before ++ (name, String.ofList media.text) :: after ∧
    (∀ header ∈ before, eqIgnoreAsciiCase header.1 "content-type" = false) ∧
    eqIgnoreAsciiCase name "content-type" = true

theorem parseEncoding_first {headers after : HeaderList} {media : MediaType}
    (first : FirstContentType headers media after) :
    parseEncoding headers = (split media.text ++ contentTypeParts after).findSome? charsetOf := by
  rcases first with ⟨before, name, rfl, others, named⟩
  have skipped : contentTypeParts before = [] := by
    apply List.flatMap_eq_nil_iff.mpr
    intro header among
    rw [others header among]
    rfl
  have parts : contentTypeParts (before ++ (name, String.ofList media.text) :: after) =
      split media.text ++ contentTypeParts after := by
    unfold contentTypeParts at skipped ⊢
    rw [List.flatMap_append, skipped, List.flatMap_cons, if_pos named, String.toList_ofList, List.nil_append]
  rw [parseEncoding_eq, parts]

section Uses

variable {Encoding Value : Type} (codecs : Codecs Encoding)
  (loads : PyStr -> Except PyErr Value) (toJsonPyErr : PyErr -> PyErr)

/-- The charset is that of the response, and all `text()` methods decode with it. -/
structure Uses (headers : HeaderList) (charset : Option String) : Prop where
  parsed : parseEncoding headers = charset
  encoding : forall body, (fromResponse headers body : PyResponse Value).encoding = charset
  text : forall body parsed (calls : List Call) (index : Nat), calls[index]? = some (.text none) ->
    (Reading.answers codecs loads toJsonPyErr ⟨fromResponse headers body, parsed⟩ calls)[index]? =
      some (.ok (.str (PyStr.ofString (declaredText codecs charset body))))
  streamed : forall {Error : Type} (toPyErr : Error -> PyErr) (api : Api) (source : Source Error) (body : Bytes),
    source.bytes = .ok body -> ∃ state,
      (streaming codecs headers toPyErr api).run (.initial source) (textAlone none api) = some state ∧
        state.operations =
          [⟨.text none, .returned (.ok (.str (PyStr.ofString (declaredText codecs charset body))))⟩]

theorem uses_parsed (headers : HeaderList) :
    Uses codecs loads toJsonPyErr headers (parseEncoding headers) where
  parsed := rfl
  encoding _ := rfl
  text body parsed calls index called :=
    (cacheFree codecs loads toJsonPyErr headers body parsed).text calls index none called
  streamed toPyErr api _ _ delivers := textAlone_returns toPyErr api delivers none

/-- The charset of RFC 9110 is used exactly when it is read as it is declared. -/
theorem declared_charset_is_used_iff {headers after : HeaderList} {media : MediaType}
    (first : FirstContentType headers media after) :
    Uses codecs loads toJsonPyErr headers (declaredCharset media) <->
      ReadAsDeclared media (contentTypeParts after) := by
  rw [← read_iff, ← parseEncoding_first first]
  constructor
  · exact Uses.parsed
  · intro parsed
    rw [← parsed]
    exact uses_parsed codecs loads toJsonPyErr headers

end Uses

/-- `text/html` with parameters. -/
def html (segments : List Segment) : MediaType :=
  ⟨⟨"text".toList, by decide, by decide⟩, ⟨"html".toList, by decide, by decide⟩, ⟨[], by decide⟩, segments⟩

/-- `; title="a;b"` -/
def title : Segment :=
  ⟨⟨[' '], by decide⟩,
    some ⟨⟨"title".toList, by decide, by decide⟩,
      .quoted [.plain 'a' (by decide), .plain ';' (by decide), .plain 'b' (by decide)]⟩,
    ⟨[], by decide⟩⟩

/-- `; charset="gbk"` -/
def quotedGbk : Segment :=
  ⟨⟨[' '], by decide⟩,
    some ⟨⟨"charset".toList, by decide, by decide⟩,
      .quoted [.plain 'g' (by decide), .plain 'b' (by decide), .plain 'k' (by decide)]⟩,
    ⟨[], by decide⟩⟩

/-- `; Charset=gbk` -/
def capitalGbk : Segment :=
  ⟨⟨[' '], by decide⟩,
    some ⟨⟨"Charset".toList, by decide, by decide⟩, .token ⟨"gbk".toList, by decide, by decide⟩⟩,
    ⟨[], by decide⟩⟩

theorem quoted_gbk_is_used :
    Uses exampleCodecs exampleLoads id
      [("Server", "x"), ("Content-Type", "text/html; title=\"a;b\"; charset=\"gbk\"")]
      (declaredCharset (html [title, quotedGbk])) := by
  have first : FirstContentType
      [("Server", "x"), ("Content-Type", "text/html; title=\"a;b\"; charset=\"gbk\"")]
      (html [title, quotedGbk]) [] :=
    ⟨[("Server", "x")], "Content-Type", by decide, by decide, by decide⟩
  apply (declared_charset_is_used_iff exampleCodecs exampleLoads id first).mpr
  refine @ReadAsDeclared.own _ _ [title] [] quotedGbk _ rfl rfl (by decide) rfl (by decide) ⟨?_, by decide⟩
  intro char among
  simp only [List.mem_cons, List.not_mem_nil, or_false] at among
  rcases among with rfl | rfl | rfl <;> decide

/-- The name of the parameter is in another case, and no charset is read. -/
theorem capital_charset_is_missed :
    FirstContentType [("content-type", "text/html; Charset=gbk")] (html [capitalGbk]) [] ∧
      declaredCharset (html [capitalGbk]) = some "gbk" ∧
      parseEncoding [("content-type", "text/html; Charset=gbk")] = none :=
  ⟨⟨[], "content-type", by decide, by decide, by decide⟩, by decide, by decide⟩

end Response
end Lkrequest
