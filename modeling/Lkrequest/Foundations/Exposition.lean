import Mathlib.Data.List.Basic

namespace Foundations
namespace Exposition

/-!
# A text format of samples

A sample has a name, labels and a value, and is written on a line of its own.
The values of labels are quoted; in them a backslash, a quote and a line feed are
written with a backslash before them.  Blanks between tokens, empty lines and
lines that begin with `#` mean nothing.

The reader below takes every text of the format, and not only what is printed
here: what it makes of a printed line is a theorem about it.
-/

abbrev Text := List Char

structure Sample where
  name : Text
  labels : List (Text × Text)
  value : Text
  timestamp : Option Text
deriving DecidableEq

/-! ## Reading -/

def isBlank (char : Char) : Bool := char == ' ' || char == '\t'

def skipBlanks (text : Text) : Text := text.dropWhile isBlank

/-- A character of a name; those of labels have no colons. -/
def isNameChar (colons : Bool) (char : Char) : Bool :=
  char.isAlphanum || char == '_' || (colons && char == ':')

def isName (colons : Bool) : Text -> Bool
  | [] => false
  | first :: rest => !first.isDigit && (first :: rest).all (isNameChar colons)

/-- The longest beginning of such characters, and what is left. -/
def scan (accepts : Char -> Bool) (text : Text) : Text × Text :=
  (text.takeWhile accepts, text.dropWhile accepts)

def readName (colons : Bool) (text : Text) : Option (Text × Text) :=
  let (name, rest) := scan (isNameChar colons) text
  if isName colons name then some (name, rest) else none

/-- A label value up to the quote that ends it. -/
def readQuoted : Text -> Option (Text × Text)
  | '"' :: rest => some ([], rest)
  | '\\' :: '\\' :: rest => (readQuoted rest).map (fun (value, left) => ('\\' :: value, left))
  | '\\' :: '"' :: rest => (readQuoted rest).map (fun (value, left) => ('"' :: value, left))
  | '\\' :: 'n' :: rest => (readQuoted rest).map (fun (value, left) => ('\n' :: value, left))
  | '\\' :: _ => none
  | char :: rest => (readQuoted rest).map (fun (value, left) => (char :: value, left))
  | [] => none

def expect (char : Char) (text : Text) : Option Text :=
  match skipBlanks text with
  | first :: rest => if first = char then some rest else none
  | [] => none

/-- A label with what is left. -/
def readLabel (text : Text) : Option ((Text × Text) × Text) := do
  let (name, afterName) <- readName false (skipBlanks text)
  let afterEquals <- expect '=' afterName
  let quoted <- expect '"' afterEquals
  let (value, rest) <- readQuoted quoted
  some ((name, value), rest)

/-- Labels up to the brace that ends them, of which there are no more than `fuel`. -/
def readLabels : Nat -> Text -> Option (List (Text × Text) × Text)
  | 0, _ => none
  | fuel + 1, text =>
      match expect '}' text with
      | some rest => some ([], rest)
      | none =>
          match readLabel text with
          | none => none
          | some (label, afterLabel) =>
              match expect ',' afterLabel with
              | some afterComma =>
                  (readLabels fuel afterComma).map (fun (labels, rest) => (label :: labels, rest))
              | none => (expect '}' afterLabel).map (fun rest => ([label], rest))

/-- The value and the timestamp. -/
def readValue (name : Text) (labels : List (Text × Text)) (text : Text) : Option Sample :=
  let (value, afterValue) := scan (fun char => !isBlank char) (skipBlanks text)
  let (timestamp, rest) := scan (fun char => !isBlank char) (skipBlanks afterValue)
  if value.isEmpty || !(skipBlanks rest).isEmpty then none
  else some ⟨name, labels, value, if timestamp.isEmpty then none else some timestamp⟩

def readSample (text : Text) : Option Sample := do
  let (name, afterName) <- readName true (skipBlanks text)
  match expect '{' afterName with
  | some inner =>
      let (labels, rest) <- readLabels (inner.length + 1) inner
      readValue name labels rest
  | none => readValue name [] afterName

/-- The line is neither empty nor a comment. -/
def isSampleLine (line : Text) : Bool :=
  match skipBlanks line with
  | [] => false
  | first :: _ => first != '#'

def readText (text : Text) : Option (List Sample) :=
  ((text.splitOn '\n').filter isSampleLine).mapM readSample

/-! ## Printing -/

def escapeChar (char : Char) : Text :=
  if char = '\\' then ['\\', '\\'] else if char = '"' then ['\\', '"'] else if char = '\n' then ['\\', 'n']
  else [char]

def escape (text : Text) : Text := text.flatMap escapeChar

def printLabel (label : Text × Text) : Text := label.1 ++ '=' :: '"' :: escape label.2 ++ ['"']

def printLabels : List (Text × Text) -> Text
  | [] => []
  | [label] => printLabel label
  | label :: rest => printLabel label ++ ',' :: printLabels rest

def print (sample : Sample) : Text :=
  sample.name ++ (if sample.labels.isEmpty then [] else '{' :: printLabels sample.labels ++ ['}']) ++
    ' ' :: sample.value

/-- A sample that can be printed on a line. -/
structure Printable (sample : Sample) : Prop where
  name : isName true sample.name = true
  labels : ∀ label ∈ sample.labels, isName false label.1 = true
  filled : sample.value ≠ []
  solid : ∀ char ∈ sample.value, isBlank char = false
  unbraced : ∀ char ∈ sample.value.head?, char ≠ '{'
  unbroken : '\n' ∉ sample.value
  unstamped : sample.timestamp = none

/-! ## Printed samples are read back -/

theorem scan_append {accepts : Char -> Bool} {taken rest : Text} (all : ∀ char ∈ taken, accepts char = true)
    (stops : ∀ char ∈ rest.head?, accepts char = false) : scan accepts (taken ++ rest) = (taken, rest) := by
  unfold scan
  rw [List.takeWhile_append_of_pos all, List.dropWhile_append_of_pos all]
  cases rest with
  | nil => rw [List.takeWhile_nil, List.dropWhile_nil, List.append_nil]
  | cons first rest =>
      have rejected : ¬ accepts first = true := by
        rw [stops first rfl]
        exact Bool.false_ne_true
      rw [List.takeWhile_cons_of_neg rejected, List.dropWhile_cons_of_neg rejected, List.append_nil]

theorem skipBlanks_cons {first : Char} (solid : isBlank first = false) (rest : Text) :
    skipBlanks (first :: rest) = first :: rest := by
  unfold skipBlanks
  rw [List.dropWhile_cons_of_neg]
  rw [solid]
  exact Bool.false_ne_true

theorem expect_cons {char : Char} (solid : isBlank char = false) (rest : Text) :
    expect char (char :: rest) = some rest := by
  unfold expect
  rw [skipBlanks_cons solid]
  exact if_pos rfl

theorem expect_other {char first : Char} (solid : isBlank first = false) (other : first ≠ char)
    (rest : Text) : expect char (first :: rest) = none := by
  unfold expect
  rw [skipBlanks_cons solid]
  exact if_neg other

theorem isName_cons {colons : Bool} {name : Text} (named : isName colons name = true) :
    ∃ first rest, name = first :: rest ∧ (∀ char ∈ name, isNameChar colons char = true) := by
  cases name with
  | nil => exact (nomatch named)
  | cons first rest =>
      exact ⟨first, rest, rfl, List.all_eq_true.mp ((Bool.and_eq_true_iff.mp named).2)⟩

theorem isNameChar_solid {colons : Bool} {char : Char} (inName : isNameChar colons char = true) :
    isBlank char = false ∧ char ≠ '#' ∧ char ≠ '}' ∧ char ≠ '\n' := by
  refine ⟨?_, ?_, ?_, ?_⟩
  · cases blank : isBlank char with
    | false => rfl
    | true =>
        rcases Bool.or_eq_true_iff.mp blank with space | tab
        · rw [beq_iff_eq.mp space] at inName
          cases colons <;> exact absurd inName (by decide)
        · rw [beq_iff_eq.mp tab] at inName
          cases colons <;> exact absurd inName (by decide)
  all_goals
    rintro rfl
    cases colons <;> exact absurd inName (by decide)

/-- A name is read up to what cannot continue it. -/
theorem readName_append {colons : Bool} {name rest : Text} (named : isName colons name = true)
    (stops : ∀ char ∈ rest.head?, isNameChar colons char = false) :
    readName colons (name ++ rest) = some (name, rest) := by
  rcases isName_cons named with ⟨_, _, _, all⟩
  unfold readName
  rw [scan_append all stops]
  exact if_pos named

theorem skipBlanks_name {colons : Bool} {name : Text} (named : isName colons name = true) (rest : Text) :
    skipBlanks (name ++ rest) = name ++ rest := by
  rcases isName_cons named with ⟨first, others, rfl, all⟩
  exact skipBlanks_cons (isNameChar_solid (all first List.mem_cons_self)).1 (others ++ rest)

/-- A character that stands for itself. -/
theorem readQuoted_cons {char : Char} (unslashed : char ≠ '\\') (unquoted : char ≠ '"') (rest : Text) :
    readQuoted (char :: rest) = (readQuoted rest).map (fun (value, left) => (char :: value, left)) := by
  rw [readQuoted.eq_6]
  · exact unquoted
  all_goals
    intros
    exact absurd ‹_› unslashed

/-- What is escaped is what is read: no quote in it ends the value, and every
backslash in it begins an escape. -/
theorem readQuoted_escape (value rest : Text) :
    readQuoted (escape value ++ '"' :: rest) = some (value, rest) := by
  induction value with
  | nil => rfl
  | cons char value ih =>
      have onward : readQuoted (escape (char :: value) ++ '"' :: rest) =
          (readQuoted (escape value ++ '"' :: rest)).map (fun (value, left) => (char :: value, left)) := by
        unfold escape
        rw [List.flatMap_cons, List.append_assoc]
        unfold escapeChar
        by_cases slash : char = '\\'
        · rw [if_pos slash, slash]
          rfl
        · by_cases quote : char = '"'
          · rw [if_neg slash, if_pos quote, quote]
            rfl
          · by_cases feed : char = '\n'
            · rw [if_neg slash, if_neg quote, if_pos feed, feed]
              rfl
            · rw [if_neg slash, if_neg quote, if_neg feed]
              exact readQuoted_cons slash quote _
      rw [onward, ih]
      rfl

theorem readLabel_print {label : Text × Text} (named : isName false label.1 = true) (rest : Text) :
    readLabel (printLabel label ++ rest) = some (label, rest) := by
  have text : printLabel label ++ rest = label.1 ++ '=' :: '"' :: (escape label.2 ++ '"' :: rest) := by
    unfold printLabel
    simp only [List.append_assoc, List.cons_append, List.nil_append]
  rw [text]
  unfold readLabel
  rw [skipBlanks_name named, readName_append named (by
    rintro char ⟨⟩
    decide)]
  dsimp only [bind, Option.bind]
  rw [expect_cons (by decide)]
  dsimp only
  rw [expect_cons (by decide)]
  dsimp only
  rw [readQuoted_escape]

theorem expect_printLabel {label : Text × Text} (named : isName false label.1 = true) (rest : Text) :
    expect '}' (printLabel label ++ rest) = none := by
  rcases isName_cons named with ⟨first, others, split, all⟩
  have begins := isNameChar_solid (all first (split ▸ List.mem_cons_self))
  unfold printLabel
  rw [split]
  exact expect_other begins.1 begins.2.2.1 _

theorem readLabels_print {labels : List (Text × Text)}
    (named : ∀ label ∈ labels, isName false label.1 = true) {fuel : Nat} (enough : labels.length < fuel)
    (rest : Text) : readLabels fuel (printLabels labels ++ '}' :: rest) = some (labels, rest) := by
  induction labels generalizing fuel with
  | nil =>
      cases fuel with
      | zero => exact absurd enough (Nat.not_lt_zero _)
      | succ fuel => rfl
  | cons label others ih =>
      have own := named label List.mem_cons_self
      cases fuel with
      | zero => exact absurd enough (Nat.not_lt_zero _)
      | succ fuel =>
          have fewer : others.length < fuel := Nat.lt_of_succ_lt_succ enough
          cases others with
          | nil =>
              unfold readLabels printLabels
              rw [expect_printLabel own]
              dsimp only
              rw [readLabel_print own]
              dsimp only
              rw [expect_other (by decide) (by decide)]
              dsimp only
              rw [expect_cons (by decide)]
              rfl
          | cons second others =>
              have onward := ih (fun other among => named other (List.mem_cons_of_mem _ among)) fewer
              have text : printLabels (label :: second :: others) ++ '}' :: rest =
                  printLabel label ++ ',' :: (printLabels (second :: others) ++ '}' :: rest) := by
                rw [printLabels, List.append_assoc, List.cons_append]
                exact List.cons_ne_nil _ _
              rw [text]
              unfold readLabels
              rw [expect_printLabel own]
              dsimp only
              rw [readLabel_print own]
              dsimp only
              rw [expect_cons (by decide)]
              dsimp only
              rw [onward]
              rfl

theorem readValue_print {name value : Text} {labels : List (Text × Text)} (filled : value ≠ [])
    (solid : ∀ char ∈ value, isBlank char = false) :
    readValue name labels (' ' :: value) = some ⟨name, labels, value, none⟩ := by
  have whole : scan (fun char => !isBlank char) value = (value, []) := by
    have all : ∀ char ∈ value, (!isBlank char) = true := by
      intro char among
      rw [solid char among]
      rfl
    have scanned := @scan_append (fun char => !isBlank char) value [] all (fun _ among => nomatch among)
    rwa [List.append_nil] at scanned
  have skipped : skipBlanks (' ' :: value) = value := by
    cases value with
    | nil => rfl
    | cons first rest =>
        have first' := solid first List.mem_cons_self
        unfold skipBlanks
        rw [List.dropWhile_cons_of_pos rfl]
        exact skipBlanks_cons first' rest
  have filled' : value.isEmpty = false := List.isEmpty_eq_false_iff.mpr filled
  unfold readValue
  rw [skipped, whole]
  dsimp only
  rw [filled']
  rfl

theorem length_le_printLabels (labels : List (Text × Text)) : labels.length ≤ (printLabels labels).length := by
  induction labels with
  | nil => exact Nat.le_refl 0
  | cons label others ih =>
      have own : 1 ≤ (printLabel label).length := by
        unfold printLabel
        rw [List.length_append, List.length_cons]
        omega
      cases others with
      | nil => exact own
      | cons second others =>
          have after : (',' :: printLabels (second :: others)).length =
              (printLabels (second :: others)).length + 1 := rfl
          rw [printLabels, List.length_append, List.length_cons, after]
          · omega
          · exact List.cons_ne_nil _ _

/-- Reading undoes printing. -/
theorem readSample_print {sample : Sample} (printable : Printable sample) :
    readSample (print sample) = some sample := by
  rcases sample with ⟨name, labels, value, timestamp⟩
  have value' := @readValue_print name value labels printable.filled printable.solid
  have unstamped : timestamp = none := printable.unstamped
  have stops : forall stop rest, isNameChar true stop = false ->
      readName true (skipBlanks (name ++ stop :: rest)) = some (name, stop :: rest) := by
    intro stop rest foreign
    rw [skipBlanks_name printable.name, readName_append printable.name]
    rintro char ⟨⟩
    exact foreign
  unfold readSample print
  rw [unstamped]
  cases labels with
  | nil =>
      have unlabelled : expect '{' (' ' :: value) = none := by
        have solid := printable.solid
        have unbraced := printable.unbraced
        dsimp only at solid unbraced
        cases value with
        | nil => rfl
        | cons first rest =>
            unfold expect skipBlanks
            rw [List.dropWhile_cons_of_pos rfl]
            exact expect_other (solid first List.mem_cons_self) (unbraced first rfl) rest
      have text : name ++ (if (([] : List (Text × Text)).isEmpty) = true then []
          else '{' :: printLabels [] ++ ['}']) ++ ' ' :: value = name ++ ' ' :: value := by
        rw [if_pos List.isEmpty_nil, List.append_nil]
      dsimp only
      rw [text, stops ' ' value (by decide)]
      dsimp only [bind, Option.bind]
      rw [unlabelled]
      exact value'
  | cons label others =>
      have enough := length_le_printLabels (label :: others)
      have fuel : forall rest : Text, (label :: others).length <
          (printLabels (label :: others) ++ rest).length + 1 := by
        intro rest
        rw [List.length_append]
        omega
      have text : name ++ (if (label :: others).isEmpty = true then []
          else '{' :: printLabels (label :: others) ++ ['}']) ++ ' ' :: value =
            name ++ '{' :: (printLabels (label :: others) ++ '}' :: ' ' :: value) := by
        rw [if_neg (by rw [List.isEmpty_cons]; exact Bool.false_ne_true)]
        simp only [List.append_assoc, List.cons_append, List.nil_append]
      dsimp only
      rw [text, stops '{' _ (by decide)]
      dsimp only [bind, Option.bind]
      rw [expect_cons (by decide)]
      dsimp only
      rw [readLabels_print printable.labels (fuel _)]
      exact value'

/-- A printed line is the line of a sample. -/
theorem isSampleLine_print {sample : Sample} (printable : Printable sample) :
    isSampleLine (print sample) = true := by
  rcases isName_cons printable.name with ⟨first, rest, split, all⟩
  have begins := isNameChar_solid (all first (split ▸ List.mem_cons_self))
  unfold isSampleLine print
  rw [List.append_assoc, skipBlanks_name printable.name, split]
  exact bne_iff_ne.mpr begins.2.1

theorem escape_unbroken (text : Text) : '\n' ∉ escape text := by
  intro broken
  rcases List.mem_flatMap.mp broken with ⟨char, _, among⟩
  unfold escapeChar at among
  split at among
  · exact absurd among (by decide)
  · split at among
    · exact absurd among (by decide)
    · split at among
      · exact absurd among (by decide)
      · rename_i feed
        exact feed (List.mem_singleton.mp among).symm

theorem isName_unbroken {colons : Bool} {name : Text} (named : isName colons name = true) : '\n' ∉ name := by
  rcases isName_cons named with ⟨_, _, _, all⟩
  intro broken
  exact (isNameChar_solid (all '\n' broken)).2.2.2 rfl

theorem printLabel_unbroken {label : Text × Text} (named : isName false label.1 = true) :
    '\n' ∉ printLabel label := by
  have name := isName_unbroken named
  have value := escape_unbroken label.2
  unfold printLabel
  simp [name, value]

theorem printLabels_unbroken {labels : List (Text × Text)}
    (named : ∀ label ∈ labels, isName false label.1 = true) : '\n' ∉ printLabels labels := by
  induction labels with
  | nil => exact List.not_mem_nil
  | cons label others ih =>
      have own := printLabel_unbroken (named label List.mem_cons_self)
      have onward := ih (fun other among => named other (List.mem_cons_of_mem _ among))
      cases others with
      | nil => exact own
      | cons second others =>
          rw [printLabels]
          · simp [own, onward]
          · exact List.cons_ne_nil _ _

/-- A printed sample stays on its line. -/
theorem print_unbroken {sample : Sample} (printable : Printable sample) : '\n' ∉ print sample := by
  have name := isName_unbroken printable.name
  have labels := printLabels_unbroken printable.labels
  have value := printable.unbroken
  unfold print
  split
  · simp [name, value]
  · simp [name, labels, value]

/-! ## Whole texts -/

/-- Every line with its line feed. -/
def unlines (lines : List Text) : Text := lines.flatMap (fun line => line ++ ['\n'])

theorem splitOn_unlines {lines : List Text} (whole : ∀ line ∈ lines, '\n' ∉ line) :
    (unlines lines).splitOn '\n' = lines ++ [[]] := by
  have text : unlines lines = ['\n'].intercalate (lines ++ [[]]) := by
    clear whole
    unfold unlines
    induction lines with
    | nil => rfl
    | cons line rest ih =>
        rw [List.flatMap_cons, ih, List.cons_append, List.intercalate_cons_of_ne_nil, List.append_assoc]
        exact List.append_ne_nil_of_right_ne_nil _ (List.cons_ne_nil _ _)
  rw [text, List.splitOn_intercalate]
  · intro line among
    rcases List.mem_append.mp among with own | last
    · exact whole line own
    · rw [List.mem_singleton.mp last]
      exact List.not_mem_nil
  · exact List.append_ne_nil_of_right_ne_nil _ (List.cons_ne_nil _ _)

/-- A line of a text: a comment or a sample. -/
inductive Line
  | comment (text : Text)
  | sample (shown : Sample)

def Line.print : Line -> Text
  | .comment text => '#' :: text
  | .sample shown => Exposition.print shown

/-- The line stays one line, and a sample is read back from it. -/
def Line.Printable : Line -> Prop
  | .comment text => '\n' ∉ text
  | .sample shown => Exposition.Printable shown

def Line.sample? : Line -> Option Sample
  | .comment _ => none
  | .sample shown => some shown

theorem Line.Printable.unbroken {line : Line} (printable : line.Printable) : '\n' ∉ line.print := by
  cases line with
  | comment text =>
      intro broken
      rcases List.mem_cons.mp broken with mark | rest
      · exact absurd mark (by decide)
      · exact printable rest
  | sample shown => exact print_unbroken printable

/-- Reading a text of printed lines finds their samples, in their order. -/
theorem readText_unlines {lines : List Line} (printable : ∀ line ∈ lines, line.Printable) :
    readText (unlines (lines.map Line.print)) = some (lines.filterMap Line.sample?) := by
  have whole : ∀ line ∈ lines.map Line.print, '\n' ∉ line := by
    intro line among
    rcases List.mem_map.mp among with ⟨origin, among', rfl⟩
    exact (printable origin among').unbroken
  unfold readText
  rw [splitOn_unlines whole, List.filter_append]
  have last : ([[]] : List Text).filter isSampleLine = [] := rfl
  rw [last, List.append_nil]
  clear whole last
  induction lines with
  | nil => rfl
  | cons line rest ih =>
      have onward := ih (fun other among => printable other (List.mem_cons_of_mem _ among))
      have own := printable line List.mem_cons_self
      cases line with
      | comment text =>
          have skipped : ¬ isSampleLine (Line.comment text).print = true := Bool.false_ne_true
          rw [List.map_cons, List.filter_cons_of_neg skipped, List.filterMap_cons_none rfl]
          exact onward
      | sample sample =>
          have shown : (Line.sample sample).sample? = some sample := rfl
          have kept : isSampleLine (Line.sample sample).print = true := isSampleLine_print own
          rw [List.map_cons, List.filter_cons_of_pos kept, List.mapM_cons, onward,
            List.filterMap_cons_some shown]
          unfold Line.print
          rw [readSample_print own]
          rfl

end Exposition
end Foundations
