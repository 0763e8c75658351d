import Lkrequest.Foundations.Binary64
import Lkrequest.Foundations.Exposition
import Lkrequest.Metrics.Recorder

namespace Lkrequest
namespace Metrics

open Foundations
open Foundations.Exposition (Sample Text readText)

/-!
# The text of the metrics

`prometheus_text` prints the totals and, for each host, a histogram.  The text
is read back by the rules of the exposition format, which know nothing of how
it was printed.
-/

/-! ## How a sum is printed -/

/-- The number `0.d₁d₂…` times a power of ten. -/
structure Decimal where
  digits : List (Fin 10)
  exponent : Int

namespace Decimal

def value (decimal : Decimal) : Rat :=
  decimal.digits.foldl (fun (number : Nat) (digit : Fin 10) => 10 * number + digit) 0 *
    (10 : Rat) ^ (decimal.exponent - decimal.digits.length)

def digitChars (decimal : Decimal) : List Char := decimal.digits.map (fun (digit : Fin 10) => Nat.digitChar digit.val)

/-- `digits_to_dec_str` without a least number of fractional digits. -/
def layout (decimal : Decimal) : String :=
  let point := decimal.exponent.toNat
  String.ofList
    (if decimal.exponent ≤ 0 then
      '0' :: '.' :: List.replicate (-decimal.exponent).toNat '0' ++ decimal.digitChars
    else if point < decimal.digits.length then
      decimal.digitChars.take point ++ '.' :: decimal.digitChars.drop point
    else decimal.digitChars ++ List.replicate (point - decimal.digits.length) '0')

end Decimal

/-- `Display` of an `f64`, where `shortest` finds the digits of a number that is
neither zero nor infinite. -/
def displayF64 (shortest : BitVec 64 -> Decimal) (bits : BitVec 64) : String :=
  let sign := if Binary64.negative bits then "-" else ""
  if Binary64.exponent bits = 2047 then
    if Binary64.fraction bits = 0 then sign ++ "inf" else "NaN"
  else if Binary64.significand bits = 0 then sign ++ "0"
  else sign ++ (shortest bits).layout

/-- The shortest digits of `HISTOGRAM_BUCKETS`. -/
def bucketDecimals : List Decimal :=
  [⟨[1], -1⟩, ⟨[2, 5], -1⟩, ⟨[5], -1⟩, ⟨[1], 0⟩, ⟨[2, 5], 0⟩, ⟨[5], 0⟩, ⟨[1], 1⟩, ⟨[2, 5], 1⟩, ⟨[5], 1⟩,
    ⟨[1], 2⟩]

theorem bucketDecimals_value : bucketDecimals.map Decimal.value = histogramBuckets := by decide +kernel

/-- `HISTOGRAM_BUCKETS` as they are printed. -/
def bucketLabels : List String := bucketDecimals.map Decimal.layout

example : bucketLabels = ["0.01", "0.025", "0.05", "0.1", "0.25", "0.5", "1", "2.5", "5", "10"] := by decide

/-! ## Printing -/

/-- `str::replace`. -/
def replaceChar (text : String) (pattern : Char) (replacement : String) : String :=
  String.ofList (text.toList.flatMap (fun char => if char = pattern then replacement.toList else [char]))

section Print

variable (shortest : BitVec 64 -> Decimal)

/-- The lines of one host. -/
def hostText (host : String) (metrics : HostMetrics (BitVec 64)) : String :=
  let escapedHost := replaceChar (replaceChar host '\\' "\\\\") '"' "\\\""
  let reqCount := metrics.counters .requests
  let sum := displayF64 shortest metrics.histogramSum
  String.join (bucketLabels.zipIdx.map (fun (bucket, i) =>
    "lkrequest_request_duration_seconds_bucket\x7bhost=\"" ++ escapedHost ++ "\",le=\"" ++ bucket ++ "\"\x7d " ++
      (metrics.counters (.histogram i)).repr ++ "\n")) ++
  ("lkrequest_request_duration_seconds_bucket\x7bhost=\"" ++ escapedHost ++ "\",le=\"+Inf\"\x7d " ++
    reqCount.repr ++ "\n") ++
  ("lkrequest_request_duration_seconds_sum\x7bhost=\"" ++ escapedHost ++ "\"\x7d " ++ sum ++ "\n") ++
  ("lkrequest_request_duration_seconds_count\x7bhost=\"" ++ escapedHost ++ "\"\x7d " ++ reqCount.repr ++ "\n")

/-- `prometheus_text`, for the map of hosts in its iteration order or a poisoned lock of it. -/
def prometheusText (totals : Total -> Nat) (perHost : Option (List (String × HostMetrics (BitVec 64)))) :
    String :=
  let out :=
    "# HELP lkrequest_requests_total Total number of HTTP requests.\n" ++
    "# TYPE lkrequest_requests_total counter\n" ++
    ("lkrequest_requests_total " ++ (totals .requests).repr ++ "\n") ++
    "# HELP lkrequest_errors_total Total number of failed HTTP requests.\n" ++
    "# TYPE lkrequest_errors_total counter\n" ++
    ("lkrequest_errors_total " ++ (totals .errors).repr ++ "\n") ++
    "# HELP lkrequest_bytes_received_total Total bytes received across all responses.\n" ++
    "# TYPE lkrequest_bytes_received_total counter\n" ++
    ("lkrequest_bytes_received_total " ++ (totals .bytesReceived).repr ++ "\n") ++
    "# HELP lkrequest_request_duration_seconds HTTP request duration in seconds.\n" ++
    "# TYPE lkrequest_request_duration_seconds histogram\n"
  match perHost with
  | none => out
  | some map => out ++ String.join (map.map (fun (host, metrics) => hostText shortest host metrics))

end Print

/-! ## What is printed -/

/-- A character that neither ends a value nor opens labels. -/
def isPlain (char : Char) : Bool := !Exposition.isBlank char && char != '\n' && char != '{'

theorem isPlain_of_isDigit {char : Char} (digit : char.isDigit = true) : isPlain char = true := by
  cases plain : isPlain char with
  | true => rfl
  | false =>
      have special : char = ' ' ∨ char = '\t' ∨ char = '\n' ∨ char = '{' := by
        simp only [isPlain, Exposition.isBlank] at plain
        grind
      rcases special with rfl | rfl | rfl | rfl <;> exact absurd digit (by decide)

theorem repr_plain (number : Nat) : ∀ char ∈ number.repr.toList, isPlain char = true := by
  intro char among
  rw [Nat.toList_repr] at among
  exact isPlain_of_isDigit (Nat.isDigit_of_mem_toDigits (by decide) (by decide) among)

theorem repr_filled (number : Nat) : number.repr.toList ≠ [] := by
  rw [Nat.toList_repr]
  exact Nat.toDigits_ne_nil

namespace Decimal

theorem digitChars_plain (decimal : Decimal) : ∀ char ∈ decimal.digitChars, isPlain char = true := by
  intro char among
  rcases List.mem_map.mp among with ⟨digit, _, rfl⟩
  have every : forall digit : Fin 10, isPlain (Nat.digitChar digit) = true := by decide
  exact every digit

theorem zeros_plain (count : Nat) : ∀ char ∈ List.replicate count '0', isPlain char = true := by
  intro char among
  rw [(List.mem_replicate.mp among).2]
  decide

theorem layout_plain (decimal : Decimal) : ∀ char ∈ decimal.layout.toList, isPlain char = true := by
  have digits := decimal.digitChars_plain
  intro char among
  unfold layout at among
  rw [String.toList_ofList] at among
  split at among
  · rcases List.mem_cons.mp among with rfl | among
    · decide
    · rcases List.mem_cons.mp among with rfl | among
      · decide
      · rcases List.mem_append.mp among with zero | digit
        · exact zeros_plain _ char zero
        · exact digits char digit
  · split at among
    · rcases List.mem_append.mp among with whole | among
      · exact digits char (List.mem_of_mem_take whole)
      · rcases List.mem_cons.mp among with rfl | part
        · decide
        · exact digits char (List.mem_of_mem_drop part)
    · rcases List.mem_append.mp among with digit | zero
      · exact digits char digit
      · exact zeros_plain _ char zero

theorem layout_filled (decimal : Decimal) : decimal.layout.toList ≠ [] := by
  unfold layout
  rw [String.toList_ofList]
  split
  · exact List.cons_ne_nil _ _
  · split
    · exact List.append_ne_nil_of_right_ne_nil _ (List.cons_ne_nil _ _)
    · intro empty
      have sizes := congrArg List.length empty
      rw [List.length_append, List.length_replicate, digitChars, List.length_map, List.length_nil] at sizes
      omega

end Decimal

section Printed

variable (shortest : BitVec 64 -> Decimal)

theorem displayF64_plain (bits : BitVec 64) :
    ∀ char ∈ (displayF64 shortest bits).toList, isPlain char = true := by
  have sign : ∀ char ∈ (if Binary64.negative bits then "-" else "").toList, isPlain char = true := by
    split <;> exact List.all_eq_true.mp (by decide)
  have infinite : ∀ char ∈ "inf".toList, isPlain char = true := List.all_eq_true.mp (by decide)
  have zero : ∀ char ∈ "0".toList, isPlain char = true := List.all_eq_true.mp (by decide)
  unfold displayF64
  dsimp only
  split
  · split
    · rw [String.toList_append]
      exact List.forall_mem_append.mpr ⟨sign, infinite⟩
    · exact List.all_eq_true.mp (by decide)
  · split
    · rw [String.toList_append]
      exact List.forall_mem_append.mpr ⟨sign, zero⟩
    · rw [String.toList_append]
      exact List.forall_mem_append.mpr ⟨sign, (shortest bits).layout_plain⟩

theorem displayF64_filled (bits : BitVec 64) : (displayF64 shortest bits).toList ≠ [] := by
  unfold displayF64
  dsimp only
  split
  · split
    · rw [String.toList_append]
      exact List.append_ne_nil_of_right_ne_nil _ (by decide)
    · decide
  · split
    · rw [String.toList_append]
      exact List.append_ne_nil_of_right_ne_nil _ (by decide)
    · rw [String.toList_append]
      exact List.append_ne_nil_of_right_ne_nil _ (shortest bits).layout_filled

theorem replaceChar_toList (text : String) (pattern : Char) (replacement : String) :
    (replaceChar text pattern replacement).toList =
      text.toList.flatMap (fun char => if char = pattern then replacement.toList else [char]) :=
  String.toList_ofList

/-- Two replacements one after the other are one escape: the backslashes that
the second one writes are not seen by the first. -/
theorem escapedHost_eq_escape {host : String} (unbroken : '\n' ∉ host.toList) :
    (replaceChar (replaceChar host '\\' "\\\\") '"' "\\\"").toList = Exposition.escape host.toList := by
  unfold Exposition.escape
  rw [replaceChar_toList, replaceChar_toList, List.flatMap_assoc]
  apply List.flatMap_congr
  intro char among
  have feed : char ≠ '\n' := fun same => unbroken (same ▸ among)
  unfold Exposition.escapeChar
  by_cases slash : char = '\\'
  · rw [slash]
    decide
  · by_cases quote : char = '"'
    · rw [quote]
      decide
    · rw [if_neg slash, if_neg slash, if_neg quote, if_neg feed, List.flatMap_singleton, if_neg quote]

/-- A sample of `prometheus_text`, by the texts of its parts. -/
def sampleOf (name : String) (labels : List (String × String)) (value : String) : Sample :=
  ⟨name.toList, labels.map (fun label => (label.1.toList, label.2.toList)), value.toList, none⟩

def bucketName : String := "lkrequest_request_duration_seconds_bucket"

def sumName : String := "lkrequest_request_duration_seconds_sum"

def countName : String := "lkrequest_request_duration_seconds_count"

def bucketSample (host le : String) (count : Nat) : Sample :=
  sampleOf bucketName [("host", host), ("le", le)] count.repr

/-- The series of one host. -/
def hostSamples (host : String) (metrics : HostMetrics (BitVec 64)) : List Sample :=
  bucketLabels.zipIdx.map (fun (bucket, i) => bucketSample host bucket (metrics.counters (.histogram i))) ++
    [bucketSample host "+Inf" (metrics.counters .requests),
      sampleOf sumName [("host", host)] (displayF64 shortest metrics.histogramSum),
      sampleOf countName [("host", host)] (metrics.counters .requests).repr]

/-- The series of the totals. -/
def totalSamples (totals : Total -> Nat) : List Sample :=
  [sampleOf "lkrequest_requests_total" [] (totals .requests).repr,
    sampleOf "lkrequest_errors_total" [] (totals .errors).repr,
    sampleOf "lkrequest_bytes_received_total" [] (totals .bytesReceived).repr]

open Exposition (Line Printable unlines)

theorem bucketOpens : "lkrequest_request_duration_seconds_bucket\x7bhost=\"".toList =
    bucketName.toList ++ "\x7bhost=\"".toList := by
  unfold bucketName
  rw [String.toList_ofList, String.toList_ofList, String.toList_ofList]
  rfl

/-- A bucket of a host is printed as its sample. -/
theorem bucketLine {host le opening : String} (unbroken : '\n' ∉ host.toList)
    (opens : opening.toList = bucketName.toList ++ "\x7bhost=\"".toList)
    (simple : Exposition.escape le.toList = le.toList) (count : Nat) :
    (opening ++ replaceChar (replaceChar host '\\' "\\\\") '"' "\\\"" ++ "\",le=\"" ++ le ++ "\"\x7d " ++
      count.repr ++ "\n").toList = Exposition.print (bucketSample host le count) ++ ['\n'] := by
  unfold bucketSample sampleOf
  simp [escapedHost_eq_escape unbroken, opens, Exposition.print, Exposition.printLabels,
    Exposition.printLabel, simple]

theorem infinityLine {host opening : String} (unbroken : '\n' ∉ host.toList)
    (opens : opening.toList = bucketName.toList ++ "\x7bhost=\"".toList) (count : Nat) :
    (opening ++ replaceChar (replaceChar host '\\' "\\\\") '"' "\\\"" ++ "\",le=\"+Inf\"\x7d " ++ count.repr ++
      "\n").toList = Exposition.print (bucketSample host "+Inf" count) ++ ['\n'] := by
  rw [← bucketLine unbroken opens (by decide)]
  simp

/-- What is said of a host without a bucket is printed as its sample. -/
theorem hostLine {host : String} (unbroken : '\n' ∉ host.toList) {opening name : String}
    (opens : opening.toList = name.toList ++ "\x7bhost=\"".toList) (value : String) :
    (opening ++ replaceChar (replaceChar host '\\' "\\\\") '"' "\\\"" ++ "\"\x7d " ++ value ++
      "\n").toList = Exposition.print (sampleOf name [("host", host)] value) ++ ['\n'] := by
  unfold sampleOf
  simp [escapedHost_eq_escape unbroken, opens, Exposition.print, Exposition.printLabels, Exposition.printLabel]

theorem totalLine {opening name : String} (opens : opening.toList = name.toList ++ [' ']) (value : String) :
    (opening ++ value ++ "\n").toList = Exposition.print (sampleOf name [] value) ++ ['\n'] := by
  unfold sampleOf
  simp [opens, Exposition.print]

theorem bucketLabels_simple : ∀ le ∈ bucketLabels, Exposition.escape le.toList = le.toList := by decide

/-- The text of a host is the lines of its samples. -/
theorem hostText_toList {host : String} (unbroken : '\n' ∉ host.toList)
    (metrics : HostMetrics (BitVec 64)) :
    (hostText shortest host metrics).toList =
      unlines ((hostSamples shortest host metrics).map Exposition.print) := by
  have sumOpens : "lkrequest_request_duration_seconds_sum\x7bhost=\"".toList =
      sumName.toList ++ "\x7bhost=\"".toList := by
    unfold sumName
    rw [String.toList_ofList, String.toList_ofList, String.toList_ofList]
    rfl
  have countOpens : "lkrequest_request_duration_seconds_count\x7bhost=\"".toList =
      countName.toList ++ "\x7bhost=\"".toList := by
    unfold countName
    rw [String.toList_ofList, String.toList_ofList, String.toList_ofList]
    rfl
  unfold hostText hostSamples unlines
  dsimp only
  rw [String.toList_append, String.toList_append, String.toList_append,
    infinityLine unbroken bucketOpens, hostLine unbroken sumOpens, hostLine unbroken countOpens, List.flatMap_map,
    List.flatMap_append, String.toList_join, List.flatMap_map, List.flatMap_map, List.append_assoc,
    List.append_assoc]
  rw [List.flatMap_cons, List.flatMap_cons, List.flatMap_singleton]
  refine congrArg₂ (· ++ ·) ?_ rfl
  apply List.flatMap_congr
  rintro ⟨bucket, i⟩ among
  exact bucketLine unbroken bucketOpens (bucketLabels_simple bucket (List.fst_mem_of_mem_zipIdx among)) _

/-- The lines before those of the hosts, with their texts. -/
def totalLines (totals : Total -> Nat) : List (String × Line) :=
  [("# HELP lkrequest_requests_total Total number of HTTP requests.\n",
      .comment " HELP lkrequest_requests_total Total number of HTTP requests.".toList),
    ("# TYPE lkrequest_requests_total counter\n", .comment " TYPE lkrequest_requests_total counter".toList),
    ("lkrequest_requests_total " ++ (totals .requests).repr ++ "\n",
      .sample (sampleOf "lkrequest_requests_total" [] (totals .requests).repr)),
    ("# HELP lkrequest_errors_total Total number of failed HTTP requests.\n",
      .comment " HELP lkrequest_errors_total Total number of failed HTTP requests.".toList),
    ("# TYPE lkrequest_errors_total counter\n", .comment " TYPE lkrequest_errors_total counter".toList),
    ("lkrequest_errors_total " ++ (totals .errors).repr ++ "\n",
      .sample (sampleOf "lkrequest_errors_total" [] (totals .errors).repr)),
    ("# HELP lkrequest_bytes_received_total Total bytes received across all responses.\n",
      .comment " HELP lkrequest_bytes_received_total Total bytes received across all responses.".toList),
    ("# TYPE lkrequest_bytes_received_total counter\n",
      .comment " TYPE lkrequest_bytes_received_total counter".toList),
    ("lkrequest_bytes_received_total " ++ (totals .bytesReceived).repr ++ "\n",
      .sample (sampleOf "lkrequest_bytes_received_total" [] (totals .bytesReceived).repr)),
    ("# HELP lkrequest_request_duration_seconds HTTP request duration in seconds.\n",
      .comment " HELP lkrequest_request_duration_seconds HTTP request duration in seconds.".toList),
    ("# TYPE lkrequest_request_duration_seconds histogram\n",
      .comment " TYPE lkrequest_request_duration_seconds histogram".toList)]

theorem totalLines_print (totals : Total -> Nat) :
    ∀ line ∈ totalLines totals, line.1.toList = line.2.print ++ ['\n'] := by
  have requests := @totalLine "lkrequest_requests_total " "lkrequest_requests_total"
    (by rw [String.toList_ofList, String.toList_ofList]; rfl) (totals .requests).repr
  have errors := @totalLine "lkrequest_errors_total " "lkrequest_errors_total"
    (by rw [String.toList_ofList, String.toList_ofList]; rfl) (totals .errors).repr
  have bytes := @totalLine "lkrequest_bytes_received_total " "lkrequest_bytes_received_total"
    (by rw [String.toList_ofList, String.toList_ofList]; rfl) (totals .bytesReceived).repr
  unfold totalLines
  simp only [List.forall_mem_cons]
  refine ⟨?_, ?_, requests, ?_, ?_, errors, ?_, ?_, bytes, ?_, ?_, fun _ among => nomatch among⟩
  all_goals
    dsimp only [Line.print]
    rw [String.toList_ofList, String.toList_ofList]
    rfl

/-- The text before the hosts is its lines. -/
theorem prometheusText_poisoned (totals : Total -> Nat) :
    (prometheusText shortest totals none).toList =
      unlines ((totalLines totals).map (fun line => line.2.print)) := by
  have text : prometheusText shortest totals none = String.join ((totalLines totals).map Prod.fst) := by
    unfold prometheusText totalLines String.join
    simp only [List.map_cons, List.map_nil, List.foldl_cons, List.foldl_nil, String.empty_append]
  rw [text, String.toList_join, List.flatMap_map]
  unfold unlines
  rw [List.flatMap_map]
  exact List.flatMap_congr (totalLines_print totals)

theorem prometheusText_toList (totals : Total -> Nat) {order : List (String × HostMetrics (BitVec 64))}
    (unbroken : ∀ entry ∈ order, '\n' ∉ entry.1.toList) :
    (prometheusText shortest totals (some order)).toList =
      unlines (((totalLines totals).map Prod.snd ++ (order.flatMap (fun entry =>
        hostSamples shortest entry.1 entry.2)).map Line.sample).map Line.print) := by
  have text : prometheusText shortest totals (some order) = prometheusText shortest totals none ++
      String.join (order.map (fun (host, metrics) => hostText shortest host metrics)) := rfl
  have hosts : (String.join (order.map (fun (host, metrics) => hostText shortest host metrics))).toList =
      unlines (((order.flatMap (fun entry =>
        hostSamples shortest entry.1 entry.2)).map Line.sample).map Line.print) := by
    rw [String.toList_join, List.flatMap_map, List.map_map, List.map_flatMap]
    unfold unlines
    rw [List.flatMap_assoc]
    apply List.flatMap_congr
    intro entry among
    exact hostText_toList shortest (unbroken entry among) entry.2
  rw [text, String.toList_append, hosts, prometheusText_poisoned, List.map_append, List.map_map (l := totalLines totals)]
  exact (List.flatMap_append).symm

theorem sampleOf_printable {name value : String} {labels : List (String × String)}
    (named : Exposition.isName true name.toList = true)
    (labelled : ∀ label ∈ labels, Exposition.isName false label.1.toList = true)
    (plain : ∀ char ∈ value.toList, isPlain char = true) (filled : value.toList ≠ []) :
    Printable (sampleOf name labels value) where
  name := named
  labels := by
    intro label among
    rcases List.mem_map.mp among with ⟨origin, among', rfl⟩
    exact labelled origin among'
  filled := filled
  solid := by
    intro char among
    have own := plain char among
    unfold isPlain at own
    simp only [Bool.and_eq_true, Bool.not_eq_true'] at own
    exact own.1.1
  unbraced := by
    intro char first
    have own := plain char (List.mem_of_mem_head? first)
    unfold isPlain at own
    simp only [Bool.and_eq_true, bne_iff_ne] at own
    exact own.2
  unbroken := fun broken => absurd (plain '\n' broken) (by decide)
  unstamped := rfl

theorem hostSamples_printable (host : String) (metrics : HostMetrics (BitVec 64)) :
    ∀ sample ∈ hostSamples shortest host metrics, Printable sample := by
  have bucketNamed : Exposition.isName true bucketName.toList = true := by
    unfold bucketName
    rw [String.toList_ofList]
    decide
  have sumNamed : Exposition.isName true sumName.toList = true := by
    unfold sumName
    rw [String.toList_ofList]
    decide
  have countNamed : Exposition.isName true countName.toList = true := by
    unfold countName
    rw [String.toList_ofList]
    decide
  have hostLabelled : Exposition.isName false "host".toList = true := by decide
  have leLabelled : Exposition.isName false "le".toList = true := by decide
  have bucket : forall le count, Printable (bucketSample host le count) := by
    intro le count
    refine sampleOf_printable bucketNamed ?_ (repr_plain count) (repr_filled count)
    exact List.forall_mem_cons.mpr ⟨hostLabelled, List.forall_mem_singleton.mpr leLabelled⟩
  have other : forall name value : String, Exposition.isName true name.toList = true ->
      (∀ char ∈ value.toList, isPlain char = true) -> value.toList ≠ [] ->
        Printable (sampleOf name [("host", host)] value) :=
    fun _ _ named plain filled =>
      sampleOf_printable named (List.forall_mem_singleton.mpr hostLabelled) plain filled
  intro sample among
  rcases List.mem_append.mp among with finite | last
  · rcases List.mem_map.mp finite with ⟨⟨le, i⟩, _, rfl⟩
    exact bucket le _
  · simp only [List.mem_cons, List.not_mem_nil, or_false] at last
    rcases last with rfl | rfl | rfl
    · exact bucket "+Inf" _
    · exact other _ _ sumNamed (displayF64_plain shortest _) (displayF64_filled shortest _)
    · exact other _ _ countNamed (repr_plain _) (repr_filled _)

theorem totalLines_printable (totals : Total -> Nat) :
    ∀ line ∈ (totalLines totals).map Prod.snd, line.Printable := by
  have total : forall (name : String) (value : Nat), Exposition.isName true name.toList = true ->
      Printable (sampleOf name [] value.repr) :=
    fun _ value named => sampleOf_printable named (List.forall_mem_nil _) (repr_plain value) (repr_filled value)
  have requests := total "lkrequest_requests_total" (totals .requests) (by rw [String.toList_ofList]; decide)
  have errors := total "lkrequest_errors_total" (totals .errors) (by rw [String.toList_ofList]; decide)
  have bytes := total "lkrequest_bytes_received_total" (totals .bytesReceived)
    (by rw [String.toList_ofList]; decide)
  unfold totalLines
  simp only [List.map_cons, List.map_nil, List.forall_mem_cons]
  refine ⟨?_, ?_, requests, ?_, ?_, errors, ?_, ?_, bytes, ?_, ?_, List.forall_mem_nil _⟩
  all_goals
    dsimp only [Line.Printable]
    rw [String.toList_ofList]
    decide

/-- The text is read as the samples it was printed from. -/
theorem readText_prometheusText (totals : Total -> Nat) {order : List (String × HostMetrics (BitVec 64))}
    (unbroken : ∀ entry ∈ order, '\n' ∉ entry.1.toList) :
    readText (prometheusText shortest totals (some order)).toList =
      some (totalSamples totals ++ order.flatMap (fun entry => hostSamples shortest entry.1 entry.2)) := by
  rw [prometheusText_toList shortest totals unbroken, Exposition.readText_unlines]
  · have all : ((order.flatMap (fun entry => hostSamples shortest entry.1 entry.2)).map
        Line.sample).filterMap Line.sample? =
          order.flatMap (fun entry => hostSamples shortest entry.1 entry.2) := by
      rw [List.filterMap_map]
      exact List.filterMap_some
    rw [List.filterMap_append, all]
    rfl
  · intro line among
    rcases List.mem_append.mp among with total | host
    · exact totalLines_printable totals line total
    · rcases List.mem_map.mp host with ⟨sample, among', rfl⟩
      rcases List.mem_flatMap.mp among' with ⟨entry, _, own⟩
      exact hostSamples_printable shortest entry.1 entry.2 sample own

end Printed

/-! ## Reading back -/

def readNumber (text : Text) : Option Nat :=
  if text.isEmpty || !text.all Char.isDigit then none else some (Nat.ofDigitChars 10 text 0)

/-- The series of a name that are labelled with a host. -/
def seriesOf (samples : List Sample) (name host : String) : List Sample :=
  samples.filter (fun sample =>
    decide (sample.name = name.toList ∧ sample.labels.lookup "host".toList = some host.toList))

/-- The count of a bucket, with its label. -/
def readBucket (sample : Sample) : Option (String × Nat) := do
  let le <- sample.labels.lookup "le".toList
  let count <- readNumber sample.value
  some (String.ofList le, count)

/-- The only one of a list. -/
def only {Item : Type} : List Item -> Option Item
  | [item] => some item
  | _ => none

/-- What the text says of a host. -/
structure HostReading where
  buckets : List (String × Nat)
  infinity : Nat
  sum : String
  count : Nat
deriving DecidableEq

def readHost (samples : List Sample) (host : String) : Option HostReading := do
  let buckets <- (seriesOf samples bucketName host).mapM readBucket
  let infinity <- only (buckets.filter (fun bucket => bucket.1 = "+Inf"))
  let sum <- only (seriesOf samples sumName host)
  let countSample <- only (seriesOf samples countName host)
  let count <- readNumber countSample.value
  some ⟨buckets.filter (fun bucket => bucket.1 ≠ "+Inf"), infinity.2, String.ofList sum.value, count⟩

/-- What is known of a host. -/
def HostReading.expected (shortest : BitVec 64 -> Decimal) (metrics : HostMetrics (BitVec 64)) :
    HostReading where
  buckets := bucketLabels.zipIdx.map (fun (bucket, i) => (bucket, metrics.counters (.histogram i)))
  infinity := metrics.counters .requests
  sum := displayF64 shortest metrics.histogramSum
  count := metrics.counters .requests

/-- A map of hosts in one of its iteration orders: each host comes once. -/
structure Iterates (map : String -> Option (HostMetrics (BitVec 64)))
    (order : List (String × HostMetrics (BitVec 64))) : Prop where
  distinct : (order.map Prod.fst).Nodup
  entries : forall host metrics, (host, metrics) ∈ order <-> map host = some metrics

section ReadBack

variable {shortest : BitVec 64 -> Decimal} {map : String -> Option (HostMetrics (BitVec 64))}
  {order : List (String × HostMetrics (BitVec 64))} (totals : Total -> Nat)

theorem readNumber_repr (number : Nat) : readNumber number.repr.toList = some number := by
  have filled : number.repr.toList.isEmpty = false := List.isEmpty_eq_false_iff.mpr (repr_filled number)
  have digits : number.repr.toList.all Char.isDigit = true := by
    rw [List.all_eq_true, Nat.toList_repr]
    exact fun _ among => Nat.isDigit_of_mem_toDigits (by decide) (by decide) among
  unfold readNumber
  rw [filled, digits, Nat.toList_repr]
  exact congrArg some Nat.ofDigitChars_ten_toDigits

theorem label_host (name host value : String) (others : List (String × String)) :
    (sampleOf name (("host", host) :: others) value).labels.lookup "host".toList = some host.toList := by
  unfold sampleOf
  rw [List.map_cons, List.lookup_cons_self]

theorem hostSamples_label {host : String} {metrics : HostMetrics (BitVec 64)} :
    ∀ sample ∈ hostSamples shortest host metrics,
      sample.labels.lookup "host".toList = some host.toList := by
  intro sample among
  rcases List.mem_append.mp among with finite | last
  · rcases List.mem_map.mp finite with ⟨⟨le, i⟩, _, rfl⟩
    exact label_host _ _ _ _
  · simp only [List.mem_cons, List.not_mem_nil, or_false] at last
    rcases last with rfl | rfl | rfl <;> exact label_host _ _ _ _

/-- Where a host comes once and only its entry gives anything, all that is given is of its entry. -/
theorem flatMap_own {Item : Type} {give : String × HostMetrics (BitVec 64) -> List Item}
    {host : String} {metrics : HostMetrics (BitVec 64)} (distinct : (order.map Prod.fst).Nodup)
    (among : (host, metrics) ∈ order) (foreign : ∀ entry ∈ order, entry.1 ≠ host -> give entry = []) :
    order.flatMap give = give (host, metrics) := by
  rcases List.append_of_mem among with ⟨before, after, rfl⟩
  rw [List.map_append, List.map_cons, List.nodup_middle, List.nodup_cons] at distinct
  have others : ∀ entry ∈ before ++ after, entry.1 ≠ host := by
    intro entry own same
    apply distinct.1
    rw [← List.map_append]
    exact List.mem_map.mpr ⟨entry, own, same⟩
  have nothing : forall part : List (String × HostMetrics (BitVec 64)), (∀ entry ∈ part, entry ∈ before ++ after) ->
      part.flatMap give = [] := by
    intro part within
    apply List.flatMap_eq_nil_iff.mpr
    intro entry own
    refine foreign entry ?_ (others entry (within entry own))
    rcases List.mem_append.mp (within entry own) with early | late
    · exact List.mem_append_left _ early
    · exact List.mem_append_right _ (List.mem_cons_of_mem _ late)
  rw [List.flatMap_append, List.flatMap_cons, nothing before (fun _ own => List.mem_append_left _ own),
    nothing after (fun _ own => List.mem_append_right _ own), List.nil_append, List.append_nil]

/-- Of what is printed, only the lines of a host are its series. -/
theorem seriesOf_samples (iterates : Iterates map order) (name host : String) :
    seriesOf (totalSamples totals ++ order.flatMap (fun entry => hostSamples shortest entry.1 entry.2))
        name host =
      match map host with
      | some metrics => seriesOf (hostSamples shortest host metrics) name host
      | none => [] := by
  have unlabelled : seriesOf (totalSamples totals) name host = [] := by
    apply List.filter_eq_nil_iff.mpr
    intro sample among
    have bare : sample.labels = [] := by
      unfold totalSamples at among
      simp only [List.mem_cons, List.not_mem_nil, or_false] at among
      rcases among with rfl | rfl | rfl <;> rfl
    rw [bare]
    exact fun labelled => nomatch (of_decide_eq_true labelled).2
  have foreign : ∀ entry ∈ order, entry.1 ≠ host ->
      seriesOf (hostSamples shortest entry.1 entry.2) name host = [] := by
    intro entry _ differ
    apply List.filter_eq_nil_iff.mpr
    intro sample among labelled
    have own := hostSamples_label sample among
    rw [(of_decide_eq_true labelled).2] at own
    exact differ (String.toList_inj.mp (Option.some.inj own)).symm
  unfold seriesOf at unlabelled foreign ⊢
  rw [List.filter_append, unlabelled, List.nil_append, List.filter_flatMap]
  cases known : map host with
  | some metrics =>
      exact flatMap_own iterates.distinct ((iterates.entries host metrics).mpr known) foreign
  | none =>
      apply List.flatMap_eq_nil_iff.mpr
      rintro ⟨other, metrics⟩ among
      apply foreign _ among
      rintro rfl
      exact (nomatch ((iterates.entries other metrics).mp among).symm.trans known)

theorem names_distinct : bucketName.toList ≠ sumName.toList ∧ bucketName.toList ≠ countName.toList ∧
    sumName.toList ≠ countName.toList := by
  unfold bucketName sumName countName
  rw [String.toList_ofList, String.toList_ofList, String.toList_ofList]
  decide

/-- The buckets of a host with their labels, the last one of them without a bound. -/
def bucketCounts (metrics : HostMetrics (BitVec 64)) : List (String × Nat) :=
  bucketLabels.zipIdx.map (fun (bucket, i) => (bucket, metrics.counters (.histogram i))) ++
    [("+Inf", metrics.counters .requests)]

theorem bucketCounts_labels (metrics : HostMetrics (BitVec 64)) :
    (bucketCounts metrics).map Prod.fst = bucketLabels ++ ["+Inf"] := by
  unfold bucketCounts
  rw [List.map_append, List.map_map]
  exact congrArg (· ++ ["+Inf"]) (List.zipIdx_map_fst 0 bucketLabels)

/-- Whether a sample is kept depends on its name alone, for a sample of the host. -/
theorem seriesOf_own {samples : List Sample} {host : String}
    (own : ∀ sample ∈ samples, sample.labels.lookup "host".toList = some host.toList) (name : String) :
    seriesOf samples name host = samples.filter (fun sample => decide (sample.name = name.toList)) := by
  apply List.filter_congr
  intro sample among
  rw [own sample among]
  exact decide_eq_decide.mpr (and_iff_left rfl)

theorem hostSamples_eq (host : String) (metrics : HostMetrics (BitVec 64)) :
    hostSamples shortest host metrics =
      (bucketCounts metrics).map (fun bucket => bucketSample host bucket.1 bucket.2) ++
        [sampleOf sumName [("host", host)] (displayF64 shortest metrics.histogramSum),
          sampleOf countName [("host", host)] (metrics.counters .requests).repr] := by
  unfold hostSamples bucketCounts
  rw [List.map_append, List.map_map, List.append_assoc]
  rfl

/-- The series of a name: the buckets, the sum, or the count. -/
theorem seriesOf_hostSamples (host : String) (metrics : HostMetrics (BitVec 64)) (name : String) :
    seriesOf (hostSamples shortest host metrics) name host =
      (if bucketName.toList = name.toList then
        (bucketCounts metrics).map (fun bucket => bucketSample host bucket.1 bucket.2) else []) ++
      ((if sumName.toList = name.toList then
        [sampleOf sumName [("host", host)] (displayF64 shortest metrics.histogramSum)] else []) ++
      (if countName.toList = name.toList then
        [sampleOf countName [("host", host)] (metrics.counters .requests).repr] else [])) := by
  have buckets : ∀ sample ∈ (bucketCounts metrics).map (fun bucket => bucketSample host bucket.1 bucket.2),
      sample.name = bucketName.toList := by
    intro sample among
    rcases List.mem_map.mp among with ⟨bucket, _, rfl⟩
    rfl
  have one : forall sample : Sample, [sample].filter (fun sample => decide (sample.name = name.toList)) =
      if sample.name = name.toList then [sample] else [] := by
    intro sample
    by_cases named : sample.name = name.toList
    · rw [if_pos named]
      exact List.filter_cons_of_pos (decide_eq_true named)
    · rw [if_neg named]
      exact List.filter_cons_of_neg (fun same => named (of_decide_eq_true same))
  rw [seriesOf_own hostSamples_label, hostSamples_eq, List.filter_append, ← List.singleton_append,
    List.filter_append, one, one]
  refine congrArg₂ (· ++ ·) ?_ rfl
  by_cases named : bucketName.toList = name.toList
  · rw [if_pos named, List.filter_eq_self.mpr]
    exact fun sample among => decide_eq_true ((buckets sample among).trans named)
  · rw [if_neg named, List.filter_eq_nil_iff.mpr]
    exact fun sample among same => named ((buckets sample among).symm.trans (of_decide_eq_true same))

theorem buckets_own (host : String) (metrics : HostMetrics (BitVec 64)) :
    seriesOf (hostSamples shortest host metrics) bucketName host =
      (bucketCounts metrics).map (fun bucket => bucketSample host bucket.1 bucket.2) := by
  rcases names_distinct with ⟨sum, count, _⟩
  rw [seriesOf_hostSamples, if_pos rfl, if_neg sum.symm, if_neg count.symm, List.append_nil, List.append_nil]

theorem sum_own (host : String) (metrics : HostMetrics (BitVec 64)) :
    seriesOf (hostSamples shortest host metrics) sumName host =
      [sampleOf sumName [("host", host)] (displayF64 shortest metrics.histogramSum)] := by
  rcases names_distinct with ⟨sum, _, count⟩
  rw [seriesOf_hostSamples, if_neg sum, if_pos rfl, if_neg count.symm, List.append_nil, List.nil_append]

theorem count_own (host : String) (metrics : HostMetrics (BitVec 64)) :
    seriesOf (hostSamples shortest host metrics) countName host =
      [sampleOf countName [("host", host)] (metrics.counters .requests).repr] := by
  rcases names_distinct with ⟨_, count, sum⟩
  rw [seriesOf_hostSamples, if_neg count, if_neg sum, if_pos rfl, List.nil_append, List.nil_append]

theorem label_le (host le : String) (count : Nat) :
    (bucketSample host le count).labels.lookup "le".toList = some le.toList := by
  have differ : ("le".toList == "host".toList) = false := by decide
  unfold bucketSample sampleOf
  rw [List.map_cons, List.map_cons, List.lookup_cons, differ]
  exact List.lookup_cons_self

theorem readBucket_sample (host le : String) (count : Nat) :
    readBucket (bucketSample host le count) = some (le, count) := by
  have value : (bucketSample host le count).value = count.repr.toList := rfl
  unfold readBucket
  rw [label_le, value, readNumber_repr]
  exact congrArg (fun label => some (label, count)) String.ofList_toList

theorem readBuckets (host : String) (counts : List (String × Nat)) :
    (counts.map (fun bucket => bucketSample host bucket.1 bucket.2)).mapM readBucket = some counts := by
  induction counts with
  | nil => rfl
  | cons bucket rest ih =>
      rw [List.map_cons, List.mapM_cons, readBucket_sample, ih]
      rfl

theorem bucketLabels_distinct : (bucketLabels ++ ["+Inf"]).Nodup := by decide

/-- The series of a host and a bound that are in the text. -/
def seriesOfBucket (samples : List Sample) (host le : String) : List Sample :=
  (seriesOf samples bucketName host).filter (fun sample =>
    decide (sample.labels.lookup "le".toList = some le.toList))

/-- What a text says, of the hosts of a map. -/
structure ReadsBack (shortest : BitVec 64 -> Decimal) (map : String -> Option (HostMetrics (BitVec 64)))
    (samples : List Sample) : Prop where
  hosts : forall host, readHost samples host = (map host).map (HostReading.expected shortest)
  series : forall host le, (seriesOfBucket samples host le).length =
    if (map host).isSome ∧ le ∈ bucketLabels ++ ["+Inf"] then 1 else 0

theorem seriesOfBucket_own (host le : String) (counts : List (String × Nat))
    (distinct : (counts.map Prod.fst).Nodup) :
    ((counts.map (fun bucket => bucketSample host bucket.1 bucket.2)).filter (fun sample =>
      decide (sample.labels.lookup "le".toList = some le.toList))).length =
        if le ∈ counts.map Prod.fst then 1 else 0 := by
  have labelled : ((counts.map (fun bucket => bucketSample host bucket.1 bucket.2)).filter (fun sample =>
      decide (sample.labels.lookup "le".toList = some le.toList))).length =
        (counts.map Prod.fst).count le := by
    rw [← List.countP_eq_length_filter, List.countP_map, List.count, List.countP_map]
    apply List.countP_congr
    intro bucket _
    dsimp only [Function.comp]
    rw [label_le, decide_eq_true_iff, beq_iff_eq, Option.some_inj, String.toList_inj]
  rw [labelled]
  split
  · exact List.count_eq_one_of_mem distinct ‹_›
  · exact List.count_eq_zero_of_not_mem ‹_›

/-- No bound is printed as the last bucket is. -/
theorem bounds_finite (metrics : HostMetrics (BitVec 64)) :
    ∀ bucket ∈ (HostReading.expected shortest metrics).buckets, bucket.1 ≠ "+Inf" := by
  intro bucket among same
  rcases List.mem_map.mp among with ⟨⟨le, i⟩, listed, rfl⟩
  have bound : le ∈ bucketLabels := List.fst_mem_of_mem_zipIdx listed
  have last : le = "+Inf" := same
  exact absurd (last ▸ bound) (by decide)

theorem readHost_samples (iterates : Iterates map order) (host : String) :
    readHost (totalSamples totals ++
        order.flatMap (fun entry => hostSamples shortest entry.1 entry.2)) host =
      (map host).map (HostReading.expected shortest) := by
  have series := fun name => @seriesOf_samples shortest map order totals iterates name host
  unfold readHost
  rw [series, series, series]
  cases map host with
  | none => rfl
  | some metrics =>
      have counts : bucketCounts metrics = (HostReading.expected shortest metrics).buckets ++
          [("+Inf", metrics.counters .requests)] := rfl
      have bounded : (bucketCounts metrics).filter (fun bucket => bucket.1 = "+Inf") =
          [("+Inf", metrics.counters .requests)] := by
        rw [counts, List.filter_append, List.filter_eq_nil_iff.mpr, List.nil_append]
        · exact List.filter_cons_of_pos rfl
        · exact fun bucket among same => bounds_finite metrics bucket among (of_decide_eq_true same)
      have finite : (bucketCounts metrics).filter (fun bucket => bucket.1 ≠ "+Inf") =
          (HostReading.expected shortest metrics).buckets := by
        rw [counts, List.filter_append, List.filter_eq_self.mpr]
        · exact List.append_nil _
        · exact fun bucket among => decide_eq_true (bounds_finite metrics bucket among)
      have count : (sampleOf countName [("host", host)] (metrics.counters .requests).repr).value =
          (metrics.counters .requests).repr.toList := rfl
      have sum : (sampleOf sumName [("host", host)] (displayF64 shortest metrics.histogramSum)).value =
          (displayF64 shortest metrics.histogramSum).toList := rfl
      dsimp only
      rw [buckets_own, sum_own, count_own, readBuckets]
      dsimp only [bind, Option.bind]
      rw [bounded, finite]
      dsimp only [only]
      rw [count, sum, readNumber_repr, String.ofList_toList]
      rfl

theorem hostSamples_length (host : String) (metrics : HostMetrics (BitVec 64)) :
    (hostSamples shortest host metrics).length = 13 := by
  rw [hostSamples_eq, List.length_append, List.length_map, ← List.length_map (f := Prod.fst),
    bucketCounts_labels]
  rfl

/-- The text is read back for every map of hosts and every order in which it is
printed: for each host what is known of it, one series for each host and bound,
and thirteen lines for each host. -/
theorem exposition_reads_back (shortest : BitVec 64 -> Decimal) (totals : Total -> Nat)
    (iterates : Iterates map order) (unbroken : forall host, (map host).isSome -> '\n' ∉ host.toList) :
    ∃ samples, readText (prometheusText shortest totals (some order)).toList = some samples ∧
      ReadsBack shortest map samples ∧ samples.length = 3 + 13 * order.length := by
  have plain : ∀ entry ∈ order, '\n' ∉ entry.1.toList := by
    rintro ⟨host, metrics⟩ among
    exact unbroken host (Option.isSome_of_mem ((iterates.entries host metrics).mp among))
  refine ⟨_, readText_prometheusText shortest totals plain, ⟨readHost_samples totals iterates, ?_⟩, ?_⟩
  · intro host le
    unfold seriesOfBucket
    rw [seriesOf_samples totals iterates]
    cases map host with
    | none => rfl
    | some metrics =>
        dsimp only
        rw [buckets_own, seriesOfBucket_own, bucketCounts_labels]
        · simp
        · rw [bucketCounts_labels]
          exact bucketLabels_distinct
  · have sizes : order.map (fun entry => (hostSamples shortest entry.1 entry.2).length) =
        order.map (fun _ => 13) := List.map_congr_left (fun entry _ => hostSamples_length entry.1 entry.2)
    rw [List.length_append, List.length_flatMap, sizes, List.map_const', List.sum_replicate_nat,
      Nat.mul_comm]
    rfl

end ReadBack

/-- A host with a quote and one with a backslash in its name. -/
def oddHosts : List (String × HostMetrics (BitVec 64)) :=
  [("a\"b", ⟨fun _ => 7, 0x3FE0000000000000⟩), ("a\\", ⟨fun _ => 12, 0⟩)]

def oddMap (host : String) : Option (HostMetrics (BitVec 64)) :=
  if host = "a\"b" then some ⟨fun _ => 7, 0x3FE0000000000000⟩
  else if host = "a\\" then some ⟨fun _ => 12, 0⟩
  else none

theorem odd_hosts_read_back :
    ∃ samples, readText (prometheusText (fun _ => ⟨[5], 0⟩) (fun _ => 19) (some oddHosts)).toList =
        some samples ∧ ReadsBack (fun _ => ⟨[5], 0⟩) oddMap samples ∧ samples.length = 3 + 13 * 2 := by
  have differ : "a\\" ≠ "a\"b" := by decide
  have iterates : Iterates oddMap oddHosts := by
    refine ⟨by decide, ?_⟩
    intro host metrics
    unfold oddMap oddHosts
    rw [List.mem_cons, List.mem_singleton, Prod.mk_inj, Prod.mk_inj]
    split
    · rename_i same
      simp [same, Ne.symm differ, eq_comm]
    · rename_i other
      split
      · rename_i same
        simp [same, differ, eq_comm]
      · rename_i other'
        simp [other, other']
  apply exposition_reads_back (fun _ => ⟨[5], 0⟩) (fun _ => 19) iterates
  intro host known
  unfold oddMap at known
  split at known
  · rename_i same
    rw [same]
    decide
  · split at known
    · rename_i same
      rw [same]
      decide
    · exact (nomatch known)

/-- What is printed of a host is what `prometheus_text` reads of it. -/
theorem hostText_of_reads (shortest : BitVec 64 -> Decimal) {host : String} {id : HostId}
    {first second : State (BitVec 64)}
    (agree : ∀ location ∈ Scrape.prometheusText.hostReads host id, first.read location = second.read location) :
    hostText shortest host (first.hosts id) = hostText shortest host (second.hosts id) := by
  have finite : forall bucket, bucket < histogramBuckets.length ->
      (first.hosts id).counters (.histogram bucket) = (second.hosts id).counters (.histogram bucket) := by
    intro bucket within
    have read := agree (.counter host id (.histogram bucket)) (List.mem_append_left _
      (List.mem_map.mpr ⟨bucket, List.mem_range.mpr within, rfl⟩))
    exact Value.count.inj read
  have requests : (first.hosts id).counters .requests = (second.hosts id).counters .requests :=
    Value.count.inj (agree (.counter host id .requests) (List.mem_append_right _ List.mem_cons_self))
  have sum : (first.hosts id).histogramSum = (second.hosts id).histogramSum :=
    Value.seconds.inj (agree (.sum host id) (List.mem_append_right _
      (List.mem_cons_of_mem _ List.mem_cons_self)))
  have sized : bucketLabels.length = histogramBuckets.length := by decide
  unfold hostText
  rw [requests, sum]
  dsimp only
  refine congrArg (fun buckets => String.join buckets ++ _ ++ _ ++ _) ?_
  apply List.map_congr_left
  rintro ⟨bucket, i⟩ among
  have within : i < bucketLabels.length := by simpa using List.snd_lt_of_mem_zipIdx among
  dsimp only
  rw [finite i (sized ▸ within)]

end Metrics
end Lkrequest
