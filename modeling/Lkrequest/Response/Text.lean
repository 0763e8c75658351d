import Lkrequest.Python
import Mathlib.Data.List.DropRight

namespace Lkrequest
namespace Response

/-!
# Decoding a body

A charset of a header is looked up in the WHATWG table, and falls back to UTF-8.
A codec that the caller names is looked up by Python, and may be unknown.  Both
tables are parameters.
-/

abbrev Bytes := List UInt8

abbrev HeaderList := List (String × String)

/-- What the code uses of `encoding_rs` and of Python's codecs. -/
structure Codecs (Encoding : Type) where
  /-- `encoding_rs::UTF_8`. -/
  utf8 : Encoding
  /-- `Encoding::for_label`. -/
  forLabel : String -> Option Encoding
  /-- `Encoding::decode`, the text of it. -/
  decode : Encoding -> Bytes -> String
  /-- `bytes.decode(codec, "replace")`. -/
  pyDecode : Bytes -> String -> Except PyErr PyStr

/-! ## The charset of a header -/

/-- `char::is_whitespace`. -/
def isWhitespace (char : Char) : Bool :=
  let point := char.toNat
  (9 ≤ point && point ≤ 13) || point == 0x20 || point == 0x85 || point == 0xa0 || point == 0x1680 ||
    (0x2000 ≤ point && point ≤ 0x200a) || point == 0x2028 || point == 0x2029 || point == 0x202f ||
    point == 0x205f || point == 0x3000

/-- `str::trim_matches`. -/
def trimMatches (matches? : Char -> Bool) (text : List Char) : List Char :=
  (text.dropWhile matches?).rdropWhile matches?

/-- `str::trim`. -/
def trim (text : List Char) : List Char := trimMatches isWhitespace text

def eqIgnoreAsciiCase (first second : String) : Bool :=
  first.toList.map Char.toLower == second.toList.map Char.toLower

/-- The charset of one part of a `Content-Type`. -/
def charsetOf (part : List Char) : Option String :=
  ((trim part).dropPrefix? "charset=".toList).map
    (fun charset => String.ofList (trim (trimMatches (· == '"') charset)))

/-- The first charset of the `Content-Type` headers. -/
def parseEncoding (headers : HeaderList) : Option String :=
  headers.findSome? (fun header =>
    if eqIgnoreAsciiCase header.1 "content-type" then (header.2.toList.splitOn ';').findSome? charsetOf
    else none)

/-! ## The text of a body -/

section Decoding

variable {Encoding : Type} (codecs : Codecs Encoding)

def encodingForLabel (label : String) : Option Encoding := codecs.forLabel label

def decodeBody (encoding : Encoding) (body : Bytes) : String := codecs.decode encoding body

def declaredDecoder (declared : Option String) : Encoding :=
  (declared.bind (encodingForLabel codecs)).getD codecs.utf8

def decodeWithCodec (body : Bytes) (codec : String) : Except PyErr PyStr := codecs.pyDecode body codec

def decodeText (body : Bytes) (declared encoding : Option String) : Except PyErr PyStr :=
  match encoding with
  | some codec => decodeWithCodec codecs body codec
  | none => .ok (PyStr.ofString (decodeBody codecs (declaredDecoder codecs declared) body))

end Decoding

example : parseEncoding [("Content-type", "text/html; charset=\" gbk\""), ("Content-Type", "charset=x")] =
    some "gbk" := by decide

/-- Codecs that know ASCII texts, and one codec by name. -/
def exampleCodecs : Codecs Unit where
  utf8 := ()
  forLabel _ := none
  decode _ body := String.ofList (body.map (fun byte => Char.ofNat byte.toNat))
  pyDecode body codec :=
    if codec = "latin-1" then .ok ⟨body.map UInt8.toNat⟩
    else .error (.lookupError ("unknown encoding: " ++ codec))

end Response
end Lkrequest
