import Pagewalk.Charset.Decoder
import Pagewalk.Charset.Label
import Pagewalk.Error
import Pagewalk.Log

/-!
# The text of a body

A byte order mark decides the encoding alone and is left out of the text. Otherwise the labels of the page, of the
media type and of the declaration are tried in this order, and the first that selects an encoding decides; without
one the body is read as UTF-8 and nothing is said about what cannot be read. A label that selects nothing is
passed over with a warning, or ends a strict reading.
-/

namespace Pagewalk.Charset

open Text

/-- The labels that speak for a body, in the order in which they are tried. -/
def labels (body : List UInt8) (mediaType : String) (declared : Option String) : List String :=
  [labelInPage? body, labelInMediaType? mediaType, declared].filterMap id

/-- The record about a label that is passed over. -/
def ignoredLabel (label : String) : Log.Record :=
  ⟨.warn, .charset, "ignoring unsupported charset label `" ++ label ++ "`"⟩

/-- The record about a body of which a part could not be read. -/
def malformedBody (e : Encoding) : Log.Record :=
  ⟨.debug, .charset, "body contained malformed " ++ e.name ++ " sequences"⟩

/-- The first encoding that the labels select, with the records about those before it. -/
def choose (strict : Bool) : List String → List Log.Record × Except Error (Option Encoding)
  | [] => ([], .ok none)
  | label :: rest =>
    match Encoding.ofLabel? (trim label) with
    | some e => ([], .ok (some e))
    | none =>
      if strict then ([], .error (.unknownCharset label))
      else
        let (records, chosen) := choose strict rest
        (ignoredLabel label :: records, chosen)

/-- The text of a body, with the records about its reading. -/
def decodeBody (body : List UInt8) (mediaType : String) (declared : Option String) (strict : Bool) :
    List Log.Record × Except Error String :=
  match Encoding.ofMark? body with
  | some (e, rest) => ([], .ok (e.decode rest).1)
  | none =>
    match choose strict (labels body mediaType declared) with
    | (records, .error e) => (records, .error e)
    | (records, .ok none) => (records, .ok (Utf8.lossy body))
    | (records, .ok (some e)) =>
      let (text, malformed) := e.decode body
      (if malformed then records ++ [malformedBody e] else records, .ok text)

end Pagewalk.Charset
