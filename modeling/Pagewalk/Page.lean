import Pagewalk.Charset.Body
import Pagewalk.Document.OfDraft
import Pagewalk.Source.Pairing

/-!
# Reading pages

A page is read from text or from bytes. A source above the limit is refused before anything else; a strict reading
refuses markup with faults. What is read is a document whose elements know where their tags stand.
-/

namespace Pagewalk

/-- How pages are read. -/
structure PageConfig where
  maxBytes : Nat := 16777216
  /-- Faults of markup and labels that select no encoding are refused. -/
  strict : Bool := false
  deriving DecidableEq, Repr, Inhabited

namespace PageConfig

/-- The greatest limit that may be set. -/
def ceiling : Nat := 268435456

/-- The configuration, if its limit is allowed. -/
def checked (c : PageConfig) : Except Error PageConfig :=
  if c.maxBytes = 0 then .error (.limit .documentZero)
  else if c.maxBytes > ceiling then .error (.limit (.documentCeiling ceiling))
  else .ok c

end PageConfig

/-- A result with the records written on the way to it. -/
abbrev Logged (α : Type) := List Log.Record × Except Error α

namespace Document

/-- The record about a page that was read. -/
def readRecord (source : String) (d : Document) (located : Nat) : Log.Record :=
  ⟨.debug, .document, "parsed " ++ toString (Text.Utf8.size source) ++ " bytes into " ++ toString d.elementCount ++
    " elements (" ++ toString located ++ " located)"⟩

/-- Reads a page from text. -/
def parse (config : PageConfig) (source : String) : Logged Document :=
  let size := Text.Utf8.size source
  if size > config.maxBytes then ([], .error (.documentTooLarge size config.maxBytes))
  else
    let d := ofText source
    match d.faults with
    | first :: _ =>
      if config.strict then ([], .error (.malformedMarkup first.text d.faults.length)) else finish d
    | [] => finish d
where
  finish (d : Document) : Logged Document :=
    let rows := Source.locate source d
    ([readRecord source d rows.length], .ok (d.withLocations rows))

/-- Reads a page from bytes. -/
def parseBytes (config : PageConfig) (body : List UInt8) (mediaType : String) (charset : Option String) :
    Logged Document :=
  let size := body.length
  if size > config.maxBytes then ([], .error (.documentTooLarge size config.maxBytes))
  else
    match Charset.decodeBody body mediaType charset config.strict with
    | (records, .error e) => (records, .error e)
    | (records, .ok text) =>
      let (more, result) := parse config text
      (records ++ more, result)

end Document

end Pagewalk
