import Pagewalk.Source.Tag

/-!
# Segments of a source

A source is cut into segments one after another: text, comments, declarations, tags, and the raw text after the
start tags of some elements. Put together, the segments are the source. The start tags among them are what
`startTags` reports, each with its name and its offset in bytes.
-/

namespace Pagewalk.Source

open Text

/-- The kinds of segments. -/
inductive SegmentKind where
  | text
  | comment
  /-- What begins with `<!` or `<?` and is no comment. -/
  | declaration
  | endTag
  | startTag (name : String) (selfClosing : Bool)
  | raw
  deriving DecidableEq, Repr

/-- A part of a source. -/
structure Segment where
  kind : SegmentKind
  chars : List Char
  deriving DecidableEq, Repr

/-- The elements whose content is no markup. -/
def rawTextNames : List String :=
  ["script", "style", "title", "textarea", "xmp", "iframe", "noembed", "noframes", "noscript"]

/-- The number of characters through the first `-->`, or of all characters. -/
def throughArrow : Nat → List Char → Nat
  | n, '-' :: '-' :: '>' :: _ => n + 3
  | n, _ :: cs => throughArrow (n + 1) cs
  | n, [] => n

/-- The number of characters of the comment whose first four are left out of `cs`. -/
def commentLength (cs : List Char) : Nat :=
  match cs with
  | '>' :: _ => 5
  | '-' :: '>' :: _ => 6
  | cs => throughArrow 4 cs

/-- The number of characters through the first `>`, or of all characters. -/
def throughClose : Nat → List Char → Nat
  | n, [] => n
  | n, c :: cs => if c == '>' then n + 1 else throughClose (n + 1) cs

/-- The rest of a text after some letters in any case. -/
def afterLetters? : List Char → List Char → Option (List Char)
  | [], cs => some cs
  | _ :: _, [] => none
  | l :: ls, c :: cs => if c.toLower == l then afterLetters? ls cs else none

/-- The end tag of a raw text begins here: its name in any case, then a blank, a slash, a `>` or the end. -/
def closesRaw (name : List Char) (cs : List Char) : Bool :=
  match cs with
  | '<' :: '/' :: cs =>
    match afterLetters? name cs with
    | none => false
    | some [] => true
    | some (c :: _) => isSpace c || c == '>' || c == '/'
  | _ => false

/-- The number of characters before the end tag of a raw text, or of all characters. -/
def rawLength (name : List Char) : Nat → List Char → Nat
  | n, [] => n
  | n, c :: cs => if closesRaw name (c :: cs) then n else rawLength name (n + 1) cs

/-- The number of characters before the next `<`, the first character apart. -/
def textLength (cs : List Char) : Nat := 1 + (cs.tail.takeWhile (· != '<')).length

/-- The kind and the length of the segment at the start of a text that is not raw. -/
def segmentAt (cs : List Char) : SegmentKind × Nat :=
  match cs with
  | '<' :: '!' :: '-' :: '-' :: rest => (.comment, commentLength rest)
  | '<' :: '!' :: rest => (.declaration, throughClose 2 rest)
  | '<' :: '?' :: rest => (.declaration, throughClose 2 rest)
  | cs =>
    match tag? cs with
    | none => (.text, textLength cs)
    | some (t, n) => (if t.isEnd then .endTag else .startTag t.name t.selfClosing, n)

/-- How much raw text follows a segment. After the tag `plaintext` all is raw; another tag that closes itself has
none after it. -/
def rawAfter (kind : SegmentKind) (rest : List Char) : Nat :=
  match kind with
  | .startTag name selfClosing =>
    if name == "plaintext" then rest.length
    else if rawTextNames.contains name && !selfClosing then rawLength name.toList 0 rest
    else 0
  | _ => 0

/-- Cuts a text into segments, after those cut before, last first; at most `fuel` cuts are made. -/
def cut : Nat → List Segment → List Char → List Segment
  | 0, acc, _ => acc.reverse
  | _ + 1, acc, [] => acc.reverse
  | fuel + 1, acc, c :: cs =>
    let (kind, n) := segmentAt (c :: cs)
    let (chars, rest) := (c :: cs).splitAt n
    let acc := ⟨kind, chars⟩ :: acc
    match rawAfter kind rest with
    | 0 => cut fuel acc rest
    | m + 1 =>
      let (chars, rest) := rest.splitAt (m + 1)
      cut fuel (⟨.raw, chars⟩ :: acc) rest

/-- The segments of a text. Every cut takes a character, so there are no more cuts than characters. -/
def segments (cs : List Char) : List Segment := cut cs.length [] cs

/-- The number of bytes of some characters. -/
def byteLength (cs : List Char) : Nat := cs.foldl (fun n c => n + c.utf8Size) 0

/-- The start tags among segments, each with its name and its offset, the first segment being at an offset. -/
def tagsOf (offset : Nat) : List Segment → List (String × Nat)
  | [] => []
  | s :: rest =>
    match s.kind with
    | .startTag name _ => (name, offset) :: tagsOf (offset + byteLength s.chars) rest
    | _ => tagsOf (offset + byteLength s.chars) rest

end Pagewalk.Source
