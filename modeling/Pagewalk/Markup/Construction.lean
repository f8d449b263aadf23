import Pagewalk.Markup.Lexer.Step
import Pagewalk.Markup.Modes.Rest

/-!
# From text to a draft

`Draft.ofText` reads a text with the lexer and takes each item into the draft. The lexer and the taker step in
turn: a tag can make the lexer read raw text, and character data is read only in foreign content.
-/

namespace Pagewalk.Markup

namespace Build

/-- The first run of a text, blanks apart, with its class, and the rest. -/
def firstRun (s : String) : TextClass × String × String :=
  let cs := s.toList
  let blank := (cs.head?.map Text.isSpace).getD true
  let (run, rest) := cs.span fun c => Text.isSpace c == blank
  (if blank then .blank else .solid, String.ofList run, String.ofList rest)

/-- Takes tokens until none is left. A token is taken again as often as a mode asks for it; the number of steps is
bounded by the text left to split and by the elements left to close. -/
def complete : Nat → Token → List Token → Build Feedback
  | 0, _, _ => return .none
  | fuel + 1, tok, more => do
    let b ← get
    let foreign := match tok, b.stack.head? with
      | .stop, _ => false
      | _, none => false
      | tok, some id => takesForeign (b.draft.name id) tok
    let answer ← if foreign then takeForeign tok else take b.mode tok
    let finish : Build Feedback :=
      match more with
      | [] => return .none
      | next :: more => complete fuel next more
    match answer with
    | .done =>
      match tok with
      | .tag t => if t.kind == .opening && t.selfClosing then fault .selfClosingIgnored
      | _ => pure ()
      finish
    | .heeded => finish
    | .again m t =>
      enter m
      complete fuel t more
    | .anew t => complete fuel t more
    | .split s =>
      let (c, run, rest) := firstRun s
      if run.isEmpty then return .none
      else complete fuel (.chars c run) (if rest.isEmpty then more else more ++ [.chars .mixed rest])
    | .raw kind => return .raw kind
    | .plaintext => return .plaintext

/-- Takes a token and those that come of it. -/
def takeToken (tok : Token) : Build Feedback := do
  let size := match tok with
    | .chars _ s => s.length
    | _ => 0
  complete (4 * size + 4 * (← get).stack.length + 64) tok []

/-- The identifiers of document types that ask for lenient layout. -/
def lenientPublicIds : List String :=
  ["-//w3o//dtd w3 html strict 3.0//en//", "-/w3c/dtd html 4.0 transitional/en", "html"]

/-- The beginnings of identifiers that ask for lenient layout. -/
def lenientPublicStarts : List String :=
  ["-//advasoft ltd//dtd html 3.0 aswedit + extensions//", "-//as//dtd html 3.0 aswedit + extensions//",
    "-//ietf//dtd html 2.0 level 1//", "-//ietf//dtd html 2.0 level 2//", "-//ietf//dtd html 2.0 strict level 1//",
    "-//ietf//dtd html 2.0 strict level 2//", "-//ietf//dtd html 2.0 strict//", "-//ietf//dtd html 2.0//",
    "-//ietf//dtd html 2.1e//", "-//ietf//dtd html 3.0//", "-//ietf//dtd html 3.2 final//",
    "-//ietf//dtd html 3.2//", "-//ietf//dtd html 3//", "-//ietf//dtd html level 0//",
    "-//ietf//dtd html level 1//", "-//ietf//dtd html level 2//", "-//ietf//dtd html level 3//",
    "-//ietf//dtd html strict level 0//", "-//ietf//dtd html strict level 1//",
    "-//ietf//dtd html strict level 2//", "-//ietf//dtd html strict level 3//", "-//ietf//dtd html strict//",
    "-//ietf//dtd html//", "-//metrius//dtd metrius presentational//",
    "-//microsoft//dtd internet explorer 2.0 html strict//", "-//microsoft//dtd internet explorer 2.0 html//",
    "-//microsoft//dtd internet explorer 2.0 tables//", "-//microsoft//dtd internet explorer 3.0 html strict//",
    "-//microsoft//dtd internet explorer 3.0 html//", "-//microsoft//dtd internet explorer 3.0 tables//",
    "-//netscape comm. corp.//dtd html//", "-//netscape comm. corp.//dtd strict html//",
    "-//o'reilly and associates//dtd html 2.0//", "-//o'reilly and associates//dtd html extended 1.0//",
    "-//o'reilly and associates//dtd html extended relaxed 1.0//",
    "-//softquad software//dtd hotmetal pro 6.0::19990601::extensions to html 4.0//",
    "-//softquad//dtd hotmetal pro 4.0::19971010::extensions to html 4.0//", "-//spyglass//dtd html 2.0 extended//",
    "-//sq//dtd html 2.0 hotmetal + extensions//", "-//sun microsystems corp.//dtd hotjava html//",
    "-//sun microsystems corp.//dtd hotjava strict html//", "-//w3c//dtd html 3 1995-03-24//",
    "-//w3c//dtd html 3.2 draft//", "-//w3c//dtd html 3.2 final//", "-//w3c//dtd html 3.2//",
    "-//w3c//dtd html 3.2s draft//", "-//w3c//dtd html 4.0 frameset//", "-//w3c//dtd html 4.0 transitional//",
    "-//w3c//dtd html experimental 19960712//", "-//w3c//dtd html experimental 970421//", "-//w3c//dtd w3 html//",
    "-//w3o//dtd w3 html 3.0//", "-//webtechs//dtd mozilla html 2.0//", "-//webtechs//dtd mozilla html//"]

/-- The document types that are no fault: the public and the system identifier. -/
def goodDoctypes : List (Option String × Option String) :=
  [(none, none), (none, some "about:legacy-compat"), (some "-//W3C//DTD HTML 4.0//EN", none),
    (some "-//W3C//DTD HTML 4.0//EN", some "http://www.w3.org/TR/REC-html40/strict.dtd"),
    (some "-//W3C//DTD HTML 4.01//EN", none),
    (some "-//W3C//DTD HTML 4.01//EN", some "http://www.w3.org/TR/html4/strict.dtd"),
    (some "-//W3C//DTD XHTML 1.0 Strict//EN", some "http://www.w3.org/TR/xhtml1/DTD/xhtml1-strict.dtd"),
    (some "-//W3C//DTD XHTML 1.1//EN", some "http://www.w3.org/TR/xhtml11/DTD/xhtml11.dtd")]

/-- How leniently a document with this document type is laid out. -/
def leniencyOf (d : Doctype) : Leniency :=
  let publicId := (d.publicId.map Text.lower).getD ""
  let starts := fun (s : String) => publicId.startsWith s
  if d.forceQuirks || d.name != some "html" then .full
  else if d.publicId.isSome && lenientPublicIds.contains publicId then .full
  else if d.systemId.map Text.lower == some "http://www.ibm.com/data/dtd/v11/ibmxhtml1-transitional.dtd" then .full
  else if lenientPublicStarts.any starts then .full
  else if ["-//w3c//dtd xhtml 1.0 frameset//", "-//w3c//dtd xhtml 1.0 transitional//"].any starts then .limited
  else if ["-//w3c//dtd html 4.01 frameset//", "-//w3c//dtd html 4.01 transitional//"].any starts then
    if d.systemId.isNone then .full else .limited
  else .none

/-- Takes a document type. -/
def takeDoctype (d : Doctype) : Build Unit := do
  if (← get).mode == .initial then
    if d.name != some "html" || !goodDoctypes.contains (d.publicId, d.systemId) then fault .badDoctype
    let id ← make fun draft => draft.make (.doctype (d.name.getD ""))
    redraft fun draft => draft.append Draft.document id
    modify fun b => { b with leniency := leniencyOf d, mode := .beforeHtml }
  else fault .doctypeInBody

/-- Takes an item of the lexer. A line feed right after the tag that asks for it is dropped. -/
def takeItem (i : Item) : Build Feedback := do
  let skip := (← get).skipLineFeed
  if skip then modify fun b => { b with skipLineFeed := false }
  match i with
  | .fault f =>
    fault f
    return .none
  | .doctype d =>
    takeDoctype d
    return .none
  | .tag t => takeToken (.tag t)
  | .comment s => takeToken (.comment s)
  | .null => takeToken .null
  | .stop => takeToken .stop
  | .chars s =>
    let s := if skip && s.startsWith "\n" then String.ofList (s.toList.drop 1) else s
    if s.isEmpty then return .none else takeToken (.chars .mixed s)

/-- The innermost open element is of another namespace than ordinary markup. -/
def inForeign (b : Builder) : Bool :=
  (b.stack.head?.map fun id => (b.draft.name id).space != .html).getD false

end Build

/-- Takes the items of one step; the lexer heeds what the taker asks for. -/
def takeItems (l : Lexer) (b : Builder) : List Item → Lexer × Builder
  | [] => (l, b)
  | i :: items =>
    let (feedback, b) := Build.takeItem i b
    takeItems (l.heed feedback) b items

/-- Reads the text step by step. -/
def readText : Nat → Lexer → Builder → List Char → Lexer × Builder
  | 0, l, b, _ => (l, b)
  | fuel + 1, l, b, input =>
    match l.step (Build.inForeign b) input with
    | none => (l, b)
    | some (l, rest, items) =>
      let (l, b) := takeItems l b items
      readText fuel l b rest

/-- Brings what is unfinished at the end of the text to its end. -/
def readStop : Nat → Lexer → Builder → Builder
  | 0, _, b => b
  | fuel + 1, l, b =>
    match l.stopStep with
    | none => (takeItems l b [.stop]).2
    | some (l, items) =>
      let (l, b) := takeItems l b items
      readStop fuel l b

/-- The draft of a text and the faults met, in order. A byte order mark at the start is left out. A character is
looked at by at most four states before the next is taken. -/
def Draft.ofText (s : String) : Draft × List Fault :=
  let input := match s.toList with
    | '\ufeff' :: rest => rest
    | cs => cs
  let (l, b) := readText (4 * input.length + 16) {} {} input
  let b := readStop 8 l b
  (b.draft, b.faults.reverse)

end Pagewalk.Markup
