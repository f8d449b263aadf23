import Pagewalk.Markup.Lexer.Comments
import Pagewalk.Markup.Lexer.RawText
import Pagewalk.Markup.Lexer.Tags

/-!
# The steps of the lexer

`Lexer.step` takes one character, one run of plain characters or one reference, and gives the items that are then
complete; it answers nothing when the text is used up. `Lexer.stopStep` brings an unfinished item to its end, one
state at a time. Runs of characters are given whole, so a taker can note one fault for a run.
-/

namespace Pagewalk.Markup.Lexer

/-- The characters that end a run of text in a state of raw text. -/
def rawBreaks : RawKind → List Char
  | .escapable => ['\r', '\x00', '&', '<', '\n']
  | .plain | .script => ['\r', '\x00', '<', '\n']
  | .scriptComment | .scriptInComment => ['\r', '\x00', '-', '<', '\n']

/-- The characters that end a run in the value of an attribute. -/
def valueBreaks : ValueKind → List Char
  | .double => ['\r', '\"', '&', '\x00', '\n']
  | .single => ['\r', '\'', '&', '\x00', '\n']
  | .unquoted => ['\r', '\t', '\n', '\x0c', ' ', '&', '>', '\x00']

/-- What stands next in a text of runs: a run without breaks, or one character. -/
inductive Piece where
  | run (s : String)
  | char (c : Char)

/-- Takes a run or a character. -/
def nextPiece (l : Lexer) (breaks : List Char) (input : List Char) : Option (Piece × Lexer × List Char) :=
  let one := (l.next input).map fun (c, l, rest) => (Piece.char c, l, rest)
  if l.slow then one
  else
    let run := (if l.ahead == 0 then input else input.take l.ahead).takeWhile fun c => !breaks.contains c
    if run.isEmpty then one else some (.run (String.ofList run), l.pass run.length, input.drop run.length)

/-- Takes the reference after an ampersand. -/
def takeReference (l : Lexer) (inAttribute : Bool) (input : List Char) : Lexer × List Char × List Item :=
  let r := readReference inAttribute input
  let l := { l with ahead := r.ahead }
  let faults := r.faults.map Item.fault
  if inAttribute then
    ({ l with attributeValue := r.chars.foldl String.push l.attributeValue }, r.rest, faults)
  else (l, r.rest, faults ++ r.chars.map fun c => .chars c.toString)

/-- A step in ordinary text. -/
def dataStep (l : Lexer) (input : List Char) : Option (Lexer × List Char × List Item) :=
  (l.nextPiece ['\r', '\x00', '&', '<', '\n'] input).map fun (p, l, rest) =>
    match p with
    | .run s => (l, rest, [.chars s])
    | .char '\x00' => (l, rest, [.fault .badCharacter, .null])
    | .char '&' => l.takeReference false rest
    | .char '<' => (l.goTo .tagOpen, rest, [])
    | .char c => (l, rest, [.chars c.toString])

/-- A step in raw text. -/
def rawStep (l : Lexer) (kind : RawKind) (input : List Char) : Option (Lexer × List Char × List Item) :=
  (l.nextPiece (rawBreaks kind) input).map fun (p, l, rest) =>
    match p with
    | .run s => (l, rest, [.chars s])
    | .char c =>
      if c == '\x00' then (l, rest, [.fault .badCharacter, .chars substitute.toString])
      else if c == '&' && kind == .escapable then l.takeReference false rest
      else if c == '<' then
        (l.goTo (.rawLessThan kind), rest, if kind == .scriptInComment then [.chars "<"] else [])
      else if c == '-' && (kind == .scriptComment || kind == .scriptInComment) then
        (l.goTo (.scriptDash (kind == .scriptInComment)), rest, [.chars "-"])
      else (l, rest, [.chars c.toString])

/-- A step in text without any markup. -/
def plaintextStep (l : Lexer) (input : List Char) : Option (Lexer × List Char × List Item) :=
  (l.nextPiece ['\r', '\x00', '\n'] input).map fun (p, l, rest) =>
    match p with
    | .run s => (l, rest, [.chars s])
    | .char '\x00' => (l, rest, [.fault .badCharacter, .chars substitute.toString])
    | .char c => (l, rest, [.chars c.toString])

/-- A step before the value of an attribute; the character that begins an unquoted value is left in place. -/
def beforeValueStep (l : Lexer) (input : List Char) : Option (Lexer × List Char × List Item) :=
  let (c?, m, rest) := match l.held, input with
    | some c, _ => (some c, { l with held := none }, input)
    | none, c :: rest => (some c, l, rest)
    | none, [] => (none, l, [])
  c?.map fun c =>
    if isTagSpace c || c == '\r' then (m, rest, [])
    else if c == '\"' then (m.goTo (.attributeValue .double), rest, [])
    else if c == '\'' then (m.goTo (.attributeValue .single), rest, [])
    else if c == '>' then
      let (m, items) := m.giveTag
      (m, rest, .fault .badCharacter :: items)
    else (l.goTo (.attributeValue .unquoted), input, [])

/-- A step in the value of an attribute. -/
def valueStep (l : Lexer) (kind : ValueKind) (input : List Char) : Option (Lexer × List Char × List Item) :=
  (l.nextPiece (valueBreaks kind) input).map fun (p, l, rest) =>
    match p with
    | .run s => ({ l with attributeValue := l.attributeValue ++ s }, rest, [])
    | .char c =>
      if c == '&' then l.takeReference true rest
      else if c == '\x00' then
        ({ l with attributeValue := l.attributeValue.push substitute }, rest, [.fault .badCharacter])
      else
        let (l, items) := match kind with
          | .unquoted =>
            if isTagSpace c then (l.goTo .beforeAttributeName, [])
            else if c == '>' then l.giveTag
            else
              ({ l with attributeValue := l.attributeValue.push c },
                if ['\"', '\'', '<', '=', '\x60'].contains c then bad else [])
          | .double | .single =>
            if c == (if kind == .double then '\"' else '\'') then (l.goTo .afterAttributeValue, [])
            else ({ l with attributeValue := l.attributeValue.push c }, [])
        (l, rest, items)

/-- A step after `<!`. -/
def declarationStep (l : Lexer) (foreign : Bool) (input : List Char) : Lexer × List Char × List Item :=
  match l.take? false "--" input with
  | (l, rest, true) => ({ l with comment := "" }.goTo .commentStart, rest, [])
  | (l, rest, false) =>
    match l.take? true "doctype" rest with
    | (l, rest, true) => (l.goTo .doctype, rest, [])
    | (l, rest, false) =>
      match foreign, l.take? false "[CDATA[" rest with
      | true, (l, rest, true) => ({ l with buffer := "" }.goTo .cdata, rest, [])
      | _, _ => ({ l with comment := "" }.goTo .bogusComment, rest, [.fault .badCharacter])

/-- A step in a state that looks at one character. -/
def onChar (l : Lexer) (c : Char) : Lexer × List Item :=
  match l.state with
  | .tagOpen => l.onTagOpen c
  | .endTagOpen => l.onEndTagOpen c
  | .tagName => l.onTagName c
  | .rawLessThan kind => l.onRawLessThan kind c
  | .rawEndTagOpen kind => l.onRawEndTagOpen kind c
  | .rawEndTagName kind => l.onRawEndTagName kind c
  | .scriptEscapeStart => l.onScriptEscapeStart c
  | .scriptEscapeStartDash => l.onScriptEscapeStartDash c
  | .scriptDash nested => l.onScriptDash nested c
  | .scriptDashDash nested => l.onScriptDashDash nested c
  | .scriptNestStart => l.onScriptNest false c
  | .scriptNestEnd => l.onScriptNest true c
  | .beforeAttributeName => l.onBeforeAttributeName c
  | .attributeName => l.onAttributeName c
  | .afterAttributeName => l.onAfterAttributeName c
  | .afterAttributeValue => l.onAfterAttributeValue c
  | .selfClosing => l.onSelfClosing c
  | .bogusComment => l.onBogusComment c
  | .commentStart => l.onCommentStart c
  | .commentStartDash => l.onCommentStartDash c
  | .comment => l.onComment c
  | .commentLess => l.onCommentLess c
  | .commentLessBang => if c == '-' then (l.goTo .commentLessBangDash, []) else (l.leave .comment c, [])
  | .commentLessBangDash =>
    if c == '-' then (l.goTo .commentLessBangDashDash, []) else (l.leave .commentEndDash c, [])
  | .commentLessBangDashDash => (l.leave .commentEnd c, if c == '>' then [] else bad)
  | .commentEndDash => l.onCommentEndDash c
  | .commentEnd => l.onCommentEnd c
  | .commentEndBang => l.onCommentEndBang c
  | .doctype => l.onDoctype c
  | .beforeDoctypeName => l.onBeforeDoctypeName c
  | .doctypeName => l.onDoctypeName c
  | .afterDoctypeName => l.onAfterDoctypeName c
  | .afterDoctypeKeyword id => l.onAfterDoctypeKeyword id c
  | .beforeDoctypeId id => l.onBeforeDoctypeId id c
  | .doctypeId id quote => l.onDoctypeId id quote c
  | .afterDoctypeId id => l.onAfterDoctypeId id c
  | .betweenDoctypeIds => l.onBetweenDoctypeIds c
  | .bogusDoctype => l.onBogusDoctype c
  | .cdata => l.onCdata c
  | .cdataBracket => l.onCdataBracket c
  | .cdataEnd => l.onCdataEnd c
  | .data | .plaintext | .raw _ | .beforeAttributeValue | .attributeValue _ | .declaration => (l, [])

/-- A step in a state that looks at one character, when there is one. -/
def charStep (l : Lexer) (input : List Char) : Option (Lexer × List Char × List Item) :=
  (l.next input).map fun (c, l, rest) =>
    let (l, items) := l.onChar c
    (l, rest, items)

/-- One step of the lexer; `foreign` holds inside an element of another namespace than ordinary markup. It answers
nothing when the text is used up. -/
def step (l : Lexer) (foreign : Bool) (input : List Char) : Option (Lexer × List Char × List Item) :=
  match l.state with
  | .data => l.dataStep input
  | .plaintext => l.plaintextStep input
  | .raw kind => l.rawStep kind input
  | .beforeAttributeValue => l.beforeValueStep input
  | .attributeValue kind => l.valueStep kind input
  | .declaration => some (l.declarationStep foreign input)
  | .afterDoctypeName =>
    match l.take? true "public" input with
    | (l, rest, true) => some (l.goTo (.afterDoctypeKeyword .publicId), rest, [])
    | (l, rest, false) =>
      match l.take? true "system" rest with
      | (l, rest, true) => some (l.goTo (.afterDoctypeKeyword .systemId), rest, [])
      | (l, rest, false) => l.charStep rest
  | _ => l.charStep input

/-- The end of the text in a state: the state after it, or nothing more in `data` and the raw states. -/
def stopStep (l : Lexer) : Option (Lexer × List Item) :=
  let cut := Item.fault .endOfInput
  match l.state with
  | .data | .plaintext | .raw .escapable | .raw .plain | .raw .script => none
  | .tagName | .raw .scriptComment | .raw .scriptInComment | .beforeAttributeName | .attributeName
  | .afterAttributeName | .attributeValue _ | .afterAttributeValue | .selfClosing | .scriptDash _
  | .scriptDashDash _ => some (l.goTo .data, [cut])
  | .beforeAttributeValue => some (l.goTo (.attributeValue .unquoted), [])
  | .tagOpen => some (l.goTo .data, [cut, .chars "<"])
  | .endTagOpen => some (l.goTo .data, [cut, .chars "<", .chars "/"])
  -- In a script in a comment the `<` was given when it was met.
  | .rawLessThan .scriptInComment => some (l.goTo (.raw .scriptInComment), [])
  | .rawLessThan kind => some (l.goTo (.raw kind), [.chars "<"])
  | .rawEndTagOpen kind => some (l.goTo (.raw kind), [.chars "<", .chars "/"])
  | .rawEndTagName kind => some (l.goTo (.raw kind), [.chars "<", .chars "/", .chars l.buffer])
  | .scriptEscapeStart => some (l.goTo (.raw .scriptComment), [])
  | .scriptNestStart => some (l.goTo (.raw .scriptInComment), [])
  | .scriptEscapeStartDash => some (l.goTo (.raw .script), [])
  | .scriptNestEnd => some (l.goTo (.raw .scriptInComment), [])
  | .commentStart | .commentStartDash | .comment | .commentEndDash | .commentEnd | .commentEndBang =>
    let (l, items) := l.giveComment
    some (l, cut :: items)
  | .commentLess | .commentLessBang => some (l.goTo .comment, [])
  | .commentLessBangDash => some (l.goTo .commentEndDash, [])
  | .commentLessBangDashDash => some (l.goTo .commentEnd, [])
  | .doctype | .beforeDoctypeName | .doctypeName | .afterDoctypeName | .afterDoctypeKeyword _
  | .beforeDoctypeId _ | .doctypeId _ _ | .afterDoctypeId _ | .betweenDoctypeIds =>
    let (l, items) := l.spoilDoctype.giveDoctype
    some (l, cut :: items)
  | .bogusDoctype => some l.giveDoctype
  | .bogusComment => some l.giveComment
  | .declaration => some (l.goTo .bogusComment, bad)
  | .cdata => some ({ l with buffer := "" }.goTo .data, [.chars l.buffer, cut])
  | .cdataBracket => some ({ l with buffer := l.buffer.push ']' }.goTo .cdata, [])
  | .cdataEnd => some ({ l with buffer := l.buffer ++ "]]" }.goTo .cdata, [])

/-- What a taker of a tag asks for. -/
def heed (l : Lexer) : Feedback → Lexer
  | .none => l
  | .raw kind => l.goTo (.raw kind)
  | .plaintext => l.goTo .plaintext

end Pagewalk.Markup.Lexer
