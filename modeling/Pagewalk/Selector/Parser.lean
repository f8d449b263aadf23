import Pagewalk.Error
import Pagewalk.Selector.Basic
import Pagewalk.Selector.Lexer

/-!
# Reading selectors

A reader takes parts from the front of a list and gives the rest back. `next?` passes over blanks and `raw?` does
not. Blocks are read to their end: what is left in one is not expected there.
-/

namespace Pagewalk.Selector

open Text

/-- A reader of parts: what it read and the rest, or a fault. -/
abbrev Reader (α : Type) := StateT (List Part) (Except Fault) α

/-- What may stand inside the block that is read. -/
structure Allowance where
  /-- Elements that are no real elements may be named. -/
  pseudoElements : Bool := true
  /-- Conditions on what an element has may be set. -/
  relative : Bool := true
  /-- Compounds may be joined. -/
  combinators : Bool := true

namespace Reader

/-- Fails. -/
def fail {α : Type} (f : Fault) : Reader α := fun _ => .error f

/-- The first part, blanks included, without taking it. -/
def peek? : Reader (Option Part) := fun ps => .ok (ps.head?, ps)

/-- Takes the first part. -/
def drop : Reader Unit := fun ps => .ok ((), ps.tail)

/-- A part is a blank. -/
def isBlankPart : Part → Bool
  | .token (.blank _) => true
  | _ => false

/-- Passes over blanks. -/
def skipBlanks : Reader Unit := fun ps => .ok ((), ps.dropWhile isBlankPart)

/-- The token that a part begins with. -/
def firstToken : Part → Token
  | .token t => t
  | .block t _ => t

/-- Takes the first part, blanks included. -/
def raw : Reader Part := fun
  | [] => .error .unexpectedEnd
  | p :: ps => .ok (p, ps)

/-- Takes the first part that is no blank. -/
def next : Reader Part := fun ps => raw (ps.dropWhile isBlankPart)

/-- Takes the first part that is no blank, if there is one. -/
def next? : Reader (Option Part) := fun ps =>
  match ps.dropWhile isBlankPart with
  | [] => .ok (none, [])
  | p :: ps => .ok (some p, ps)

/-- Reads all of some parts; a part that is left over is not expected. -/
def all {α : Type} (r : Reader α) (ps : List Part) : Except Fault α :=
  match r ps with
  | .error f => .error f
  | .ok (a, rest) =>
    match rest.dropWhile isBlankPart with
    | [] => .ok a
    | p :: _ => .error (.unexpectedToken (firstToken p))

/-- Reads the inside of a block to its end. -/
def inside {α : Type} (r : Reader α) (ps : List Part) : Reader α := fun rest =>
  (all r ps).map fun a => (a, rest)

end Reader

open Reader

/-! ### Names -/

/-- A name with what is said about its namespace. `none` for the name is the star. -/
inductive QualifiedName where
  /-- There is no name; the first token is given. -/
  | missing (t : Token)
  /-- No bar. -/
  | plain (name : Option String)
  /-- A bar with nothing before it. -/
  | noSpace (name : Option String)
  /-- A bar with a star before it. -/
  | anySpace (name : Option String)

/-- Reads the name after a bar. -/
def nameAfterBar (inAttribute : Bool) : Reader (Option String) := do
  match ← raw with
  | .token (.ident name) => return some name
  | .token (.delim '*') =>
    if inAttribute then fail (.badQualifiedAttribute (.delim '*')) else return none
  | p => fail (if inAttribute then .badQualifiedAttribute (firstToken p) else .badQualifiedName (firstToken p))

/-- Takes a bar, if one is first. -/
def bar? : Reader Bool := do
  match ← peek? with
  | some (.token (.delim '|')) =>
    drop
    return true
  | _ => return false

/-- Reads a name with a possible namespace; nothing is taken when there is none. -/
def qualifiedName (inAttribute : Bool) : Reader QualifiedName := do
  match ← peek? with
  | none => fail .unexpectedEnd
  | some (.token (.ident name)) =>
    drop
    if ← bar? then fail (.unknownSpace name) else return .plain (some name)
  | some (.token (.delim '*')) =>
    drop
    if ← bar? then return .anySpace (← nameAfterBar inAttribute)
    else if inAttribute then
      match ← peek? with
      | none => fail .unexpectedEnd
      | some p => fail (.barExpectedInAttribute (firstToken p))
    else return .plain none
  | some (.token (.delim '|')) =>
    drop
    return .noSpace (← nameAfterBar inAttribute)
  | some p => return .missing (firstToken p)

/-- The conditions of a type name. -/
def typeParts (name : Option String) : List Simple :=
  match name with
  | none => [.universal]
  | some n => [.type n (lower n)]

/-- The conditions of a name. -/
def nameParts : QualifiedName → List Simple
  | .missing _ => []
  | .plain n => typeParts n
  | .anySpace n => typeParts n
  | .noSpace n => .noSpace :: typeParts n

/-- Reads a type name, if there is one. A bar at the end is none. -/
def typeName : Reader (List Simple) := fun ps =>
  match qualifiedName false ps with
  | .error .unexpectedEnd => .ok ([], [])
  | .error f => .error f
  | .ok (name, rest) => .ok (nameParts name, rest)

/-! ### Attributes -/

/-- The attributes of ordinary markup in whose values capitals do not count. -/
def caselessAttributes : List String :=
  ["accept", "accept-charset", "align", "alink", "axis", "bgcolor", "charset", "checked", "clear", "codetype", "color",
    "compact", "declare", "defer", "dir", "direction", "disabled", "enctype", "face", "frame", "hreflang",
    "http-equiv", "lang", "language", "link", "media", "method", "multiple", "nohref", "noresize", "noshade",
    "nowrap", "readonly", "rel", "rev", "rules", "scope", "scrolling", "selected", "shape", "target", "text", "type",
    "valign", "valuetype", "vlink"]

/-- The comparison that a token asks for. -/
def comparison? : Part → Option Comparison
  | .token (.delim '=') => some .equal
  | .token .includes => some .word
  | .token .dashMatch => some .dash
  | .token .startsWith => some .start
  | .token .substring => some .part
  | .token .endsWith => some .tail
  | _ => none

/-- Reads the letter after the value of an attribute, which says whether capitals count. -/
def letterCase (lowerName : String) (anySpace : Bool) : Reader LetterCase := do
  match ← next? with
  | none => return if !anySpace && caselessAttributes.contains lowerName then .ignoredInHtml else .exact
  | some (.token (.ident s)) =>
    if lower s == "i" then return .ignored
    else if lower s == "s" then return .exact
    else fail (.unexpectedToken (.ident s))
  | some p => fail (.unexpectedToken (firstToken p))

/-- Reads the inside of square brackets. -/
def attributeTest : Reader Simple := do
  skipBlanks
  let (name, anySpace) ← (do
    match ← qualifiedName true with
    | .missing t => fail (.noAttributeName t)
    | .plain n => return (n.getD "", false)
    | .noSpace n => return (n.getD "", false)
    | .anySpace n => return (n.getD "", true))
  match ← next? with
  | none => return .attribute ⟨name, lower name, anySpace, none⟩
  | some p =>
    match comparison? p with
    | none => fail (.unexpectedInAttribute (firstToken p))
    | some c =>
      let value ← (do
        match ← next with
        | .token (.ident s) => return s
        | .token (.quoted s) => return s
        | p => fail (.badAttributeValue (firstToken p)))
      return .attribute ⟨name, lower name, anySpace, some (c, value, ← letterCase (lower name) anySpace)⟩

/-! ### Numbers -/

/-- The digits after `n-`, as a negative number. -/
def negativeDigits? (unit : String) : Option Int :=
  match unit.toList with
  | n :: '-' :: ds =>
    if n.toLower == 'n' && !ds.isEmpty && ds.all Char.isDigit then some (saturate (-(Decimal.digitsValue ds : Int)))
    else none
  | _ => none

/-- Reads an offset without a sign. -/
def unsignedOffset (step sign : Int) : Reader (Int × Int) := do
  match ← next with
  | .token (.number ⟨false, x, some b⟩) =>
    let _ := x
    return (step, sign * b)
  | p => fail (.unexpectedToken (firstToken p))

/-- Reads an offset, if there is one. -/
def offset (step : Int) : Reader (Int × Int) := do
  let before ← get
  match ← next? with
  | some (.token (.delim '+')) => unsignedOffset step 1
  | some (.token (.delim '-')) => unsignedOffset step (-1)
  | some (.token (.number ⟨true, _, some b⟩)) => return (step, b)
  | _ =>
    set before
    return (step, 0)

/-- Reads what follows a step with this unit. -/
def afterStep (step : Int) (unit : String) (whole : Token) : Reader (Int × Int) :=
  let u := lower unit
  if u == "n" then offset step
  else if u == "n-" then unsignedOffset step (-1)
  else match negativeDigits? unit with
    | some b => return (step, b)
    | none => fail (.unexpectedToken whole)

/-- Reads a step and an offset. -/
def stepAndOffset : Reader (Int × Int) := do
  match ← next with
  | .token (.number ⟨_, _, some b⟩) => return (0, b)
  | .token (.dimension ⟨_, _, some a⟩ unit) => afterStep a unit (.ident unit)
  | .token (.ident s) =>
    let l := lower s
    if l == "even" then return (2, 0)
    else if l == "odd" then return (2, 1)
    else
      match s.toList with
      | '-' :: cs => afterStep (-1) (String.ofList cs) (.ident s)
      | cs => afterStep 1 (String.ofList cs) (.ident s)
  | .token (.delim '+') =>
    match ← raw with
    | .token (.ident s) => afterStep 1 s (.ident s)
    | p => fail (.unexpectedToken (firstToken p))
  | p => fail (.unexpectedToken (firstToken p))

/-! ### Conditions -/

/-- The number of the first or the last sibling. -/
def edge (ofType fromEnd : Bool) : Nth := ⟨0, 1, ofType, fromEnd⟩

/-- The conditions that a name after a colon sets. -/
def pseudoClass? (name : String) : Option (List Simple) :=
  match lower name with
  | "first-child" => some [.nth (edge false false)]
  | "last-child" => some [.nth (edge false true)]
  | "only-child" => some [.nth (edge false false), .nth (edge false true)]
  | "root" => some [.root]
  | "empty" => some [.empty]
  | "scope" => some [.scope]
  | "first-of-type" => some [.nth (edge true false)]
  | "last-of-type" => some [.nth (edge true true)]
  | "only-of-type" => some [.nth (edge true false), .nth (edge true true)]
  | _ => none

/-- The names that mean a part of an element even after a single colon. -/
def partNames : List String := ["before", "after", "first-line", "first-letter"]

/-- Reads a combinator, if there is one. Blanks alone are one when something follows. -/
def combinator? : Reader (Option Combinator) := fun ps =>
  let rest := ps.dropWhile isBlankPart
  match rest with
  | [] => .ok (none, [])
  | .token (.delim '>') :: rest => .ok (some .child, rest)
  | .token (.delim '+') :: rest => .ok (some .next, rest)
  | .token (.delim '~') :: rest => .ok (some .later, rest)
  | _ => if rest.length < ps.length then .ok (some .descendant, rest) else .ok (none, ps)

/-- A part is a comma. -/
def isComma : Part → Bool
  | .token .comma => true
  | _ => false

/-- The runs of parts between commas. -/
def alternatives (ps : List Part) : List (List Part) :=
  let (done, last) := ps.foldr (fun p (done, run) => if isComma p then (run :: done, []) else (done, p :: run)) ([], [])
  last :: done

/-- Reads every run; a fault in one run ends the reading, or leaves the run out if faults are forgiven. -/
def readAll (forgiving : Bool) (r : Reader Chain) : List (List Part) → Except Fault (List Chain)
  | [] => .ok []
  | run :: runs =>
    match all r run with
    | .error f => if forgiving then readAll forgiving r runs else .error f
    | .ok c => (readAll forgiving r runs).map (c :: ·)

/-- A reader of chains: what is allowed in them, and whether they begin with the anchor. -/
abbrev ChainReader := Allowance → Bool → Reader Chain

/-- Reads the block of a condition; `nested` reads the chains in it. -/
def functional (nested : ChainReader) (allowed : Allowance) (name : String) (ps : List Part) : Reader Simple :=
  let nth := fun (ofType fromEnd : Bool) => do
    let (a, b) ← inside stepAndOffset ps
    return Simple.nth ⟨a, b, ofType, fromEnd⟩
  let list := fun (forgiving relative : Bool) (allowed : Allowance) =>
    (liftM (readAll forgiving (nested allowed relative) (alternatives ps)) : Reader (List Chain))
  let within := { allowed with pseudoElements := false }
  match lower name with
  | "nth-child" => nth false false
  | "nth-of-type" => nth true false
  | "nth-last-child" => nth false true
  | "nth-last-of-type" => nth true true
  | "is" => return .any (← list true false within)
  | "where" => return .any (← list true false within)
  | "not" => return .none (← list false false within)
  -- No element is the host of another tree.
  | "host" => do
    let _ ← inside (nested { within with combinators := false } false) ps
    return .any []
  | "has" => do
    if allowed.relative then return .has (← list false true { within with relative := false })
    else fail .invalidState
  | _ => fail (.unsupported name)

/-- Reads what follows a colon. -/
def pseudo (nested : ChainReader) (allowed : Allowance) : Reader (List Simple) := do
  let first ← raw
  let (double, named) ← (do
    match first with
    | .token .colon => return (true, ← raw)
    | p => return (false, p))
  let (name, block?) ← (do
    match named with
    | .token (.ident s) => return (s, none)
    | .block (.function s) ps => return (s, some ps)
    | p => fail (.pseudoNeedsIdent (firstToken p)))
  if double || partNames.contains (lower name) then
    if allowed.pseudoElements then fail (.unsupported name) else fail .invalidState
  else
    match block? with
    | some ps => return [← functional nested allowed name ps]
    | none =>
      match pseudoClass? name with
      | some parts => return parts
      | none => fail (.unsupported name)

/-- Reads one condition; none if nothing usable is first. -/
def condition (nested : ChainReader) (allowed : Allowance) : Reader (List Simple) := do
  match ← peek? with
  | some (.token (.idHash s)) =>
    drop
    return [.id s]
  | some (.token (.delim '.')) =>
    drop
    match ← raw with
    | .token (.ident s) => return [.className s]
    | p => fail (.classNeedsIdent (firstToken p))
  | some (.block .bracket ps) =>
    drop
    return [← inside attributeTest ps]
  | some (.token .colon) =>
    drop
    pseudo nested allowed
  | _ => return []

/-- Reads conditions as long as there are any, after those read before. -/
def conditions (nested : ChainReader) (allowed : Allowance) : Nat → List Simple → Reader (List Simple)
  | 0, acc => return acc
  | more + 1, acc => do
    match ← condition nested allowed with
    | [] => return acc
    | parts => conditions nested allowed more (acc ++ parts)

/-- Reads a compound; it is empty if nothing usable stands there. -/
def compound (nested : ChainReader) (allowed : Allowance) : Reader (List Simple) := do
  skipBlanks
  let first ← typeName
  conditions nested allowed (← get).length first

/-- Reads compounds as long as there are combinators between them. -/
def compounds (nested : ChainReader) (allowed : Allowance) : Nat → Option (Chain × Combinator) → Reader Chain
  | 0, _ => fail .danglingCombinator
  | more + 1, left => do
    let parts ← compound nested allowed
    if parts.isEmpty then fail (if left.isSome then .danglingCombinator else .emptySelector)
    else
      let here := match left with
        | none => Chain.compound parts
        | some (left, c) => .joined left c parts
      match ← combinator? with
      | none => return here
      | some c => if allowed.combinators then compounds nested allowed more (some (here, c)) else fail .invalidState

/-- Reads a chain. `depth` bounds how deep blocks stand in blocks. -/
def chain : Nat → ChainReader
  | 0, _, _ => fail .invalidState
  | depth + 1, allowed, relative => do
    skipBlanks
    let left ← (do
      if relative then return some (Chain.compound [.anchor], (← combinator?).getD .descendant) else return none)
    compounds (chain depth) allowed ((← get).length + 1) left

/-- The selector that a text writes. -/
def ofText (s : String) : Except Fault Selector :=
  readAll false (chain (s.length + 1) {} false) (alternatives (parts s))

/-- The selector that a text writes, or the error about it. A fault without a text ends the operation. -/
def read (s : String) : Except Error Selector :=
  match ofText s with
  | .ok sel => .ok sel
  | .error f =>
    match f.text? with
    | some cause => .error (.invalidSelector s cause)
    | none => .error .panic

end Pagewalk.Selector
