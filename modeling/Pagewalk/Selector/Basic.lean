import Pagewalk.Selector.Token

/-!
# Selectors

A selector is a list of alternatives. An alternative is a chain of compounds joined by combinators and read from
the right: the last compound is about the element itself and the chain to its left about others. A compound is a
list of simple conditions that all have to hold.
-/

namespace Pagewalk.Selector

/-- How the element of a compound lies to that of the compound before it. -/
inductive Combinator where
  /-- Somewhere below. -/
  | descendant
  /-- Right below. -/
  | child
  /-- Right after. -/
  | next
  /-- Somewhere after, with the same parent. -/
  | later
  deriving DecidableEq, Repr

/-- What an attribute is compared by. -/
inductive Comparison where
  | equal
  /-- One of the words of the value. -/
  | word
  /-- The value, or what stands before a dash in it. -/
  | dash
  | start
  | tail
  | part
  deriving DecidableEq, Repr

/-- Whether capitals count in the value of an attribute. -/
inductive LetterCase where
  | exact
  | ignored
  /-- Ignored in elements of ordinary markup. -/
  | ignoredInHtml
  deriving DecidableEq, Repr

/-- A condition on an attribute. -/
structure AttributeTest where
  name : String
  /-- The name in small letters, which counts in elements of ordinary markup. -/
  lowerName : String
  /-- The attribute may be in any namespace. -/
  anySpace : Bool
  /-- The comparison with a value; without one it is enough that the attribute is there. -/
  value? : Option (Comparison × String × LetterCase)
  deriving DecidableEq, Repr

/-- A condition on the number of an element among its siblings: `step * n + offset` for some `n`. -/
structure Nth where
  step : Int
  offset : Int
  /-- Only siblings of the same name count. -/
  ofType : Bool
  /-- Counted from the end. -/
  fromEnd : Bool
  deriving DecidableEq, Repr

mutual

/-- A condition on one element. -/
inductive Simple where
  | universal
  /-- No namespace, which no element is without. -/
  | noSpace
  | type (name lowerName : String)
  | id (s : String)
  | className (s : String)
  | attribute (test : AttributeTest)
  | root
  | empty
  | scope
  /-- The element of which another compound says what it has. -/
  | anchor
  | nth (n : Nth)
  | any (alternatives : List Chain)
  | none (alternatives : List Chain)
  /-- Some element below, or after if `siblings` is set, matches a chain that begins with the anchor. -/
  | has (alternatives : List Chain)
  deriving Repr

/-- Compounds joined by combinators. -/
inductive Chain where
  | compound (parts : List Simple)
  | joined (left : Chain) (c : Combinator) (parts : List Simple)
  deriving Repr

end

/-- Why a text is no selector. -/
inductive Fault where
  /-- The text ends where a token is due. -/
  | unexpectedEnd
  | unexpectedToken (t : Token)
  | emptySelector
  | danglingCombinator
  /-- What is read is not allowed where it stands. -/
  | invalidState
  | unsupported (name : String)
  | unknownSpace (name : String)
  | classNeedsIdent (t : Token)
  /-- A colon is followed by something else than a name. -/
  | pseudoNeedsIdent (t : Token)
  | noAttributeName (t : Token)
  | unexpectedInAttribute (t : Token)
  | badAttributeValue (t : Token)
  | barExpectedInAttribute (t : Token)
  | badQualifiedAttribute (t : Token)
  | badQualifiedName (t : Token)
  deriving Repr

/-- The text about a fault that should not occur. -/
def unexpectedFault (s : String) : String :=
  "Unexpected error occurred. Please report this to the developer\n" ++ s

/-- The text of a fault. A token that has no label leaves the fault without a text. -/
def Fault.text? : Fault → Option String
  | unexpectedEnd => some "Unexpected EOL"
  | unexpectedToken t => t.label?.map fun s => "Token " ++ Text.quote s ++ " was not expected"
  | pseudoNeedsIdent t =>
    t.label?.map fun s => "Expected identity for pseudoelement, got " ++ Text.quote s ++ " instead"
  | emptySelector => some (unexpectedFault "EmptySelector")
  | danglingCombinator => some (unexpectedFault "DanglingCombinator")
  | invalidState => some (unexpectedFault "InvalidState")
  | unsupported name =>
    some (unexpectedFault (Token.wrap "" "UnsupportedPseudoClassOrElement" (Text.quote name)))
  | unknownSpace name => some (unexpectedFault (Token.wrap "" "ExpectedNamespace" (Text.quote name)))
  | classNeedsIdent t => about "ClassNeedsIdent" t
  | noAttributeName t => about "NoQualifiedNameInAttributeSelector" t
  | unexpectedInAttribute t => about "UnexpectedTokenInAttributeSelector" t
  | badAttributeValue t => about "BadValueInAttr" t
  | barExpectedInAttribute t => about "ExpectedBarInAttr" t
  | badQualifiedAttribute t => about "InvalidQualNameInAttr" t
  | badQualifiedName t => about "ExplicitNamespaceUnexpectedToken" t
where
  about (name : String) (t : Token) : Option String :=
    some (unexpectedFault (Token.wrap "" name (t.described "    ")))

end Pagewalk.Selector

/-- The alternatives of a selector. -/
abbrev Pagewalk.Selector := List Pagewalk.Selector.Chain
