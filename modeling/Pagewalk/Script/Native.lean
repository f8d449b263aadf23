import Pagewalk.Script.Value

/-!
# Built-in functions

The functions that a realm offers without a script's text, named one by one. Those that a call of another makes
hold what they remember of that call.
-/

namespace Pagewalk.Script

open Text

/-- The kinds of error objects. -/
inductive ErrorKind where
  | error
  | type
  | range
  | malformed
  | reference
  | evaluation
  | address
  /-- Several failures at once. -/
  | aggregate
  deriving DecidableEq, Repr, Inhabited

/-- The name of a kind. -/
def ErrorKind.name : ErrorKind → String
  | error => "Error"
  | type => "TypeError"
  | range => "RangeError"
  | malformed => "SyntaxError"
  | reference => "ReferenceError"
  | evaluation => "EvalError"
  | address => "URIError"
  | aggregate => "AggregateError"

/-- Every kind. -/
def ErrorKind.all : List ErrorKind := [error, type, range, malformed, reference, evaluation, address, aggregate]

/-- What arrays do. -/
inductive ArrayMethod where
  | push
  | pop
  | shift
  | unshift
  | slice
  | splice
  | concat
  | join
  | toText
  | reverse
  | indexOf
  | lastIndexOf
  | includes
  | forEach
  | map
  | filter
  | anyItem
  | everyItem
  | find
  | findIndex
  | findLast
  | findLastIndex
  | reduce
  | reduceRight
  | sort
  | sorted
  | fill
  | copyWithin
  | at
  | flat
  | flatMap
  | reversed
  deriving DecidableEq, Repr, Inhabited

/-- What texts do. -/
inductive TextMethod where
  | charAt
  | charCodeAt
  | codePointAt
  | indexOf
  | lastIndexOf
  | includes
  | startsWith
  | endsWith
  | slice
  | substring
  | split
  | lower
  | upper
  | trim
  | trimStart
  | trimEnd
  | concat
  | repeated
  | replace
  | padStart
  | padEnd
  | toText
  | at
  | compare
  | replaceAll
  deriving DecidableEq, Repr, Inhabited

/-- The functions of numbers. -/
inductive MathFunction where
  | floor
  | ceil
  | round
  | trunc
  | abs
  | sign
  | sqrt
  | cbrt
  | exp
  | expLessOne
  | log
  | logAboveOne
  | log2
  | log10
  | sin
  | cos
  | tan
  | asin
  | acos
  | atan
  | sinh
  | cosh
  | tanh
  | asinh
  | acosh
  | atanh
  /-- The nearest number of single width. -/
  | single
  | leadingZeroBits
  | max
  | min
  | pow
  | atan2
  | hypot
  | multiplyWords
  deriving DecidableEq, Repr, Inhabited

/-- What can be read of a node. -/
inductive NodeProperty where
  | nodeType
  | nodeName
  | localName
  | tagName
  | ownerDocument
  | parentNode
  | parentElement
  | childNodes
  | children
  | childElementCount
  | firstChild
  | lastChild
  | firstElementChild
  | lastElementChild
  | nextSibling
  | previousSibling
  | nextElementSibling
  | previousElementSibling
  | id
  | className
  | classList
  | attributes
  | textContent
  | innerText
  | data
  | nodeValue
  | outerHTML
  | innerHTML
  deriving DecidableEq, Repr, Inhabited

/-- What nodes do. -/
inductive NodeMethod where
  | getAttribute
  | hasAttribute
  | getAttributeNames
  | querySelectorAll
  | querySelector
  | getElementsByTagName
  | getElementsByClassName
  | matches
  | closest
  | contains
  | hasChildNodes
  | addEventListener
  | removeEventListener
  | dispatchEvent
  | toData
  | toText
  deriving DecidableEq, Repr, Inhabited

/-- What the class list of an element offers. -/
inductive ClassListPart where
  | length
  | value
  | item
  | contains
  deriving DecidableEq, Repr, Inhabited

/-- The functions that read the document by numbers of nodes. -/
inductive Bridge where
  | nodeType
  | localName
  | nodeName
  | data
  | parent
  | children
  | sibling
  | attribute
  | attributes
  | textContent
  | markup
  | query
  | matches
  | byId
  | byTag
  | byClass
  | title
  deriving DecidableEq, Repr, Inhabited

/-- What can be read of the document beside what nodes offer. -/
inductive DocumentPart where
  | root
  | head
  | body
  | title
  deriving DecidableEq, Repr, Inhabited

/-- What the functions of objects do. -/
inductive ObjectFunction where
  | make
  | keys
  | values
  | entries
  | assign
  | create
  | define
  | defineAll
  | parent
  | setParent
  | names
  | same
  /-- Closes an object, and keeps its values as they are if it is to be frozen. -/
  | close (frozen : Bool)
  | isClosed (frozen : Bool)
  /-- Lets an object take no more properties. -/
  | seal
  | isOpen
  | description
  | descriptions
  | ofEntries
  | owns
  | hasOwn
  | isSeen
  | text
  | localText
  | value
  | isParentOf
  /-- What an object inherits from, read and set as a property. -/
  | parentProperty
  | setParentProperty
  | defineAccessor (isGetter : Bool)
  | accessor (isGetter : Bool)
  deriving DecidableEq, Repr, Inhabited

/-- What functions do. -/
inductive FunctionMethod where
  | call
  | apply
  | bind
  | text
  deriving DecidableEq, Repr, Inhabited

/-- What a number may be checked for. -/
inductive NumberCheck where
  | finite
  | whole
  /-- It is whole, and no other is taken for it. -/
  | safe
  deriving DecidableEq, Repr, Inhabited

/-- The functions of numbers and truth values. -/
inductive SimpleFunction where
  | parseInt
  | parseFloat
  | isNaN
  | isFinite
  | numberMake
  | numberCheck (kind : NumberCheck)
  | numberText
  /-- The text without an exponent. -/
  | numberPlainText
  | numberValue
  | numberFixed
  | numberExponential
  | numberPrecise
  | boolMake
  | boolText
  | boolValue
  deriving DecidableEq, Repr, Inhabited

/-- A promise with what settles it: one of the realm's own, or an object of any maker with two functions. -/
inductive Capability where
  | own (promise : Ref)
  | made (promise resolve reject : Value)
  deriving Repr, Inhabited

/-- What becomes of an awaited value among several. -/
inductive Gathering where
  /-- It is one of the values. -/
  | value
  /-- It is told with how it came. -/
  | outcome (ok : Bool)
  /-- It is one of the reasons of a failure. -/
  | reason
  deriving DecidableEq, Repr, Inhabited

/-- What can be read of a date. -/
inductive DatePart where
  | year
  | month
  | date
  | day
  | hours
  | minutes
  | seconds
  | milliseconds
  | offset
  deriving DecidableEq, Repr, Inhabited

/-- How a date is written. -/
inductive DateForm where
  /-- In figures, as data are written. -/
  | figures
  /-- With the names of day and month. -/
  | words
  /-- The day alone, in words. -/
  | dayWords
  /-- The time of day alone. -/
  | timeWords
  /-- In words, the day before the month. -/
  | common
  deriving DecidableEq, Repr, Inhabited

/-- The functions of promises. -/
inductive PromiseFunction where
  | make
  | resolve
  | reject
  | all
  | allSettled
  | any
  | race
  | andThen
  | orElse
  | finish
  /-- Settles a promise, unless the cell says that this was done. -/
  | settle (promise : Ref) (cell : Nat) (ok : Bool)
  /-- Takes the two functions that settle what a maker makes, and keeps them in an object. -/
  | receive (holder : Ref)
  /-- Takes one of several awaited values; the cells say whether it came and how many are awaited. -/
  | gather (way : Gathering) (values : Ref) (place taken left : Nat) (whole : Capability)
  /-- Calls a function and then passes on how a promise was settled. -/
  | afterwards (f maker : Value) (ok : Bool)
  /-- Passes on a value, or throws it. -/
  | passOn (v : Value) (ok : Bool)
  deriving Repr, Inhabited

/-- The functions of dates. -/
inductive DateFunction where
  | make
  | now
  | ofParts
  | read
  | value
  | part (p : DatePart)
  | text (form : DateForm)
  | data
  deriving DecidableEq, Repr, Inhabited

/-- The functions of a script's surroundings. -/
inductive EnvironmentFunction where
  /-- Answers nothing. -/
  | idle
  /-- Answers true. -/
  | agree
  /-- Answers an empty array. -/
  | noItems
  /-- Writes to the console at a level. -/
  | console (level : String)
  | setTimer (repeats : Bool)
  | clearTimer
  | animationFrame
  /-- Calls a function with the time. -/
  | frame (f : Value)
  /-- Evaluates a text. -/
  | perform (source : CodeUnits)
  | microtask
  /-- Calls a function without arguments. -/
  | invoke (f : Value)
  | now
  | matchMedia
  /-- Runs the timer that is due first. -/
  | runTimer
  /-- Begins an evaluation. -/
  | begin
  /-- Records how an evaluation ended. -/
  | settle (state : Ref) (ok : Bool)
  /-- Writes a value as data. -/
  | dataText
  deriving Repr, Inhabited

/-- The functions by which scripts see nodes. -/
inductive NodeFunction where
  | make
  | wrap
  | get (p : NodeProperty)
  | method (m : NodeMethod)
  /-- Refuses to change the document. -/
  | refuse (what : String)
  | classList (element : Value) (part : ClassListPart)
  | document (part : DocumentPart)
  | elementById
  | install
  | locationText
  /-- A name is not empty. -/
  | isFullName
  /-- A place among names and values is that of a name. -/
  | isPlaceOfName
  /-- Joins a name to the value that follows it. -/
  | entry (flat : Value)
  /-- The name of an attribute. -/
  | attributeName
  /-- An element has one of some names. -/
  | hasName (names : Value)
  deriving Repr, Inhabited

/-- A built-in function. -/
inductive Native where
  /-- Does nothing. -/
  | nothing
  | evaluate
  | object (f : ObjectFunction)
  | functionMake
  | function (m : FunctionMethod)
  /-- Refuses to tell who calls a function. -/
  | refuseCaller
  | arrayMake
  | arrayCheck
  | arrayOf
  | arrayFrom
  | array (m : ArrayMethod)
  | textMake
  | fromCharCode
  | fromCodePoint
  | text (m : TextMethod)
  | simple (f : SimpleFunction)
  | math (f : MathFunction)
  | jsonRead
  | jsonWrite
  /-- Reads a text as it stands in an address, of which it may be the whole. -/
  | readAddress (whole : Bool)
  /-- Writes a text into an address. -/
  | writeAddress (whole : Bool)
  | errorMake (kind : ErrorKind)
  | errorText
  | promise (f : PromiseFunction)
  | date (f : DateFunction)
  | bridge (b : Bridge)
  | consoleWrite
  | environment (f : EnvironmentFunction)
  | node (f : NodeFunction)
  deriving Repr, Inhabited

/-! ### Functions that are like those of scripts -/

/-- How many values a function of the surroundings keeps while it runs. -/
def EnvironmentFunction.registers : EnvironmentFunction → Nat
  | console _ => 3
  | setTimer _ => 3
  | clearTimer => 3
  | matchMedia => 1
  | runTimer => 5
  | begin => 4
  | settle .. => 1
  | dataText => 3
  | _ => 0

/-- How many values a method of nodes keeps while it runs. -/
def NodeMethod.registers : NodeMethod → Nat
  | getAttributeNames => 0
  | hasChildNodes => 0
  | toData => 0
  | toText => 0
  | closest => 3
  | contains => 2
  | addEventListener => 3
  | removeEventListener => 4
  | dispatchEvent => 4
  | _ => 1

/-- How many values a function of nodes keeps while it runs. -/
def NodeFunction.registers : NodeFunction → Nat
  | make => 1
  | wrap => 2
  | get .parentNode => 1
  | get .parentElement => 1
  | get .lastChild => 1
  | get .lastElementChild => 1
  | method m => m.registers
  | classList _ .item => 1
  | classList _ .contains => 1
  | elementById => 1
  | install => 3
  | isFullName => 1
  | isPlaceOfName => 2
  | entry _ => 2
  | attributeName => 1
  | hasName _ => 1
  | _ => 0

/-- How many values a built-in function keeps in a frame of its own; `none` if it has no frame. One that has a frame
is in all like a function of a script: it has a `this` and makes objects. -/
def Native.registers? : Native → Option Nat
  | environment f => some f.registers
  | node f => some f.registers
  | _ => none

end Pagewalk.Script
