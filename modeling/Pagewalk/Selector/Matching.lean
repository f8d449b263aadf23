import Pagewalk.Document.Element
import Pagewalk.Selector.Basic

/-!
# Matching

An element matches a selector when it matches one of its chains, and a chain when it meets the conditions of the
last compound and some element in the place that the combinator names matches the chain before it. Templates are
borders: what stands right in one has no element above it.
-/

namespace Pagewalk

open Markup

namespace Element

/-- The elements above in order, nearest first, up to the root or to a template's content. -/
def ancestorsIn : Trail → List Element
  | [] => []
  | ⟨place, .element data kids⟩ :: above => ⟨data, kids, place, above⟩ :: ancestorsIn above
  | ⟨_, .fragment _⟩ :: _ => []
  | ⟨_, .text _⟩ :: _ => []
  | ⟨_, .comment _⟩ :: _ => []

/-- The elements above, nearest first. -/
def ancestors (e : Element) : List Element := ancestorsIn e.above

/-- The element stands right under the document. -/
def isRoot (e : Element) : Bool := e.above.isEmpty && e.place == 0

/-- The element has neither an element nor a text as its child. -/
def isEmpty (e : Element) : Bool :=
  e.kids.all fun
    | .element .. => false
    | .text _ => false
    | .comment _ => true
    | .fragment _ => true

mutual

/-- The elements that child links lead to from a node, the node included; templates are not entered. -/
def reachable (above : Trail) (place : Nat) : Node → List Element
  | .element data kids =>
    ⟨data, kids, place, above⟩ :: reachableIn (⟨place, .element data kids⟩ :: above) 0 kids
  | .fragment _ => []
  | .text _ => []
  | .comment _ => []

/-- The elements that child links lead to from siblings, these included. -/
def reachableIn (above : Trail) (place : Nat) : List Node → List Element
  | [] => []
  | n :: ns => reachable above place n ++ reachableIn above (place + 1) ns

end

/-- The elements below an element that child links lead to. -/
def below (e : Element) : List Element := reachableIn e.trail 0 e.kids

end Element

namespace Selector

/-- What a match is relative to: the element that was asked, if any, and the anchor of a relative chain. -/
structure Scope where
  scope? : Option Key
  anchor? : Option Key

/-- Two texts are equal, or equal up to the case of letters. -/
def sameText (caseless : Bool) (a b : List Char) : Bool :=
  if caseless then a.map Char.toLower == b.map Char.toLower else a == b

/-- A text stands somewhere in another. -/
def occursIn (caseless : Bool) (needle : List Char) : List Char → Bool
  | [] => needle.isEmpty
  | c :: cs => sameText caseless ((c :: cs).take needle.length) needle || occursIn caseless needle cs

/-- A value compares with a wanted text. -/
def Comparison.holds (c : Comparison) (caseless : Bool) (value wanted : String) : Bool :=
  let v := value.toList
  let w := wanted.toList
  let same := sameText caseless
  match c with
  | .equal => same v w
  | .word => (Text.pieces ' ' (v.map fun c => if Text.isSpace c then ' ' else c)).any (same · w)
  | .dash => same v w || ((v.drop w.length).head? == some '-' && same (v.take w.length) w)
  | .start => v.length ≥ w.length && same (v.take w.length) w
  | .tail => v.length ≥ w.length && same (v.drop (v.length - w.length)) w
  | .part => occursIn caseless w v

/-- The element is of ordinary markup. -/
def isHtml (e : Element) : Bool := e.data.name.space == .html

/-- Capitals do not count in the values of this element. -/
def LetterCase.isCaseless (l : LetterCase) (e : Element) : Bool :=
  match l with
  | .exact => false
  | .ignored => true
  | .ignoredInHtml => isHtml e

/-- An element has an attribute that passes a test. -/
def AttributeTest.holds (t : AttributeTest) (e : Element) : Bool :=
  let name := if isHtml e then t.lowerName else t.name
  e.data.attributes.any fun a =>
    (t.anySpace || a.name.space == .none) && a.name.name == name &&
      match t.value? with
      | none => true
      | some (c, wanted, letters) => c.holds (letters.isCaseless e) a.value wanted

/-- Two elements have the same name. -/
def sameType (e f : Element) : Bool := e.data.name == f.data.name

/-- The number of an element among its siblings is one of those wanted. A number is not one when its distance from
the offset does not fit thirty-two bits. -/
def Nth.holds (n : Nth) (e : Element) : Bool :=
  let others := if n.fromEnd then e.after else e.before
  let others := if n.ofType then others.filter (sameType e) else others
  let d : Int := (others.length + 1 : Int) - n.offset
  if d > 0x7FFFFFFF then false
  else if n.step = 0 then d == 0
  else d % n.step == 0 && d.tdiv n.step ≥ 0

/-- The elements that stand to an element as a combinator says. -/
def Combinator.candidates (c : Combinator) (e : Element) : List Element :=
  match c with
  | .descendant => e.ancestors
  | .child => e.parent?.toList
  | .next => e.before.head?.toList
  | .later => e.before

/-- The combinator with which a chain begins. -/
def Chain.first : Chain → Option Combinator
  | .compound _ => none
  | .joined left c _ => (Chain.first left).getD c |> some

/-- The elements of which one has to match a chain that begins with an anchor. -/
def relatives (e : Element) (c : Chain) : List Element :=
  match c.first with
  | some .next => e.after.flatMap fun f => f :: f.below
  | some .later => e.after.flatMap fun f => f :: f.below
  | _ => e.below

mutual

/-- An element meets a condition. -/
def Simple.holds (s : Scope) (e : Element) : Simple → Bool
  | .universal => true
  | .noSpace => e.data.name.space == .none
  | .type name lowerName => e.localName == if isHtml e then lowerName else name
  | .id id => e.attribute? "id" == some id
  | .className c => e.classes.contains c
  | .attribute t => t.holds e
  | .root => e.isRoot
  | .empty => e.isEmpty
  | .scope =>
    match s.scope? with
    | some k => e.key == k
    | none => e.isRoot
  | .anchor => s.anchor? == some e.key
  | .nth n => n.holds e
  | .any cs => anyHolds s e cs
  | .none cs => !anyHolds s e cs
  | .has cs => hasSome ⟨s.scope?, some e.key⟩ e cs

/-- An element meets all conditions. -/
def allHold (s : Scope) (e : Element) : List Simple → Bool
  | [] => true
  | p :: ps => Simple.holds s e p && allHold s e ps

/-- An element matches a chain. -/
def Chain.holds (s : Scope) (e : Element) : Chain → Bool
  | .compound ps => allHold s e ps
  | .joined left c ps => allHold s e ps && (c.candidates e).any fun f => Chain.holds s f left

/-- An element matches one of some chains. -/
def anyHolds (s : Scope) (e : Element) : List Chain → Bool
  | [] => false
  | c :: cs => Chain.holds s e c || anyHolds s e cs

/-- Some relative of an element matches one of some chains. -/
def hasSome (s : Scope) (e : Element) : List Chain → Bool
  | [] => false
  | c :: cs => ((relatives e c).any fun f => Chain.holds s f c) || hasSome s e cs

end

end Selector

/-- An element matches a selector; `scope?` is the element that was asked, if one was. -/
def Element.matchesWithin (scope? : Option Key) (s : List Selector.Chain) (e : Element) : Bool :=
  Selector.anyHolds ⟨scope?, none⟩ e s

end Pagewalk
