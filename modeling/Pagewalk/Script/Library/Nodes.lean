import Pagewalk.Script.Library.Texts

/-!
# What nodes and the document do

Scripts see a node through a wrapper, an object that knows the number of its node. Wrappers are kept in an array by
these numbers, so that a node has one; the array also has the items that scripts give to all arrays. The document has
a wrapper of its own, with the number -1. All that would change the document is refused.
-/

namespace Pagewalk.Script

open Text

/-! ### Numbers of nodes -/

/-- The number that an argument means: a whole number from zero up, in 64 bits, is that of a node, and anything
else means the document. -/
def nodeNumber? (x : Float) : Option Nat :=
  if Number.isCount x && !x.isInf then some x.toUInt64.toNat else none

/-- The node that an argument means. -/
def Kernel.scopeArgument (k : Kernel) (args : List Value) (i : Nat) : Run (Option Nat) :=
  match args[i]? with
  | some v => return nodeNumber? (← k.toNumber v)
  | none => return none

/-- The text of an argument, lone halves escaped; a missing one is empty. -/
def Kernel.textArgument (k : Kernel) (args : List Value) (i : Nat) : Run String :=
  match args[i]? with
  | some v => return (← k.toText v).toText
  | none => return ""

/-- A fault of a reading by number as an error that is thrown. -/
def ofNodeFault {α : Type} : Except NodeFault α → Run α
  | .ok a => return a
  | .error (.noNode i) => fail .range ("no node at index " ++ toString i)
  | .error (.noElement i) => typeFault ("node " ++ toString i ++ " is not an element")
  | .error (.badSelector _ .panic) => throw .broken
  | .error (.badSelector selector cause) => do
    note ⟨.debug, .scriptDocument, cause.display⟩
    fail .malformed ("'" ++ selector ++ "' is not a valid selector")

/-- A number of a node as a value; -1 where there is none. -/
def numberValue (i : Option Nat) : Value := i.elim (.number (-1.0)) .nat

/-- A text as a value; null where there is none. -/
def textOrNull (s : Option String) : Value := s.elim .null .string

/-- The document whose script runs. -/
def page : Run NumberedDocument := do
  match ← (⟨.page?, .page?⟩ : Run (Option NumberedDocument)) with
  | some d => return d
  | none => fail .error "no document is attached to this realm"

/-- What the functions do that read the document by numbers. -/
def Bridge.run (k : Kernel) (b : Bridge) (args : List Value) : Run Value := do
  let flag (i : Nat) : Bool := (argument args i).isTruthy
  match b with
  | .nodeType =>
    let scope ← k.scopeArgument args 0
    return .nat (← ofNodeFault ((← page).nodeType scope))
  | .localName =>
    let scope ← k.scopeArgument args 0
    return textOrNull (← ofNodeFault ((← page).localName? scope))
  | .nodeName =>
    let scope ← k.scopeArgument args 0
    return .string (← ofNodeFault ((← page).nodeName scope))
  | .data =>
    let scope ← k.scopeArgument args 0
    return textOrNull (← ofNodeFault ((← page).data? scope))
  | .parent =>
    let scope ← k.scopeArgument args 0
    return numberValue (← ofNodeFault ((← page).parent scope))
  | .children =>
    let scope ← k.scopeArgument args 0
    makeArray ((← ofNodeFault ((← page).children scope (flag 1))).map .nat)
  | .sibling =>
    let scope ← k.scopeArgument args 0
    let forward ← match args[1]? with
      | some v => pure (decide ((← k.toNumber v) > 0.0))
      | none => pure false
    return numberValue (← ofNodeFault ((← page).sibling scope forward (flag 2)))
  | .attribute =>
    let scope ← k.scopeArgument args 0
    let name ← k.textArgument args 1
    return textOrNull (← ofNodeFault ((← page).attribute? scope name))
  | .attributes =>
    let scope ← k.scopeArgument args 0
    makeArray ((← ofNodeFault ((← page).attributes scope)).flatMap fun (n, v) => [.string n, .string v])
  | .textContent =>
    let scope ← k.scopeArgument args 0
    return textOrNull (← ofNodeFault ((← page).text? scope))
  | .markup =>
    let scope ← k.scopeArgument args 0
    return .string (← ofNodeFault ((← page).markup scope (flag 1)))
  | .query =>
    let scope ← k.scopeArgument args 0
    let selector ← k.textArgument args 1
    makeArray ((← ofNodeFault ((← page).query scope selector (flag 2))).map .nat)
  | .matches =>
    let scope ← k.scopeArgument args 0
    let selector ← k.textArgument args 1
    return .bool (← ofNodeFault ((← page).isMatch scope selector))
  | .byId =>
    let id ← k.textArgument args 0
    return numberValue ((← page).byId id)
  | .byTag =>
    let scope ← k.scopeArgument args 0
    let name ← k.textArgument args 1
    makeArray ((← ofNodeFault ((← page).byTag scope name)).map .nat)
  | .byClass =>
    let scope ← k.scopeArgument args 0
    let names ← k.textArgument args 1
    makeArray ((← ofNodeFault ((← page).byClass scope names)).map .nat)
  | .title => return .string (← page).document.title

/-! ### Asking the document -/

/-- The key under which a wrapper shows its number. -/
def numberKey : Name := "__index"

/-- The key under which a wrapper keeps its listeners. -/
def listenersKey : Name := "__listeners"

/-- The first value, or the second if the first counts as false. -/
def Value.orElse (v w : Value) : Value := if v.isTruthy then v else w

/-- Asks the document by numbers of nodes. -/
def Kernel.ask (k : Kernel) (what : Name) (args : List Value) : Run Value :=
  k.invoke (.object Intrinsic.bridge.ref) what args

/-- Asks the document about the node of a wrapper. -/
def Kernel.askOf (k : Kernel) (this : Value) (what : Name) (more : List Value) : Run Value := do
  k.ask what ((← k.propertyOf this numberKey) :: more)

/-- The text of a value as the maker of texts gives it. -/
def Kernel.asText (k : Kernel) (v : Value) : Run Value := k.callGlobal "String" [v]

/-- A value says of itself that it is an element. -/
def Kernel.isElement (k : Kernel) (v : Value) : Run Bool := do
  return (← k.propertyOf v "nodeType").strictEq (.number 1.0)

/-- A value is zero or above. -/
def Kernel.isPlace (k : Kernel) (v : Value) : Run Bool := do
  return (← k.binary .greaterOrEqual v (.number 0.0)).isTruthy

/-- The first item, or null. -/
def Kernel.firstOf (k : Kernel) (v : Value) : Run Value := do
  return (← k.readIndex v (.number 0.0)).orElse .null

/-- The last item, or null. -/
def Kernel.lastOf (k : Kernel) (v : Value) : Run Value := do
  let i ← k.binary .subtract (← k.propertyOf v lengthKey) (.number 1.0)
  return (← k.readIndex v i).orElse .null

/-- The document as a script sees it. -/
def documentValue : Run Value := return (← realm).document

/-! ### Wrappers -/

/-- The key under which the wrapper of the node of a number is kept: the digits of a whole number that is exact. -/
def Kernel.cacheKey (k : Kernel) (number : Value) : Run Name :=
  match number with
  | .number x =>
    match nodeNumber? x with
    | some i => if i < 9007199254740992 then return Obj.indexKey i else k.toKey number
    | none => k.toKey number
  | v => k.toKey v

/-- The wrapper of the node of a number; below zero there is none. It is made when there is none in the array that keeps
them, which has items from its parents too. -/
def Kernel.wrapNumber (k : Kernel) (number : Value) : Run Value := do
  if (← k.binary .less number (.number 0.0)).isTruthy then return .null
  let kept ← k.property Intrinsic.cache.ref (← k.cacheKey number)
  if kept.isTruthy then return kept
  let made ← k.construct (.object Intrinsic.nodeMaker.ref) [number]
  k.put Intrinsic.cache.ref (← k.cacheKey number) made false
  return made

/-- Calls the function that gives the wrapper of a node. -/
def Kernel.wrap (k : Kernel) (number : Run Value) : Run Value := do
  k.apply (.object Intrinsic.wrapper.ref) .undefined [← holding 2 number]

/-- Calls the function that gives the wrappers of several nodes. -/
def Kernel.wrapAll (k : Kernel) (numbers : Run Value) : Run Value := do
  let numbers ← holding 2 numbers
  asCall 1 1 (k.invoke numbers "map" [.object Intrinsic.wrapper.ref])

/-- Throws the error that refuses a change of the document. -/
def Kernel.refuse (k : Kernel) (what : String) : Run Value := do
  let message := "NoModificationAllowedError: " ++ what ++ " is not allowed, the document is read-only"
  let e ← asCall 1 1 do k.construct (← k.global "Error") [.string message]
  throwValue e

/-! ### Classes and attributes -/

/-- The pieces of a text between blanks. -/
def piecesBetweenBlanks (s : CodeUnits) : List Value :=
  let whole := s.val.toList.foldr (fun u (acc : List (List UInt16) × Bool) =>
    if isBlankUnit u then (if acc.2 then acc else ([] :: acc.1, true))
    else
      match acc.1 with
      | piece :: rest => ((u :: piece) :: rest, false)
      | [] => ([[u]], false)) ([[]], false)
  whole.1.map fun us => .text ⟨us.toArray⟩

/-- Splits a value at blanks, by the method that texts have for it. -/
def Kernel.splitAtBlanks (k : Kernel) (v : Value) : Run Value := do
  let f ← k.propertyOf v "split"
  let isOwn ← match f with
    | .object r =>
      match (← object r).shape with
      | .native (.text .split) _ => pure true
      | _ => pure false
    | _ => pure false
  -- Scripts can put a method of their own in its place, which is called then.
  match v with
  | .text s => if isOwn then return ← makeArray (piecesBetweenBlanks s)
  | _ => pure ()
  k.apply f v [.object (← makeObject)]

/-- The classes of an element as its class list has them. -/
def Kernel.classesOf (k : Kernel) (element : Value) : Run Value :=
  asCall 1 2 do
    let v ← k.invoke element "getAttribute" [.string "class"]
    if !v.isTruthy then return ← makeArray []
    k.invoke (← k.splitAtBlanks v) "filter" [← makeNative (.node .isFullName) "" 1]

/-- An accessor that can be seen, read by a built-in function. -/
def visibleGetter (f : NodeFunction) (name : String) : Run Property := do
  return .accessor (← makeNative (.node f) name 0).ref? none true true

/-- Gives an object a built-in function as a property that can be seen. -/
def giveFunction (r : Ref) (key : String) (f : NodeFunction) (name : String) (arity : Nat) : Run Unit := do
  defineProperty r (CodeUnits.ofString key) (.plain (← makeNative (.node f) name arity))

/-- The class list of an element. -/
def makeClassList (element : Value) : Run Value := do
  let r ← makeObject
  defineProperty r lengthKey (← visibleGetter (.classList element .length) "length")
  defineProperty r "value" (← visibleGetter (.classList element .value) "value")
  giveFunction r "item" (.classList element .item) "item" 1
  giveFunction r "contains" (.classList element .contains) "contains" 1
  for part in ["add", "remove", "toggle"] do
    giveFunction r part (.refuse ("classList." ++ part)) "" 0
  return .object r

/-- What the class list of an element answers. -/
def Kernel.classListPart (k : Kernel) (element : Value) (part : ClassListPart) (args : List Value) : Run Value := do
  match part with
  | .length => k.propertyOf (← k.classesOf element) lengthKey
  | .value => return (← k.invoke element "getAttribute" [.string "class"]).orElse .emptyText
  | .item => return (← k.readIndex (← k.classesOf element) (argument args 0)).orElse .null
  | .contains =>
    let classes ← k.classesOf element
    let name ← holding 2 (k.asText (argument args 0))
    return .bool (← k.isPlace (← k.invoke classes "indexOf" [name]))

/-- The name at a place among names and values, with the value that follows it. -/
def Kernel.entryAt (k : Kernel) (flat name place : Value) : Run Value := do
  let r ← makeObject
  defineProperty r nameKey (.plain name)
  let i ← k.binary .add (← k.binary .multiply place (.number 2.0)) (.number 1.0)
  defineProperty r "value" (.plain (← k.readIndex flat i))
  return .object r

/-! ### What can be read of a node -/

/-- The value of an attribute by the method for it; what counts as false becomes the empty text. Only elements have
it. -/
def Kernel.attributeText (k : Kernel) (this : Value) (name : String) : Run Value := do
  if ← k.isElement this then return (← k.invoke this "getAttribute" [.string name]).orElse .emptyText
  else return .undefined

/-- What can be read of a node. -/
def Kernel.nodeProperty (k : Kernel) (q : NodeProperty) (this : Value) : Run Value := do
  let near (way : Float) (elementsOnly : Bool) : Run Value :=
    k.wrap (k.askOf this "sibling" [.number way, .bool elementsOnly])
  match q with
  | .nodeType => k.askOf this "nodeType" []
  | .nodeName => k.askOf this "nodeName" []
  | .localName => k.askOf this "localName" []
  | .tagName => if ← k.isElement this then k.askOf this "nodeName" [] else return .undefined
  | .ownerDocument =>
    let d ← documentValue
    return if this.strictEq d then .null else d
  | .parentNode =>
    let d ← documentValue
    if this.strictEq d then return .null
    let parent ← k.askOf this "parent" []
    if (← k.binary .less parent (.number 0.0)).isTruthy then return d
    k.wrap (return parent)
  | .parentElement =>
    let parent ← k.propertyOf this "parentNode"
    if !parent.isTruthy then return .null
    if ← k.isElement parent then return parent else return .null
  | .childNodes => k.wrapAll (k.askOf this "children" [.bool false])
  | .children => k.wrapAll (k.askOf this "children" [.bool true])
  | .childElementCount => k.propertyOf (← k.askOf this "children" [.bool true]) lengthKey
  | .firstChild => k.firstOf (← k.propertyOf this "childNodes")
  | .lastChild => k.lastOf (← k.propertyOf this "childNodes")
  | .firstElementChild => k.firstOf (← k.propertyOf this "children")
  | .lastElementChild => k.lastOf (← k.propertyOf this "children")
  | .nextSibling => near 1.0 false
  | .previousSibling => near (-1.0) false
  | .nextElementSibling => near 1.0 true
  | .previousElementSibling => near (-1.0) true
  | .id => k.attributeText this "id"
  | .className => k.attributeText this "class"
  | .classList => makeClassList this
  | .attributes =>
    let flat ← k.askOf this "attributes" []
    let names ← k.invoke flat "filter" [← makeNative (.node .isPlaceOfName) "" 2]
    k.invoke names "map" [← makeNative (.node (.entry flat)) "" 2]
  | .textContent => k.askOf this "textContent" []
  | .innerText => k.askOf this "textContent" []
  | .data => k.askOf this "data" []
  | .nodeValue => k.askOf this "data" []
  | .outerHTML => k.askOf this "html" [.bool true]
  | .innerHTML => k.askOf this "html" [.bool false]

/-! ### What nodes do -/

/-- The first of a node and those above it that a selector matches, as long as they are elements; at most so many are
asked. -/
def Kernel.closestFrom (k : Kernel) (selector : Value) : Nat → Value → Run Value
  | 0, _ => return .null
  | n + 1, node => do
    if !node.isTruthy then return .null
    if !(← k.isElement node) then return .null
    if (← k.askOf node "matches" [selector]).isTruthy then return node
    countIteration
    k.closestFrom selector n (← k.propertyOf node "parentElement")

/-- A node stands in another or is it; at most so many above it are asked. -/
def Kernel.leadsTo (k : Kernel) (this : Value) : Nat → Value → Run Bool
  | 0, _ => return false
  | n + 1, node => do
    if !node.isTruthy then return false
    if node.strictEq this then return true
    countIteration
    k.leadsTo this n (← k.propertyOf node "parentNode")

/-- The text of an event type; what counts as false gives the empty text. -/
def Kernel.eventType (k : Kernel) (v : Value) : Run Value := k.asText (v.orElse .emptyText)

/-- The listeners for a type, if there are any. -/
def Kernel.listeners (k : Kernel) (this type : Value) : Run Value := do
  let all ← k.propertyOf this listenersKey
  if !all.isTruthy then return all
  -- The property is read again, so what scripts put there may answer otherwise the second time.
  let all ← k.propertyOf this listenersKey
  k.readIndex all (← holding 1 (k.eventType type))

/-- Calls the functions of a list from an index on with an event; at most so many. -/
def Kernel.callEach (k : Kernel) (list this event : Value) : Nat → Nat → Run Unit
  | 0, _ => return ()
  | n + 1, i => do
    if (← k.binary .less (.nat i) (← k.propertyOf list lengthKey)).isTruthy then
      discard <| k.invoke (← k.readIndex list (.nat i)) "call" [this, event]
      countIteration
      k.callEach list this event n (i + 1)
    else return ()

/-- Adds a listener for a type. -/
def Kernel.addListener (k : Kernel) (this type listener : Value) : Run Value := do
  let key ← k.eventType type
  if !key.isTruthy || !(← isCallable listener) then return .undefined
  if !(← k.propertyOf this listenersKey).isTruthy then
    let empty ← holding 2 do k.invoke (← k.global "Object") "create" [.null]
    k.putOf this listenersKey empty false
  if !(← k.readIndex (← k.propertyOf this listenersKey) key).isTruthy then
    let all ← k.propertyOf this listenersKey
    let list ← makeArray []
    if all.isNullish then typeFault "cannot convert 'null' or 'undefined' to object"
    k.putOf all (← k.toKey key) list false
  discard <| k.invoke (← k.readIndex (← k.propertyOf this listenersKey) key) "push" [listener]
  return .undefined

/-- What nodes do. -/
def Kernel.nodeMethod (k : Kernel) (m : NodeMethod) (this : Value) (args : List Value) : Run Value := do
  let first := argument args 0
  let bound := (← read).config.loopLimit + 3
  let query (what : Name) (more : List Value) : Run Value := do
    let text ← holding 3 (k.asText first)
    k.askOf this what (text :: more)
  match m with
  | .getAttribute => if ← k.isElement this then query "attribute" [] else return .null
  | .hasAttribute => return .bool (!(← k.invoke this "getAttribute" [first]).strictEq .null)
  | .getAttributeNames =>
    k.invoke (← k.propertyOf this "attributes") "map" [← makeNative (.node .attributeName) "" 1]
  | .querySelectorAll => k.wrapAll (query "query" [.bool false])
  | .querySelector => k.firstOf (← k.wrapAll (query "query" [.bool true]))
  | .getElementsByTagName => k.wrapAll (query "byTag" [])
  | .getElementsByClassName => k.wrapAll (query "byClass" [])
  | .matches => query "matches" []
  | .closest =>
    let selector ← k.asText first
    k.closestFrom selector bound this
  | .contains => return .bool (← k.leadsTo this bound first)
  | .hasChildNodes =>
    let children ← k.askOf this "children" [.bool false]
    k.binary .greater (← k.propertyOf children lengthKey) (.number 0.0)
  | .addEventListener => k.addListener this first (argument args 1)
  | .removeEventListener =>
    let list ← k.listeners this first
    if !list.isTruthy then return .undefined
    let i ← k.invoke list "indexOf" [argument args 1]
    if ← k.isPlace i then discard <| k.invoke list "splice" [i, .number 1.0]
    return .undefined
  | .dispatchEvent =>
    let event ← if first.isTruthy then pure first else pure (.object (← makeObject))
    let all ← k.propertyOf this listenersKey
    if all.isTruthy then
      let list ← k.listeners this (← k.propertyOf event "type")
      -- The list is copied, so that listeners added meanwhile are not called.
      if list.isTruthy then k.callEach (← k.invoke list "slice" []) this event bound 0
    return .bool true
  | .toData =>
    let kind ← k.propertyOf this "nodeType"
    if kind.strictEq (.number 1.0) then k.propertyOf this "outerHTML"
    else if kind.strictEq (.number 9.0) then return .string "#document"
    else k.propertyOf this "data"
  | .toText =>
    let name ← if ← k.isElement this then pure (Value.string "HTMLElement") else k.propertyOf this "nodeName"
    k.binary .add (← k.binary .add (.string "[object ") name) (.string "]")

/-! ### The document -/

/-- The first child of the root that has one of some names. -/
def Kernel.rootChild (k : Kernel) (names : List String) : Run Value := do
  let names ← makeArray (names.map Value.string)
  asCall 1 1 do
    let root ← k.wrap (return .number 0.0)
    if !root.isTruthy then return .null
    let hasName ← makeNative (.node (.hasName names)) "" 1
    k.firstOf (← k.invoke (← k.propertyOf root "children") "filter" [hasName])

/-- What can be read of the document. -/
def Kernel.documentPart (k : Kernel) (part : DocumentPart) : Run Value :=
  match part with
  | .root => k.wrap (return .number 0.0)
  | .head => k.rootChild ["head"]
  | .body => k.rootChild ["body", "frameset"]
  | .title => k.ask "title" []

/-- The parts of an address that scripts see. -/
def addressKeys : List String :=
  ["href", "protocol", "host", "hostname", "port", "pathname", "search", "hash", "origin"]

/-- The address of the document as an object, from one that has its parts. -/
def Kernel.makeLocation (k : Kernel) (parts : Value) : Run Value := do
  let r ← makeObject
  for key in addressKeys do
    defineProperty r (CodeUnits.ofString key) (.plain (← k.propertyOf parts (CodeUnits.ofString key)))
  giveFunction r "assign" (.refuse "location.assign") "" 0
  giveFunction r "replace" (.refuse "location.replace") "" 0
  defineProperty r "reload" (.plain (← makeIdle "reload"))
  giveFunction r "toString" .locationText "toString" 0
  return .object r

/-- Installs a document, which has an address and a type. -/
def Kernel.install (k : Kernel) (address doctype : Value) : Run Unit := do
  let d ← k.construct (.object Intrinsic.nodeMaker.ref) [.number (-1.0)]
  modifyRealm fun m => { m with document := d }
  let r ← needObject d "Expected an object"
  let location ← k.makeLocation address
  for (name, part) in
      [("documentElement", DocumentPart.root), ("head", .head), ("body", .body), ("title", .title)] do
    let get ← makeNative (.node (.document part)) "get" 0
    let put ← match part with
      | .title => pure (← makeNative (.node (.refuse "setting title")) "" 0).ref?
      | _ => pure none
    defineProperty r (CodeUnits.ofString name) (.accessor get.ref? put true false)
  let give (key : String) (v : Value) : Run Unit := k.put r (CodeUnits.ofString key) v false
  let href ← k.propertyOf address "href"
  give "URL" href
  give "documentURI" href
  give "location" location
  give "readyState" (.string "complete")
  give "compatMode" (.string (if doctype.strictEq (.string "html") then "CSS1Compat" else "BackCompat"))
  match doctype with
  | .null => give "doctype" .null
  | name =>
    let t ← makeObject
    defineProperty t nameKey (.plain name)
    defineProperty t "nodeType" (.plain (.number 10.0))
    give "doctype" (.object t)
  give "defaultView" (.object Intrinsic.global.ref)
  giveFunction r "getElementById" .elementById "" 1
  for what in ["createElement", "createTextNode", "createComment"] do
    giveFunction r what (.refuse what) "" 0
  giveFunction r "write" (.refuse "document.write") "" 0
  k.put Intrinsic.global.ref "document" d false
  k.put Intrinsic.global.ref "location" location false

/-! ### All functions of nodes -/

/-- What the functions of nodes do. -/
def Kernel.nodeFunction (k : Kernel) (f : NodeFunction) (this : Value) (args : List Value) : Run Value := do
  let first := argument args 0
  match f with
  | .make =>
    k.putOf this numberKey first false
    k.putOf this "style" (.object (← makeObject)) false
    return .undefined
  | .wrap => k.wrapNumber first
  | .get p => k.nodeProperty p this
  | .method m => k.nodeMethod m this args
  | .refuse what => k.refuse what
  | .classList element part => k.classListPart element part args
  | .document part => k.documentPart part
  | .elementById => k.wrap do k.ask "byId" [← holding 2 (k.asText first)]
  | .install =>
    k.install first (argument args 1)
    return .undefined
  | .locationText => k.propertyOf this "href"
  | .isFullName => k.binary .greater (← k.propertyOf first lengthKey) (.number 0.0)
  | .isPlaceOfName =>
    return .bool ((← k.binary .remainder (argument args 1) (.number 2.0)).strictEq (.number 0.0))
  | .entry flat => k.entryAt flat first (argument args 1)
  | .attributeName => k.propertyOf first nameKey
  | .hasName names =>
    return .bool (← k.isPlace (← k.invoke names "indexOf" [← k.propertyOf first "localName"]))

end Pagewalk.Script
