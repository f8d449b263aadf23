import Pagewalk.Script.Calls
import Pagewalk.Text.Quoted

/-!
# The realm at its start

What a realm holds before any script has run: the intrinsic objects, the makers of objects, the document and the
surroundings of a window. It is built from lists of names with the functions they stand for.
-/

namespace Pagewalk.Script

open Text

/-- The objects of a realm that is being built. -/
abbrev Build := StateM (Array Obj)

namespace Build

/-- Puts an object into the realm. -/
def place (o : Obj) : Build Ref := modifyGet fun os => (os.size, os.push o)

/-- Sets a property. -/
def set (r : Ref) (key : String) (p : Property) : Build Unit :=
  modify fun os => os.modify r (·.setProperty (CodeUnits.ofString key) p)

/-- Puts a plain object into the realm. -/
def plain : Build Ref := place (.ofShape (some Intrinsic.objects.ref) .plain)

/-- Puts a built-in function into the realm; one that has a frame makes objects. -/
def native (n : Native) (name : String) (arity : Nat) : Build Ref := do
  match n.registers? with
  | some _ =>
    let parent ← plain
    let r ← place (makerObject (nativeObject n name arity true) parent)
    modify fun os => os.set! parent (parentObject r)
    return r
  | none => place (nativeObject n name arity false)

/-- Gives an object built-in functions that are not seen when its properties are gone through. -/
def methods (r : Ref) (list : List (String × Nat × Native)) : Build Unit := do
  for (name, arity, n) in list do
    set r name (.hidden (.object (← native n name arity)))

/-- Gives an object the built-in functions of a family, which are not seen either. -/
def family {α : Type} (r : Ref) (n : α → Native) (list : List (String × Nat × α)) : Build Unit :=
  methods r (list.map fun (name, arity, f) => (name, arity, n f))

/-- Gives an object a built-in function under a key, with a name of its own. -/
def visible (r : Ref) (key : String) (n : Native) (name : String) (arity : Nat) : Build Unit := do
  set r key (.plain (.object (← native n name arity)))

/-- A maker of objects under its name. -/
def makerOf (name : String) (arity : Nat) (n : Native) (parent : Ref) : Obj :=
  (nativeObject n name arity true).setProperty parentKey (.data (.object parent) false false false)

/-- Lets the outermost scope and the objects that it makes know a maker. -/
def enter (name : String) (r parent : Ref) : Build Unit := do
  set parent "constructor" (.hidden (.object r))
  set Intrinsic.global.ref name (.hidden (.object r))

/-- Puts a maker of objects into the realm, under its name. -/
def maker (name : String) (arity : Nat) (n : Native) (parent : Ref) : Build Ref := do
  let r ← place (makerOf name arity n parent)
  enter name r parent
  return r

end Build

open Build

/-- What the intrinsic objects are before they have properties. -/
def intrinsicObjects : Array Obj :=
  let plainOf (parent : Option Ref) : Obj := .ofShape parent .plain
  let objects := some Intrinsic.objects.ref
  let errors := some (Intrinsic.errors .error).ref
  let nodes := Intrinsic.nodes.ref
  #[plainOf objects, plainOf none, { nativeObject .nothing "" 0 false with parent := objects },
    .ofShape objects (.array #[] 0), .ofShape objects (.boxed .emptyText), .ofShape objects (.boxed (.number 0.0)),
    .ofShape objects (.boxed (.bool false)), plainOf objects, plainOf objects, plainOf objects,
    plainOf objects, plainOf objects, nativeObject (.node .wrap) "wrap" 1 true,
    makerObject (nativeObject (.node .make) "Node" 1 true) nodes,
    makerOf "Promise" 1 (.promise .make) Intrinsic.promises.ref,
    nativeObject .refuseCaller "" 0 false, plainOf objects, plainOf errors, plainOf errors, plainOf errors,
    plainOf errors, plainOf errors, plainOf errors, plainOf errors,
    .ofShape (some Intrinsic.arrays.ref) (.array #[] 0)]

/-- The functions of the maker of objects. -/
def objectFunctions : List (String × Nat × ObjectFunction) :=
  [("create", 2, .create), ("setPrototypeOf", 2, .setParent), ("getPrototypeOf", 1, .parent),
    ("defineProperty", 3, .define), ("defineProperties", 2, .defineAll), ("assign", 2, .assign), ("is", 2, .same),
    ("keys", 1, .keys), ("values", 1, .values), ("entries", 1, .entries), ("seal", 1, .close false),
    ("isSealed", 1, .isClosed false), ("freeze", 1, .close true), ("isFrozen", 1, .isClosed true),
    ("preventExtensions", 1, .seal), ("isExtensible", 1, .isOpen), ("getOwnPropertyDescriptor", 2, .description),
    ("getOwnPropertyDescriptors", 1, .descriptions), ("getOwnPropertyNames", 1, .names), ("hasOwn", 2, .owns),
    ("fromEntries", 1, .ofEntries)]

/-- What all objects do. -/
def objectMethods : List (String × Nat × ObjectFunction) :=
  [("hasOwnProperty", 1, .hasOwn), ("propertyIsEnumerable", 1, .isSeen), ("toString", 0, .text),
    ("toLocaleString", 0, .localText), ("valueOf", 0, .value), ("isPrototypeOf", 1, .isParentOf),
    ("__defineGetter__", 2, .defineAccessor true), ("__defineSetter__", 2, .defineAccessor false),
    ("__lookupGetter__", 1, .accessor true), ("__lookupSetter__", 1, .accessor false)]

/-- The methods of arrays. -/
def arrayMethods : List (String × Nat × ArrayMethod) :=
  [("at", 1, .at), ("concat", 1, .concat), ("copyWithin", 2, .copyWithin), ("every", 1, .everyItem), ("fill", 1, .fill),
    ("filter", 1, .filter), ("find", 1, .find), ("findIndex", 1, .findIndex), ("findLast", 1, .findLast),
    ("findLastIndex", 1, .findLastIndex), ("flat", 0, .flat), ("flatMap", 1, .flatMap), ("forEach", 1, .forEach),
    ("includes", 1, .includes), ("indexOf", 1, .indexOf), ("join", 1, .join), ("lastIndexOf", 1, .lastIndexOf),
    ("map", 1, .map), ("pop", 0, .pop), ("push", 1, .push), ("reduce", 1, .reduce), ("reduceRight", 1, .reduceRight),
    ("reverse", 0, .reverse), ("shift", 0, .shift), ("slice", 2, .slice), ("some", 1, .anyItem), ("sort", 1, .sort),
    ("splice", 2, .splice), ("toReversed", 0, .reversed), ("toSorted", 1, .sorted), ("toString", 0, .toText),
    ("unshift", 1, .unshift)]

/-- The methods of texts. -/
def textMethods : List (String × Nat × TextMethod) :=
  [("at", 1, .at), ("charAt", 1, .charAt), ("charCodeAt", 1, .charCodeAt), ("codePointAt", 1, .codePointAt),
    ("concat", 1, .concat), ("endsWith", 1, .endsWith), ("includes", 1, .includes), ("indexOf", 1, .indexOf),
    ("lastIndexOf", 1, .lastIndexOf), ("localeCompare", 1, .compare), ("padEnd", 1, .padEnd),
    ("padStart", 1, .padStart), ("repeat", 1, .repeated), ("replace", 2, .replace), ("replaceAll", 2, .replaceAll),
    ("slice", 2, .slice), ("split", 2, .split), ("startsWith", 1, .startsWith), ("substring", 2, .substring),
    ("toLowerCase", 0, .lower), ("toString", 0, .toText), ("toUpperCase", 0, .upper), ("trim", 0, .trim),
    ("trimEnd", 0, .trimEnd), ("trimStart", 0, .trimStart), ("valueOf", 0, .toText)]

/-- The functions of mathematics. -/
def mathFunctions : List (String × Nat × MathFunction) :=
  [("abs", 1, .abs), ("acos", 1, .acos), ("acosh", 1, .acosh), ("asin", 1, .asin), ("asinh", 1, .asinh),
    ("atan", 1, .atan), ("atanh", 1, .atanh), ("atan2", 2, .atan2), ("cbrt", 1, .cbrt), ("ceil", 1, .ceil),
    ("clz32", 1, .leadingZeroBits), ("cos", 1, .cos), ("cosh", 1, .cosh), ("exp", 1, .exp), ("expm1", 1, .expLessOne),
    ("floor", 1, .floor), ("fround", 1, .single), ("hypot", 2, .hypot), ("imul", 2, .multiplyWords), ("log", 1, .log),
    ("log1p", 1, .logAboveOne), ("log10", 1, .log10), ("log2", 1, .log2), ("max", 2, .max), ("min", 2, .min),
    ("pow", 2, .pow), ("round", 1, .round), ("sign", 1, .sign), ("sin", 1, .sin), ("sinh", 1, .sinh),
    ("sqrt", 1, .sqrt), ("tan", 1, .tan), ("tanh", 1, .tanh), ("trunc", 1, .trunc)]

/-- The numbers of mathematics. -/
def mathNumbers : List (String × Float) :=
  [("E", 2.718281828459045), ("LN10", 2.302585092994046), ("LN2", 0.6931471805599453),
    ("LOG10E", 0.4342944819032518), ("LOG2E", 1.4426950408889634), ("PI", 3.141592653589793),
    ("SQRT1_2", 0.7071067811865476), ("SQRT2", 1.4142135623730951)]

/-- The numbers that the maker of numbers holds. -/
def numberLimits : List (String × Float) :=
  [("EPSILON", 2.220446049250313e-16), ("MAX_SAFE_INTEGER", 9007199254740991.0),
    ("MIN_SAFE_INTEGER", -9007199254740991.0), ("MAX_VALUE", 1.7976931348623157e308), ("MIN_VALUE", 5e-324),
    ("NEGATIVE_INFINITY", -1.0 / 0.0), ("POSITIVE_INFINITY", 1.0 / 0.0), ("NaN", 0.0 / 0.0)]

/-- The methods of numbers. -/
def numberMethods : List (String × Nat × SimpleFunction) :=
  [("toExponential", 1, .numberExponential), ("toFixed", 1, .numberFixed), ("toLocaleString", 0, .numberPlainText),
    ("toPrecision", 1, .numberPrecise), ("toString", 1, .numberText), ("valueOf", 0, .numberValue)]

/-- The functions that make promises. -/
def promiseFunctions : List (String × Nat × Native) :=
  [("resolve", 1, .promise .resolve), ("reject", 1, .promise .reject), ("all", 1, .promise .all),
    ("allSettled", 1, .promise .allSettled), ("any", 1, .promise .any), ("race", 1, .promise .race)]

/-- The parts of dates that can be read, by the names of their methods less how these begin. -/
def dateParts : List (String × DatePart) :=
  [("FullYear", .year), ("Month", .month), ("Date", .date), ("Day", .day), ("Hours", .hours), ("Minutes", .minutes),
    ("Seconds", .seconds), ("Milliseconds", .milliseconds)]

/-- The methods of dates. -/
def dateMethods : List (String × Nat × Native) :=
  [("getTime", 0, .date .value), ("valueOf", 0, .date .value), ("getTimezoneOffset", 0, .date (.part .offset)),
    ("toISOString", 0, .date (.text .figures)), ("toString", 0, .date (.text .words)),
    ("toDateString", 0, .date (.text .dayWords)), ("toTimeString", 0, .date (.text .timeWords)),
    ("toUTCString", 0, .date (.text .common)), ("toJSON", 1, .date .data)] ++
    dateParts.map (fun (name, p) => ("get" ++ name, 0, .date (.part p))) ++
    dateParts.map fun (name, p) => ("getUTC" ++ name, 0, .date (.part p))

/-- The functions that stand in the outermost scope by themselves. -/
def globalFunctions : List (String × Nat × Native) :=
  [("eval", 1, .evaluate), ("isFinite", 1, .simple .isFinite), ("isNaN", 1, .simple .isNaN),
    ("decodeURI", 1, .readAddress true), ("decodeURIComponent", 1, .readAddress false),
    ("encodeURI", 1, .writeAddress true), ("encodeURIComponent", 1, .writeAddress false)]

/-- The functions that the outermost scope and the maker of numbers hold both. -/
def numberReaders : List (String × Nat × SimpleFunction) :=
  [("parseFloat", 1, .parseFloat), ("parseInt", 2, .parseInt)]

/-- Builds what belongs to the language. -/
def buildLanguage : Build Unit := do
  let global := Intrinsic.global.ref
  set global "globalThis" (.hidden (.object global))
  set global "undefined" (.data .undefined false false false)
  set global "NaN" (.data .nan false false false)
  set global "Infinity" (.data (.number (1.0 / 0.0)) false false false)
  methods global globalFunctions
  let objects ← maker "Object" 1 (.object .make) Intrinsic.objects.ref
  family objects .object objectFunctions
  let parentGet ← native (.object .parentProperty) "get __proto__" 0
  let parentSet ← native (.object .setParentProperty) "set __proto__" 0
  set Intrinsic.objects.ref "__proto__" (.accessor (some parentGet) (some parentSet) false true)
  family Intrinsic.objects.ref .object objectMethods
  discard <| maker "Function" 1 .functionMake Intrinsic.functions.ref
  family Intrinsic.functions.ref .function [("apply", 2, .apply), ("bind", 1, .bind), ("call", 1, .call),
    ("toString", 0, .text)]
  let refuser := some Intrinsic.callerRefuser.ref
  for name in ["caller", "arguments"] do
    set Intrinsic.functions.ref name (.accessor refuser refuser false true)
  let arrays ← maker "Array" 1 .arrayMake Intrinsic.arrays.ref
  methods arrays [("from", 1, .arrayFrom), ("isArray", 1, .arrayCheck), ("of", 0, .arrayOf)]
  family Intrinsic.arrays.ref .array arrayMethods
  let texts ← maker "String" 1 .textMake Intrinsic.texts.ref
  methods texts [("fromCharCode", 1, .fromCharCode), ("fromCodePoint", 1, .fromCodePoint)]
  family Intrinsic.texts.ref .text textMethods
  let numbers ← maker "Number" 1 (.simple .numberMake) Intrinsic.numbers.ref
  for (name, x) in numberLimits do
    set numbers name (.data (.number x) false false false)
  for (name, check) in [("isFinite", NumberCheck.finite), ("isInteger", .whole), ("isSafeInteger", .safe)] do
    methods numbers [(name, 1, .simple (.numberCheck check))]
  for (name, arity, f) in numberReaders do
    let r ← native (.simple f) name arity
    set numbers name (.hidden (.object r))
    set global name (.hidden (.object r))
  family Intrinsic.numbers.ref .simple numberMethods
  discard <| maker "Boolean" 1 (.simple .boolMake) Intrinsic.bools.ref
  family Intrinsic.bools.ref .simple [("toString", 0, .boolText), ("valueOf", 0, .boolValue)]
  let mathematics ← place (.ofShape (some Intrinsic.objects.ref) (.toolbox "Math"))
  for (name, x) in mathNumbers do
    set mathematics name (.data (.number x) false false false)
  family mathematics .math mathFunctions
  set global "Math" (.hidden (.object mathematics))
  let data ← place (.ofShape (some Intrinsic.objects.ref) (.toolbox "JSON"))
  methods data [("parse", 2, .jsonRead), ("stringify", 3, .jsonWrite)]
  set global "JSON" (.hidden (.object data))
  for kind in ErrorKind.all do
    let parent := (Intrinsic.errors kind).ref
    discard <| maker kind.name (if kind == .aggregate then 2 else 1) (.errorMake kind) parent
    set parent "name" (.hidden (.string kind.name))
    set parent "message" (.hidden .emptyText)
  methods (Intrinsic.errors .error).ref [("toString", 0, .errorText)]
  let promises := Intrinsic.promiseMaker.ref
  enter "Promise" promises Intrinsic.promises.ref
  methods promises promiseFunctions
  methods Intrinsic.promises.ref
    [("then", 2, .promise .andThen), ("catch", 1, .promise .orElse), ("finally", 1, .promise .finish)]
  let dates ← maker "Date" 7 (.date .make) Intrinsic.dates.ref
  methods dates [("now", 0, .date .now), ("UTC", 7, .date .ofParts), ("parse", 1, .date .read)]
  methods Intrinsic.dates.ref dateMethods

/-- The functions that read the document by numbers. -/
def bridgeFunctions : List (String × Nat × Bridge) :=
  [("nodeType", 1, .nodeType), ("localName", 1, .localName), ("nodeName", 1, .nodeName), ("data", 1, .data),
    ("parent", 1, .parent), ("children", 2, .children), ("sibling", 3, .sibling), ("attribute", 2, .attribute),
    ("attributes", 1, .attributes), ("textContent", 1, .textContent), ("html", 2, .markup), ("query", 3, .query),
    ("matches", 2, .matches), ("byId", 1, .byId), ("byTag", 2, .byTag), ("byClass", 2, .byClass), ("title", 0, .title)]

/-- Builds the surroundings of a window. -/
def buildSurroundings : Build Unit := do
  let global := Intrinsic.global.ref
  let writer := Intrinsic.writer.ref
  methods writer [("write", 2, .consoleWrite)]
  set global "__hl_console" (.plain (.object writer))
  let bridge := Intrinsic.bridge.ref
  for (name, arity, b) in bridgeFunctions do
    set bridge name (.hidden (.object (← native (.bridge b) name arity)))
  set global "__hl_dom" (.plain (.object bridge))
  for name in ["window", "self", "global"] do
    set global name (.plain (.object global))
  let navigator ← plain
  set navigator "userAgent" (.plain (.string "Mozilla/5.0 (compatible; Hintline)"))
  set navigator "language" (.plain (.string "en-US"))
  let languages ← place (.ofShape (some Intrinsic.arrays.ref)
    (.array #[some (.string "en-US"), some (.string "en")] 2))
  set navigator "languages" (.plain (.object languages))
  set navigator "platform" (.plain .emptyText)
  visible navigator "sendBeacon" (.environment .agree) "sendBeacon" 0
  set global "navigator" (.plain (.object navigator))
  let console ← plain
  for (name, level) in [("log", "info"), ("info", "info"), ("debug", "debug"), ("trace", "debug"), ("warn", "warn"),
      ("error", "error")] do
    visible console name (.environment (.console level)) "" 0
  set global "console" (.plain (.object console))
  visible global "setTimeout" (.environment (.setTimer false)) "" 2
  visible global "setInterval" (.environment (.setTimer true)) "" 2
  let cancel ← native (.environment .clearTimer) "cancel" 1
  set global "clearTimeout" (.plain (.object cancel))
  set global "clearInterval" (.plain (.object cancel))
  visible global "requestAnimationFrame" (.environment .animationFrame) "" 1
  set global "cancelAnimationFrame" (.plain (.object cancel))
  visible global "queueMicrotask" (.environment .microtask) "" 1
  let performance ← plain
  visible performance "now" (.environment .now) "now" 0
  set performance "timeOrigin" (.plain (.number 0.0))
  visible performance "mark" (.environment .idle) "mark" 0
  visible performance "measure" (.environment .idle) "measure" 0
  visible performance "getEntriesByType" (.environment .noItems) "getEntriesByType" 0
  set global "performance" (.plain (.object performance))
  visible global "matchMedia" (.environment .matchMedia) "" 1
  visible global "__hl_run_next_timer" (.environment .runTimer) "" 0
  let record ← plain
  set record "settled" (.plain (.bool true))
  set record "ok" (.plain (.bool true))
  set record "value" (.plain .undefined)
  set record "error" (.plain .emptyText)
  set global "__hl_eval" (.plain (.object record))
  visible global "__hl_begin" (.environment .begin) "" 1
  visible global "__hl_json" (.environment .dataText) "" 1
  visible global "__hl_install_document" (.node .install) "" 2

/-- What can be read of nodes. -/
def nodeProperties : List (String × NodeProperty) :=
  [("nodeType", .nodeType), ("nodeName", .nodeName), ("localName", .localName), ("tagName", .tagName),
    ("ownerDocument", .ownerDocument), ("parentNode", .parentNode), ("parentElement", .parentElement),
    ("childNodes", .childNodes), ("children", .children), ("childElementCount", .childElementCount),
    ("firstChild", .firstChild), ("lastChild", .lastChild), ("firstElementChild", .firstElementChild),
    ("lastElementChild", .lastElementChild), ("nextSibling", .nextSibling), ("previousSibling", .previousSibling),
    ("nextElementSibling", .nextElementSibling), ("previousElementSibling", .previousElementSibling), ("id", .id),
    ("className", .className), ("classList", .classList), ("attributes", .attributes), ("textContent", .textContent),
    ("innerText", .innerText), ("data", .data), ("nodeValue", .nodeValue), ("outerHTML", .outerHTML),
    ("innerHTML", .innerHTML)]

/-- A method of nodes. -/
def nodeMethod (name : String) (arity : Nat) (m : NodeMethod) : String × Nat × NodeFunction := (name, arity, .method m)

/-- A method that nodes refuse. -/
def refusedMethod (name : String) : String × Nat × NodeFunction := (name, 0, .refuse name)

/-- What nodes do and refuse to do. -/
def nodeMethods : List (String × Nat × NodeFunction) :=
  [nodeMethod "getAttribute" 1 .getAttribute, nodeMethod "hasAttribute" 1 .hasAttribute,
    nodeMethod "getAttributeNames" 0 .getAttributeNames, nodeMethod "querySelectorAll" 1 .querySelectorAll,
    nodeMethod "querySelector" 1 .querySelector, nodeMethod "getElementsByTagName" 1 .getElementsByTagName,
    nodeMethod "getElementsByClassName" 1 .getElementsByClassName, nodeMethod "matches" 1 .matches,
    nodeMethod "closest" 1 .closest, nodeMethod "contains" 1 .contains,
    nodeMethod "hasChildNodes" 0 .hasChildNodes] ++
    ["setAttribute", "removeAttribute", "appendChild", "insertBefore", "removeChild", "replaceChild", "remove"].map
      refusedMethod ++
    [nodeMethod "addEventListener" 2 .addEventListener, nodeMethod "removeEventListener" 2 .removeEventListener,
      nodeMethod "dispatchEvent" 1 .dispatchEvent, nodeMethod "toJSON" 0 .toData, nodeMethod "toString" 0 .toText]

/-- Builds what all nodes have. -/
def buildNodes : Build Unit := do
  let nodes := Intrinsic.nodes.ref
  set nodes "constructor" (.hidden (.object Intrinsic.nodeMaker.ref))
  for (name, p) in nodeProperties do
    let get ← native (.node (.get p)) "" 0
    let put ← native (.node (.refuse ("setting " ++ name))) "" 0
    set nodes name (.accessor (some get) (some put) false true)
  for (name, arity, f) in nodeMethods do
    visible nodes name (.node f) "" arity

/-- The realm of a window before it has a document. -/
def Realm.bare : Realm where
  objects := ((do buildLanguage; buildSurroundings; buildNodes : Build Unit).run intrinsicObjects).2
  scopes := #[]
  cells := #[]
  jobs := []
  laterJobs := []
  timers := .start 0.0
  document := .undefined
  iterations := 0

/-! ### The document of a realm -/

/-- The parts of an address as a script sees them. -/
def addressParts (url : Option Url) : List (String × String) :=
  match url with
  | none =>
    [("href", "about:blank"), ("protocol", "about:"), ("host", ""), ("hostname", ""), ("port", ""),
      ("pathname", "blank"), ("search", ""), ("hash", ""), ("origin", "null")]
  | some u =>
    [("href", u.text), ("protocol", u.scheme ++ ":"), ("host", u.hostAndPort), ("hostname", u.hostName),
      ("port", u.portText), ("pathname", u.path), ("search", u.search), ("hash", u.hash), ("origin", u.origin)]

/-- The text that a script reads where a text was handed over as a literal. -/
def handedOver (s : String) : CodeUnits := (Literal.value? (Text.quote s)).getD (CodeUnits.ofString s)

/-- Enters a document with its address into the running realm. -/
def Kernel.enterDocument (k : Kernel) (d : Document) (url : Option Url) : Run Unit := do
  let address ← makeObject
  for (name, v) in addressParts url do
    defineProperty address (CodeUnits.ofString name) (.plain (.text (handedOver v)))
  let doctype := d.doctype?.elim Value.null fun name => .text (handedOver (Text.lower name))
  discard <| k.callGlobal "__hl_install_document" [.object address, doctype]

end Pagewalk.Script
