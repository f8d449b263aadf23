import Pagewalk.Url.Path

/-!
# Reading addresses

An address is read from left to right: the scheme, what its kind of scheme demands after it, and the query and the
fragment. Blanks at both ends and line breaks anywhere are left out first.
-/

namespace Pagewalk.Url

open Text

/-- A character escaped in names and passwords. -/
def escapedInUser (c : Char) : Bool := escapedInPath c || "/:;=@[\\]^|".toList.contains c

/-- A character escaped in queries. -/
def escapedInQuery (special : Bool) (c : Char) : Bool :=
  isControl c || " \"#<>".toList.contains c || (special && c == '\'')

/-- The scheme at the start of a text in small letters, and what follows its colon. -/
def schemeOf? (cs : List Char) : Option (String × List Char) :=
  match cs with
  | c :: _ =>
    if c.isAlpha then
      match cs.span fun c => c.isAlphanum || c == '+' || c == '-' || c == '.' with
      | (s, ':' :: rest) => some (lower (String.ofList s), rest)
      | _ => none
    else none
  | [] => none

/-- A character that ends a part of an address. -/
def endsPart (special : Bool) (c : Char) : Bool := c == '/' || c == '?' || c == '#' || (special && c == '\\')

/-- The query and the fragment that a text begins with. -/
def tail (special : Bool) (cs : List Char) : Option String × Option String :=
  let (before, fragment) := match splitOnce '#' cs with
    | some (a, b) => (a, some (percentEncode escapedInFragment (String.ofList b)))
    | none => (cs, none)
  match before with
  | '?' :: q => (some (percentEncode (escapedInQuery special) (String.ofList q)), fragment)
  | _ => (none, fragment)

/-- Cuts before the query and the fragment. -/
def cutTail (cs : List Char) : List Char × List Char := cs.span fun c => !(c == '?' || c == '#')

/-! ### Hosts -/

/-- What stands before the last at sign, and what after it. -/
def lastAt? (cs : List Char) : Option (List Char × List Char) :=
  (splitOnce '@' cs.reverse).map fun (a, b) => (b.reverse, a.reverse)

/-- Cuts at the colon before a port; colons in square brackets do not count. -/
def cutPort (inBrackets : Bool) (acc : List Char) : List Char → List Char × Option (List Char)
  | [] => (acc.reverse, none)
  | c :: cs =>
    if c == ':' && !inBrackets then (acc.reverse, some cs)
    else cutPort (if c == '[' then true else if c == ']' then false else inBrackets) (c :: acc) cs

/-- The port that some digits write, unless it is that of the scheme. -/
def portOf (scheme : String) (ds : List Char) : Except Fault (Option Nat) :=
  if ds.isEmpty then .ok none
  else
    match valueIn? 10 ds with
    | none => .error .badPort
    | some n =>
      if n > 65535 then .error .badPort else .ok (if defaultPort? scheme == some n then none else some n)

/-- The port after a colon, and what follows its digits; only a slash can. -/
def readPort (scheme : String) (cs : List Char) : Except Fault (Option Nat × List Char) :=
  let (ds, rest) := cs.span Char.isDigit
  if rest.head?.all (isSlash true) then (portOf scheme ds).map (·, rest) else .error .badPort

/-- Name and password. -/
structure Credentials where
  user : String
  password? : Option String

/-- Neither name nor password. -/
def Credentials.isNone (c : Credentials) : Bool := c.user.isEmpty && c.password?.isNone

/-- The name and password that some characters before an at sign write. -/
def credentialsOf (cs : List Char) : Credentials :=
  let encode := fun cs => percentEncode escapedInUser (String.ofList cs)
  match splitOnce ':' cs with
  | none => ⟨encode cs, none⟩
  | some (u, p) => ⟨encode u, if p.isEmpty then none else some (encode p)⟩

/-- The host of an address: one of a special scheme has a name, one with a port or a password too. -/
def readHost (special hasPort : Bool) (name : List Char) : Except Fault Host :=
  let s := String.ofList name
  if special then if s.isEmpty then .error .emptyHost else Host.read s
  else if s.isEmpty && hasPort then .error .emptyHost
  else Host.readFree s

/-- Reads an address after two slashes. -/
def withAuthority (scheme : String) (cs : List Char) : Except Fault Url := do
  let special := isSpecial scheme
  let (authority, rest) := cs.span fun c => !endsPart special c
  let (before, hostPart) := (lastAt? authority).getD ([], authority)
  if (lastAt? authority).isSome && before.isEmpty && hostPart.isEmpty && !rest.isEmpty then .error .emptyHost
  let given := credentialsOf before
  let (name, port) := cutPort false [] hostPart
  let host ← readHost special port.isSome name
  let (port?, afterPort) ← readPort scheme (port.getD [])
  if name.isEmpty && !given.isNone then .error .emptyHost
  let (pathPart, tailPart) := cutTail (afterPort ++ rest)
  let (query?, fragment?) := tail special tailPart
  return { scheme, user := given.user, password? := given.password?, host? := some host, port?, slashes := true
           path := (pathOf special false pathPart).1, query?, fragment? }

/-- The address of a file with a path. -/
def fileWith (host? : Option Host) (path : String × Bool) (tailPart : List Char) : Url :=
  let (query?, fragment?) := tail true tailPart
  { scheme := "file", user := "", password? := none, host? := if path.2 then host? else none, port? := none
    slashes := true, path := path.1, query?, fragment? }

/-- Reads an address of the scheme `file` after two slashes. Without a host the slash after it is a segment. -/
def fileAfterSlashes (cs : List Char) : Except Fault Url := do
  let (name, rest) := cs.span fun c => !endsPart true c
  let s := String.ofList name
  -- A drive letter is no host but the first segment of the path.
  let host? ← if s.isEmpty || isDrive s then pure none else (Host.read s).map some
  let host? := if host? == some (.name "localhost") then none else host?
  let (pathPart, tailPart) := cutTail (if isDrive s then cs else rest)
  return fileWith host? (if host?.isSome then pathOf true true pathPart else pathAfterSlash true true pathPart) tailPart

/-- Reads an address of the scheme `file`. -/
def ofFile (cs : List Char) : Except Fault Url :=
  let plain :=
    let (pathPart, tailPart) := cutTail cs
    fileWith none (pathOf true true pathPart) tailPart
  match cs with
  | a :: b :: rest => if isSlash true a && isSlash true b then fileAfterSlashes rest else .ok plain
  | _ => .ok plain

/-- Reads an address without a host. -/
def withoutHost (scheme : String) (path : List Char → String) (cs : List Char) : Url :=
  let (pathPart, tailPart) := cutTail cs
  let (query?, fragment?) := tail false tailPart
  { scheme, user := "", password? := none, host? := none, port? := none, slashes := false, path := path pathPart
    query?, fragment? }

/-- Reads an address after its scheme. -/
def afterScheme (scheme : String) (cs : List Char) : Except Fault Url :=
  if scheme == "file" then ofFile cs
  else if isSpecial scheme then withAuthority scheme (cs.dropWhile (isSlash true))
  else
    match cs with
    | '/' :: '/' :: rest => withAuthority scheme rest
    | '/' :: _ => .ok (withoutHost scheme (fun path => (pathOf false false path).1) cs)
    | cs => .ok (withoutHost scheme (fun path => percentEncode isControl (String.ofList path)) cs)

/-- The address that a text writes. -/
def parse (s : String) : Except Fault Url :=
  let isEdge := fun (c : Char) => c.toNat ≤ 0x20
  let cs := ((s.toList.dropWhile isEdge).reverse.dropWhile isEdge).reverse
  match schemeOf? (cs.filter fun c => !(c == '\t' || c == '\n' || c == '\r')) with
  | none => .error .noBase
  | some (scheme, rest) => afterScheme scheme rest

/-- The origin of an address, if it has one. A `blob` has the origin of the address in its path; `depth` bounds how
often one is in another. -/
def originIn? : Nat → Url → Option String
  | 0, u => tupleOrigin? u
  | depth + 1, u =>
    if u.scheme == "blob" then (parse u.path).toOption.bind (originIn? depth) else tupleOrigin? u

/-- The origin of an address as text; one without an origin has `null`. Each address in a `blob` is shorter than the
one around it. -/
def origin (u : Url) : String := (originIn? u.path.length u).getD "null"

/-! ### Addresses of files

An absolute path is the path of an address without a host. What would end a segment or stand for another character
is escaped in it.
-/

/-- A character escaped in a segment of a path of a file. -/
def escapedInFile (c : Char) : Bool := escapedInPath c || c == '%' || c == '\\'

/-- The address of the file with an absolute path. -/
def fileText (path : String) : String := "file://" ++ percentEncode escapedInFile path

end Pagewalk.Url
