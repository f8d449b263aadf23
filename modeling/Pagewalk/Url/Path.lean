import Pagewalk.Url.Basic

/-!
# Paths of addresses

A path is read segment by segment. A segment of one point stands for nothing, one of two points takes away the
segment before it. In the paths of files a letter with a colon names a drive: it is never taken away, and with it
there is no host.
-/

namespace Pagewalk.Url

open Text

/-- A character escaped in fragments. -/
def escapedInFragment (c : Char) : Bool := isControl c || " \"<>\x60".toList.contains c

/-- A character escaped in paths. -/
def escapedInPath (c : Char) : Bool := escapedInFragment c || "#?\x7b\x7d".toList.contains c

/-- A character that parts the segments of a path. -/
def isSlash (special : Bool) (c : Char) : Bool := c == '/' || (special && c == '\\')

/-- A segment that means the place it stands at. -/
def isDot (s : String) : Bool := [".", "%2e"].contains (lower s)

/-- A segment that means one segment less. -/
def isDoubleDot (s : String) : Bool := ["..", ".%2e", "%2e.", "%2e%2e"].contains (lower s)

/-- A letter and a colon or a bar: the name of a drive. -/
def isDrive (s : String) : Bool :=
  match s.toList with
  | [a, b] => a.isAlpha && (b == ':' || b == '|')
  | _ => false

/-- The name of a drive, and nothing or a character that ends a part of an address. -/
def beginsWithDrive (s : String) : Bool :=
  match s.toList with
  | a :: b :: rest => a.isAlpha && (b == ':' || b == '|') && rest.head?.all ("/\\?#".toList.contains ·)
  | _ => false

/-- A path while it is read: the segments that a slash ends, and whether the address can have a host. The first
segment is what stands before the first slash. -/
structure PathState where
  ended : List String
  hostStays : Bool

/-- What stands before the first slash. -/
def PathState.start : PathState := ⟨[""], true⟩

/-- One segment less, but not the first one and not a drive. -/
def PathState.shorten (s : PathState) : PathState :=
  if s.ended.length ≥ 2 && !beginsWithDrive (s.ended.getLast?.getD "") then { s with ended := s.ended.dropLast } else s

/-- The state before a segment of a plain text, and the text as it is written: a drive is written with a colon. -/
def PathState.plain (s : PathState) (file : Bool) (segment : String) : PathState × String :=
  if file && s.ended.length == 1 && isDrive segment then
    ({ s with hostStays := false }, String.ofList [segment.toList.headD 'a', ':'])
  else (s, segment)

/-- Takes a segment that a slash ends. -/
def PathState.add (file : Bool) (s : PathState) (segment : String) : PathState :=
  if isDoubleDot segment then s.shorten
  else if isDot segment then s
  else
    let (s, written) := s.plain file segment
    { s with ended := s.ended ++ [written] }

/-- Takes the last segment; the whole path as text, and whether the address can have a host. -/
def PathState.finish (file : Bool) (s : PathState) (segment : String) : String × Bool :=
  let text := fun (s : PathState) (last : String) => "/".intercalate (s.ended ++ [last])
  if isDoubleDot segment then (text s.shorten "", s.hostStays)
  else if isDot segment then (text s "", s.hostStays)
  else
    let (s, written) := s.plain file segment
    (text s written, s.hostStays)

/-- Takes all segments. -/
def PathState.addAll (file : Bool) (s : PathState) : List String → String × Bool
  | [] => s.finish file ""
  | [last] => s.finish file last
  | segment :: rest => (s.add file segment).addAll file rest

/-- The segments between slashes. -/
def segmentsOf (special : Bool) (cs : List Char) : List String :=
  (pieces '/' (cs.map fun c => if isSlash special c then '/' else c)).map fun segment =>
    percentEncode escapedInPath (String.ofList segment)

/-- The path of a file begins with one slash. -/
def oneSlash (path : String) : String := "/" ++ String.ofList (path.toList.dropWhile (· == '/'))

/-- The path that some characters after a first slash write, and whether the address can have a host. -/
def pathAfterSlash (special file : Bool) (cs : List Char) : String × Bool :=
  let (path, hostStays) := PathState.start.addAll file (segmentsOf special cs)
  (if file then oneSlash path else path, hostStays)

/-- The path that some characters write, in which a first slash may be left out; nothing is a path unless the address
is special. -/
def pathOf (special file : Bool) (cs : List Char) : String × Bool :=
  match cs with
  | [] => if special then pathAfterSlash special file [] else ("", true)
  | c :: rest => pathAfterSlash special file (if isSlash special c then rest else cs)

end Pagewalk.Url
