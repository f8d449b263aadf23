import Pagewalk.Url.Host

/-!
# Addresses

An address has a scheme, possibly a host with a port, a path, and possibly a query and a fragment. `text` writes it
in its one normal form. The origin of an address is its scheme with host and port, if the scheme has any.
-/

namespace Pagewalk

open Text

/-- An address in normal form. -/
structure Url where
  scheme : String
  /-- Name and password before the host, without the sign after them. -/
  user : String
  password? : Option String
  host? : Option Url.Host
  port? : Option Nat
  /-- Two slashes stand before the path although there is no host. -/
  slashes : Bool
  path : String
  query? : Option String
  fragment? : Option String
  deriving DecidableEq, Repr

namespace Url

/-- The port that a scheme has when none is written. -/
def defaultPort? (scheme : String) : Option Nat :=
  match scheme with
  | "http" => some 80
  | "ws" => some 80
  | "https" => some 443
  | "wss" => some 443
  | "ftp" => some 21
  | _ => none

/-- A scheme whose addresses have a host and a path of segments. -/
def isSpecial (scheme : String) : Bool := (defaultPort? scheme).isSome || scheme == "file"

/-- The host, or nothing. -/
def hostName (u : Url) : String := (u.host?.map Host.text).getD ""

/-- The port as text, or nothing. -/
def portText (u : Url) : String := (u.port?.map toString).getD ""

/-- The host with its port. -/
def hostAndPort (u : Url) : String :=
  if u.port?.isSome then u.hostName ++ ":" ++ u.portText else u.hostName

/-- Name and password with the sign after them. -/
def credentials (u : Url) : String :=
  match u.password? with
  | some p => u.user ++ ":" ++ p ++ "@"
  | none => if u.user.isEmpty then "" else u.user ++ "@"

/-- The query with its mark, or nothing. -/
def search (u : Url) : String := (u.query?.map ("?" ++ ·)).getD ""

/-- The fragment with its mark, or nothing. -/
def hash (u : Url) : String := (u.fragment?.map ("#" ++ ·)).getD ""

/-- The address as text. A path of two slashes that follows no host is kept apart from it by a point. -/
def text (u : Url) : String :=
  let authority :=
    if u.host?.isSome then "//" ++ u.credentials ++ u.hostAndPort
    else if u.slashes then "//"
    else if u.path.startsWith "//" then "/." else ""
  u.scheme ++ ":" ++ authority ++ u.path ++ u.search ++ u.hash

/-- The origin of an address whose scheme has one. -/
def tupleOrigin? (u : Url) : Option String :=
  match defaultPort? u.scheme with
  | none => none
  | some _ => some (u.scheme ++ "://" ++ u.hostAndPort)

end Url

end Pagewalk
