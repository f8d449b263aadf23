import Pagewalk.Url.Name

/-!
# Hosts

The host of an address is a name or an IP address. A name is brought to its one writing in small ASCII letters; a
name whose last label is a number has to be an IPv4 address.
-/

namespace Pagewalk

open Text

/-- Why a text is no address. -/
inductive Url.Fault where
  | noBase
  | emptyHost
  | badName
  | badPort
  | badIpv4
  | badIpv6
  | badHostCharacter
  deriving DecidableEq, Repr

/-- The text of a fault. -/
def Url.Fault.text : Url.Fault → String
  | noBase => "relative URL without a base"
  | emptyHost => "empty host"
  | badName => "invalid international domain name"
  | badPort => "invalid port number"
  | badIpv4 => "invalid IPv4 address"
  | badIpv6 => "invalid IPv6 address"
  | badHostCharacter => "invalid domain character"

namespace Url

/-- The host of an address. -/
inductive Host where
  | name (s : String)
  | ipv4 (n : Nat)
  /-- Eight pieces of sixteen bits. -/
  | ipv6 (pieces : List Nat)
  deriving DecidableEq, Repr

/-! ### Percent signs -/

/-- A byte as a percent sign and two capital digits. -/
def percentByte (b : UInt8) : String := "%" ++ upper (digits 16 2 b.toNat)

/-- A text in which the characters of a class and all that are not ASCII are written by their bytes. -/
def percentEncode (isEscaped : Char → Bool) (s : String) : String :=
  s.foldl (fun acc c =>
    if c.toNat ≥ 0x80 || isEscaped c then acc ++ String.join ((String.utf8EncodeChar c).map percentByte)
    else acc.push c) ""

/-- A control character. -/
def isControl (c : Char) : Bool := c.toNat < 0x20 || c.toNat == 0x7F

/-- The value of a hexadecimal digit. -/
def hexValue? (c : Char) : Option Nat :=
  if c.isDigit then some (c.toNat - '0'.toNat)
  else if 'a' ≤ c.toLower && c.toLower ≤ 'f' then some (c.toLower.toNat - 'a'.toNat + 10)
  else none

/-- The bytes of a text in which a percent sign with two digits stands for a byte. -/
def percentDecode : List Char → List UInt8
  | '%' :: a :: b :: cs =>
    match hexValue? a, hexValue? b with
    | some x, some y => (x * 16 + y).toUInt8 :: percentDecode cs
    -- Without two digits the percent sign stands for itself.
    | _, _ => 37 :: percentDecode (a :: b :: cs)
  | c :: cs => String.utf8EncodeChar c ++ percentDecode cs
  | [] => []

/-! ### IP addresses -/

/-- The value of some digits in a base; `none` if one is no digit of it. -/
def valueIn? (base : Nat) (ds : List Char) : Option Nat :=
  ds.foldl (fun acc c => acc.bind fun n => (hexValue? c).bind fun d => if d < base then some (n * base + d) else none)
    (some 0)

/-- The number that a part of an IPv4 address writes: sixteen after `0x`, eight after another zero. -/
def ipv4Number? : List Char → Option Nat
  | [] => none
  | '0' :: 'x' :: ds => valueIn? 16 ds
  | '0' :: 'X' :: ds => valueIn? 16 ds
  | '0' :: d :: ds => valueIn? 8 (d :: ds)
  | ds => valueIn? 10 ds

/-- The labels of a name without an empty last one. -/
def labelsOf (s : String) : List (List Char) :=
  let parts := pieces '.' s.toList
  if parts.length > 1 && parts.getLast? == some [] then parts.dropLast else parts

/-- The last label of a name is a number. -/
def endsInNumber (s : String) : Bool :=
  match (labelsOf s).getLast? with
  | none => false
  | some l =>
    (!l.isEmpty && l.all Char.isDigit) ||
      ((l.take 2 == ['0', 'x'] || l.take 2 == ['0', 'X']) && (ipv4Number? l).isSome)

/-- The IPv4 address that a name writes; the last part fills the bytes that are left. -/
def readIpv4 (s : String) : Except Fault Nat :=
  let parts := labelsOf s
  if parts.length > 4 then .error .badIpv4
  else
    match parts.mapM ipv4Number? with
    | none => .error .badIpv4
    | some ns =>
      let first := ns.dropLast
      let last := ns.getLast?.getD 0
      if first.any (· > 255) || last ≥ Nat.pow 256 (5 - ns.length) then .error .badIpv4
      else .ok ((first.zipIdx.foldl (fun acc (n, i) => acc + n * Nat.pow 256 (3 - i)) 0) + last)

/-- An IPv4 address as four numbers. -/
def ipv4Text (n : Nat) : String :=
  ".".intercalate ([3, 2, 1, 0].map fun i => toString (n / Nat.pow 256 i % 256))

/-- The two pieces that four numbers with points write. -/
def ipv4Pieces? (s : List Char) : Option (List Nat) :=
  let parts := pieces '.' s
  let ns := parts.mapM fun p =>
    if p.isEmpty || p.length > 3 || (p.length > 1 && p.head? == some '0') || !p.all Char.isDigit then none
    else (valueIn? 10 p).bind fun n => if n ≤ 255 then some n else none
  match ns with
  | some [a, b, c, d] => some [a * 256 + b, c * 256 + d]
  | _ => none

/-- The pieces between colons, of which only the last may be an IPv4 address. -/
def ipv6Pieces? : List (List Char) → Option (List Nat)
  | [] => some []
  | [p] =>
    if p.contains '.' then ipv4Pieces? p
    else if p.isEmpty || p.length > 4 then none else (valueIn? 16 p).map ([·])
  | p :: ps =>
    if p.isEmpty || p.length > 4 then none
    else (valueIn? 16 p).bind fun n => (ipv6Pieces? ps).map (n :: ·)

/-- Cuts a text at the first two colons. -/
def atDoubleColon? : List Char → Option (List Char × List Char)
  | ':' :: ':' :: cs => some ([], cs)
  | c :: cs => (atDoubleColon? cs).map fun (a, b) => (c :: a, b)
  | [] => none

/-- The pieces that a text between colons writes; the empty text has none. -/
def colonPieces? (cs : List Char) : Option (List Nat) :=
  if cs.isEmpty then some [] else ipv6Pieces? (pieces ':' cs)

/-- The IPv6 address that a text writes. -/
def readIpv6 (cs : List Char) : Except Fault (List Nat) :=
  let whole := match atDoubleColon? cs with
    | none => (colonPieces? cs).bind fun ps => if ps.length = 8 then some ps else none
    | some (a, b) =>
      match (if a.contains '.' then none else colonPieces? a), colonPieces? b with
      | some x, some y =>
        if x.length + y.length ≤ 7 then some (x ++ List.replicate (8 - x.length - y.length) 0 ++ y) else none
      | _, _ => none
  match whole with
  | some ps => .ok ps
  | none => .error .badIpv6

/-- The number of zeros at the start of some pieces. -/
def zeroRun (ps : List Nat) : Nat := (ps.takeWhile (· == 0)).length

/-- An IPv6 address; the first of its longest runs of zeros is left out. -/
def ipv6Text (ps : List Nat) : String :=
  let runs := (List.range ps.length).map fun i => zeroRun (ps.drop i)
  let longest := runs.foldl max 0
  let hex := fun (xs : List Nat) => ":".intercalate (xs.map (digits 16 1))
  if longest < 2 then hex ps
  else
    let i := runs.findIdx (· == longest)
    hex (ps.take i) ++ "::" ++ hex (ps.drop (i + longest))

/-! ### Reading hosts -/

/-- The text of a host. -/
def Host.text : Host → String
  | name s => s
  | ipv4 n => ipv4Text n
  | ipv6 ps => "[" ++ ipv6Text ps ++ "]"

/-- The IPv6 address in square brackets, if the text begins with one. -/
def bracketed? (s : String) : Option (Except Fault Host) :=
  match s.toList with
  | '[' :: cs =>
    some (if cs.getLast? == some ']' then (readIpv6 cs.dropLast).map .ipv6 else .error .badIpv6)
  | _ => none

/-- The host of an address of a special scheme. -/
def Host.read (s : String) : Except Fault Host :=
  match bracketed? s with
  | some h => h
  | none =>
    match asciiName? (percentDecode s.toList) with
    | none => .error .badName
    | some n =>
      if n.isEmpty then .error .emptyHost
      else if endsInNumber n then (readIpv4 n).map .ipv4
      else .ok (.name n)

/-- The host of an address of any other scheme. -/
def Host.readFree (s : String) : Except Fault Host :=
  match bracketed? s with
  | some h => h
  | none =>
    if s.toList.any fun c => c == '\x00' || " \t\n\r#/:<>?@[\\]^|".toList.contains c then .error .badHostCharacter
    else .ok (.name (percentEncode isControl s))

end Url

end Pagewalk
