import Pagewalk.Script.Operators
import Pagewalk.Text.Case

/-!
# What texts do

The methods of texts. Places in a text count its units.
-/

namespace Pagewalk.Script

open Text

/-- The unit is a blank around a text. -/
def isBlankUnit (u : UInt16) : Bool := Number.isBlankAround (Char.ofNat u.toNat)

/-- The text without the blanks at its start. -/
def trimUnitsStart (s : CodeUnits) : CodeUnits := ⟨(s.val.toList.dropWhile isBlankUnit).toArray⟩

/-- The text without the blanks at its end. -/
def trimUnitsEnd (s : CodeUnits) : CodeUnits := ⟨((s.val.toList.reverse.dropWhile isBlankUnit).reverse).toArray⟩

/-- The pieces of a text between separators; at most so many cuts are made. -/
def cutAt (s separator : CodeUnits) : Nat → Nat → List CodeUnits
  | 0, start => [s.slice start s.size]
  | n + 1, start =>
    match s.find? separator start with
    | some i => s.slice start i :: cutAt s separator n (i + separator.size)
    | none => [s.slice start s.size]

/-- The pieces of a text between separators. Between units there is the empty separator. -/
def splitUnits (s separator : CodeUnits) : List CodeUnits :=
  if separator.size = 0 then (List.range s.size).map fun i => s.slice i (i + 1)
  else cutAt s separator s.size 0

/-- The text so many times. -/
def repeatUnits (s : CodeUnits) (n : Nat) : CodeUnits := Nat.rec CodeUnits.empty (fun _ acc => acc ++ s) n

/-- What a text is filled up with to a size. -/
def fillUnits (missing : Nat) (filler : CodeUnits) : CodeUnits :=
  if filler.size = 0 then CodeUnits.empty else (repeatUnits filler (missing / filler.size + 1)).slice 0 missing

/-- The last place at or before a limit where a text stands in another. -/
def lastPlace? (s needle : CodeUnits) (limit : Nat) : Option Nat :=
  (List.range (s.size + 1 - needle.size)).reverse.find? fun i =>
    i ≤ limit && needle.size ≤ s.size && (s.val.extract i (i + needle.size) == needle.val)

/-- The code point that begins at a unit. -/
def pointAt (s : CodeUnits) (i : Nat) : Nat :=
  let u := s.val.getD i 0
  let v := s.val.getD (i + 1) 0
  if isHighHalf u && isLowHalf v then (joinHalves u v).toNat else u.toNat

/-- The fault of a count of repetitions. -/
def repeatFault : String :=
  "repeat count must be a positive finite number that doesn't overflow the maximum string length (2^32 - 1)"

/-- The most units of a text. -/
def maxUnits : Nat := 4294967295

/-- What stands for a needle that was found at a place: marks in the text of the replacement stand for it and for what
is around it. -/
def expanded (s needle : CodeUnits) (place : Nat) : List UInt16 → List UInt16
  | [] => []
  | [u] => [u]
  | u :: v :: us =>
    if u != dollar then u :: expanded s needle place (v :: us)
    else if v == dollar then dollar :: expanded s needle place us
    else if v == 0x26 then needle.val.toList ++ expanded s needle place us
    else if v == 0x60 then (s.slice 0 place).val.toList ++ expanded s needle place us
    else if v == 0x27 then (s.slice (place + needle.size) s.size).val.toList ++ expanded s needle place us
    else u :: expanded s needle place (v :: us)
where
  dollar : UInt16 := 0x24

/-- The place that an argument means, held between zero and the size of the text. -/
def Kernel.clamped (k : Kernel) (v : Value) (size missing : Nat) : Run Nat :=
  match v with
  | .undefined => return missing
  | v => return Number.clampPlace (← k.toNumber v) size

/-- The places at which a text stands in another from one on; none begins within the one before it. -/
def placesOf (s needle : CodeUnits) : Nat → (start : Nat) → List Nat
  | 0, _ => []
  | n + 1, start =>
    match s.find? needle start with
    | some i => i :: placesOf s needle n (i + max 1 needle.size)
    | none => []

/-- What stands for a needle at a place: what a function answers, or a text with marks. -/
def Kernel.replacementAt (k : Kernel) (giver : Value) (asked : Bool) (pattern s needle : CodeUnits) (i : Nat) :
    Run CodeUnits := do
  if asked then k.toText (← k.apply giver .undefined [.text needle, .nat i, .text s])
  else return ⟨(expanded s needle i pattern.val.toList).toArray⟩

/-- A text with others in the place of a needle that stands at some places. -/
def Kernel.replaceAt (k : Kernel) (s : CodeUnits) (needle giver : Value) (places : CodeUnits → List Nat) :
    Run Value := do
  let needle ← k.toText needle
  let asked ← isCallable giver
  let pattern ← if asked then pure CodeUnits.empty else k.toText giver
  let (made, last) ← (places needle).foldlM (fun ((made, last) : CodeUnits × Nat) i => do
    let new ← k.replacementAt giver asked pattern s needle i
    return (made ++ s.slice last i ++ new, i + needle.size)) (CodeUnits.empty, 0)
  return .text (made ++ s.slice last s.size)

/-- The units of the character that a number is the code of; the code of a half stands for the half. -/
def unitsOfCode (x : Float) : Run (List UInt16) := do
  let isCode := !x.isNaN && x == Number.trunc x && 0.0 ≤ x && x ≤ 1114111.0
  if !isCode then fail .range ("invalid code point: " ++ Decimal.plain x)
  let n := x.toUInt32.toNat
  return if n < 0x10000 then [n.toUInt16] else unitsOfChar (Char.ofNat n)

/-- What a method of texts does. -/
def TextMethod.run (k : Kernel) (m : TextMethod) (this : Value) (args : List Value) : Run Value := do
  if this.isNullish then typeFault "cannot convert 'null' or 'undefined' to object"
  let s ← match m, this with
    | .toText, .object r =>
      match (← object r).shape with
      | .boxed (.text s) => pure s
      | _ => typeFault "'this' is not a string"
    | _, v => k.toText v
  let size := s.size
  match m with
  | .toText => return .text s
  | .charAt =>
    let x := Number.toInteger (← k.toNumber (argument args 0))
    match Number.indexOfFloat? x with
    | some i => return .text (s.slice i (i + 1))
    | none => return .emptyText
  | .charCodeAt =>
    let x := Number.toInteger (← k.toNumber (argument args 0))
    match (Number.indexOfFloat? x).bind fun i => s.val[i]? with
    | some u => return .nat u.toNat
    | none => return .nan
  | .codePointAt =>
    let x := Number.toInteger (← k.toNumber (argument args 0))
    match Number.indexOfFloat? x with
    | some i => return if i < size then .nat (pointAt s i) else .undefined
    | none => return .undefined
  | .indexOf =>
    let needle ← k.toText (argument args 0)
    let start ← k.clamped (argument args 1) size 0
    return (s.find? needle start).elim (.number (-1.0)) .nat
  | .lastIndexOf =>
    let needle ← k.toText (argument args 0)
    let x ← k.toNumber (argument args 1)
    let limit := if x.isNaN then size else Number.clampPlace x size
    return (lastPlace? s needle limit).elim (.number (-1.0)) .nat
  | .includes =>
    let needle ← k.toText (argument args 0)
    let start ← k.clamped (argument args 1) size 0
    return .bool (s.find? needle start).isSome
  | .startsWith =>
    let needle ← k.toText (argument args 0)
    let start ← k.clamped (argument args 1) size 0
    return .bool (s.slice start (start + needle.size) == needle)
  | .endsWith =>
    let needle ← k.toText (argument args 0)
    let stop ← k.clamped (argument args 1) size size
    return .bool (needle.size ≤ stop && s.slice (stop - needle.size) stop == needle)
  | .slice =>
    let place (v : Value) (missing : Nat) : Run Nat :=
      match v with
      | .undefined => return missing
      | v => return Number.relativePlace (← k.toNumber v) size
    return .text (s.slice (← place (argument args 0) 0) (← place (argument args 1) size))
  | .substring =>
    let a ← k.clamped (argument args 0) size 0
    let b ← k.clamped (argument args 1) size size
    return .text (s.slice (min a b) (max a b))
  | .split =>
    let limit ← k.clamped (argument args 1) 4294967295 4294967295
    match argument args 0 with
    | .undefined => makeArray ([Value.text s].take limit)
    | v => makeArray (((splitUnits s (← k.toText v)).take limit).map .text)
  | .lower => return .text s.small
  | .upper => return .text s.capital
  | .trim => return .text (trimUnitsEnd (trimUnitsStart s))
  | .trimStart => return .text (trimUnitsStart s)
  | .trimEnd => return .text (trimUnitsEnd s)
  | .concat =>
    let more ← args.mapM k.toText
    return .text (more.foldl (· ++ ·) s)
  | .repeated =>
    let x := Number.toInteger (← k.toNumber (argument args 0))
    if x < 0.0 || x.isInf || x * s.size.toFloat > maxUnits.toFloat then fail .range repeatFault
    return .text (if s.size = 0 then s else repeatUnits s x.toUInt64.toNat)
  | .replace => k.replaceAt s (argument args 0) (argument args 1) fun needle => (s.find? needle 0).toList
  | .replaceAll => k.replaceAt s (argument args 0) (argument args 1) fun needle => placesOf s needle (size + 1) 0
  | .at =>
    let x := Number.toInteger (← k.toNumber (argument args 0))
    match Number.indexOfFloat? (if x < 0.0 then size.toFloat + x else x) with
    | some i => return if i < size then .text (s.slice i (i + 1)) else .undefined
    | none => return .undefined
  | .compare =>
    let other ← k.toText (argument args 0)
    return .number (if s.lt other then -1.0 else if other.lt s then 1.0 else 0.0)
  | .padStart =>
    let wanted := Number.clampPlace (← k.toNumber (argument args 0)) maxUnits
    let filler ← match argument args 1 with
      | .undefined => pure (CodeUnits.ofString " ")
      | v => k.toText v
    return .text (fillUnits (wanted - size) filler ++ s)
  | .padEnd =>
    let wanted := Number.clampPlace (← k.toNumber (argument args 0)) maxUnits
    let filler ← match argument args 1 with
      | .undefined => pure (CodeUnits.ofString " ")
      | v => k.toText v
    return .text (s ++ fillUnits (wanted - size) filler)

end Pagewalk.Script
