import Pagewalk.Script.Operators

/-!
# Values written as data

An object is written as its properties in braces, an array as its items in square brackets. An object may say
itself what is written for it. Functions and what is undefined are left out of objects and written as null in
arrays; an object that would be written inside itself is a fault.
-/

namespace Pagewalk.Script

open Text

/-- Four small hexadecimal digits of a unit. -/
def unitEscape (u : UInt16) : CodeUnits := CodeUnits.ofString ("\\u" ++ Text.digits 16 4 u.toNat)

/-- The written form of a character of a text. -/
def writtenChar (c : Char) : CodeUnits :=
  match c with
  | '"' => "\\\""
  | '\\' => "\\\\"
  | '\n' => "\\n"
  | '\r' => "\\r"
  | '\t' => "\\t"
  | c =>
    if c.toNat = 8 then "\\b"
    else if c.toNat = 12 then "\\f"
    else if c.toNat < 32 then unitEscape c.toNat.toUInt16
    else CodeUnits.ofChars [c]

/-- A text between double quotes; a lone half is written as an escape. -/
def writtenText (s : CodeUnits) : CodeUnits :=
  let inner := (decodeUnits s.val.toList).foldl (fun (acc : CodeUnits) c =>
    match c with
    | .ok c => acc ++ writtenChar c
    | .error h => acc ++ unitEscape h) ("\"" : CodeUnits)
  inner ++ ("\"" : CodeUnits)

/-- How values are written: what each level is indented by, the keys that are allowed, and what a function puts in
the place of each value. -/
structure Writing where
  gap : CodeUnits
  allowed : Option (List Name)
  replacer : Option Value

/-- Parts in brackets: on one line, or each on a line of its own. -/
def bracketed (w : Writing) (indent : CodeUnits) (opening closing : String) (parts : List CodeUnits) : CodeUnits :=
  if parts.isEmpty then CodeUnits.ofString (opening ++ closing)
  else if w.gap.size = 0 then
    CodeUnits.ofString opening ++ CodeUnits.join "," parts ++ CodeUnits.ofString closing
  else
    let line := ("\n" : CodeUnits) ++ indent ++ w.gap
    CodeUnits.ofString opening ++ line ++ CodeUnits.join (("," : CodeUnits) ++ line) parts ++
      ("\n" : CodeUnits) ++ indent ++ CodeUnits.ofString closing

/-- What is written for a value under a key, before it is looked at: the object itself may say, and so may the
function of the writing. -/
def Kernel.prepared (k : Kernel) (w : Writing) (holder : Ref) (key : Name) (v : Value) : Run Value := do
  let v ← match v with
    | .object r =>
      let f ← k.property r "toJSON"
      if ← isCallable f then k.apply f v [.text key] else pure v
    | v => pure v
  let v ← match w.replacer with
    | some f => k.apply f (.object holder) [.text key, v]
    | none => pure v
  match v with
  | .object r =>
    match (← object r).shape with
    | .boxed (.number _) => return .number (← k.toNumber v)
    | .boxed (.text _) => return .text (← k.toText v)
    | .boxed (.bool b) => return .bool b
    | _ => return v
  | v => return v

/-- The written form of a value under a key; `none` if it is left out. The depth of objects in objects is bounded,
and no object may stand within itself. -/
def Kernel.written? (k : Kernel) (w : Writing) :
    Nat → (around : List Ref) → (indent : CodeUnits) → (holder : Ref) → (key : Name) → Value → Run (Option CodeUnits)
  | 0, _, _, _, _, _ => throw (.limit "exceeded maximum number of recursive calls")
  | n + 1, around, indent, holder, key, v => do
    match ← k.prepared w holder key v with
    | .undefined => return none
    | .null => return some "null"
    | .bool true => return some "true"
    | .bool false => return some "false"
    | .number x => return some (if x.isNaN || x.isInf then "null" else CodeUnits.ofString (Decimal.compact x))
    | .text s => return some (writtenText s)
    | .object r =>
      let o ← object r
      if o.isCallable then return none
      if around.contains r then typeFault "cyclic object value"
      let around := r :: around
      let inner := indent ++ w.gap
      match o.shape with
      | .array .. =>
        let count ← k.lengthOf r
        let parts ← (List.range count).mapM fun i => do
          let part ← k.written? w n around inner r (CodeUnits.ofString (toString i)) (← k.item r i)
          return part.getD "null"
        return some (bracketed w indent "[" "]" parts)
      | _ =>
        let keys ← match w.allowed with
          | some ks => pure ks
          | none => enumerableKeys r
        let parts ← keys.filterMapM fun key => do
          match ← k.written? w n around inner r key (← k.property r key) with
          | none => return none
          | some s =>
            return some (writtenText key ++ (if w.gap.size = 0 then (":" : CodeUnits) else (": " : CodeUnits)) ++ s)
        return some (bracketed w indent "\x7b" "\x7d" parts)

/-- The indentation that an argument asks for: so many blanks, or the start of a text. -/
def Kernel.gap (k : Kernel) (v : Value) : Run CodeUnits := do
  let v ← match v with
    | .object r =>
      match (← object r).shape with
      | .boxed (.number _) => pure (Value.number (← k.toNumber v))
      | .boxed (.text _) => pure (Value.text (← k.toText v))
      | _ => pure v
    | v => pure v
  match v with
  | .number x => return CodeUnits.ofString (String.ofList (List.replicate (Number.clampPlace x 10) ' '))
  | .text s => return s.slice 0 10
  | _ => return CodeUnits.empty

/-- The written form of a value as the arguments ask for it. -/
def Kernel.writeData (k : Kernel) (v replacer space : Value) : Run Value := do
  let (allowed, f) ← match replacer with
    | .object r =>
      let o ← object r
      if o.isCallable then pure (none, some replacer)
      else if o.items?.isSome then
        let names ← (← k.itemsOf r).filterMapM fun item => do
          match item with
          | .text s => return some s
          | .number _ => return some (← k.toText item)
          | _ => return none
        pure (some names.eraseDups, none)
      else pure (none, none)
    | _ => pure (none, none)
  let gap ← k.gap space
  let holder ← makeObject
  defineProperty holder CodeUnits.empty (.plain v)
  match ← k.written? ⟨gap, allowed, f⟩ 4000 [] CodeUnits.empty holder CodeUnits.empty v with
  | some s => return .text s
  | none => return .undefined

end Pagewalk.Script
