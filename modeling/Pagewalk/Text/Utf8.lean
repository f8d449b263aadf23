/-!
# UTF-8

`decode` reads bytes by the machine of the octets still owed and the bounds of the next one. Each maximal broken
run of bytes gives one `none`, so `lossy` puts one replacement character for it. `encode` writes characters back.
-/

namespace Pagewalk.Text.Utf8

/-- U+FFFD, which stands for what cannot be decoded. -/
def replacement : Char := Char.ofNat 0xFFFD

/-- A sequence that has begun: the octets still owed, the least and greatest next octet, and the bits so far. -/
structure Pending where
  owed : Nat
  low : UInt8
  high : UInt8
  bits : Nat
  deriving DecidableEq, Repr

/-- What a first octet says. -/
inductive Lead where
  | char (c : Char)
  | pending (p : Pending)
  | broken
  deriving DecidableEq, Repr

/-- The reading of an octet that starts a sequence. -/
def lead (b : UInt8) : Lead :=
  if b ≤ 0x7F then .char (Char.ofNat b.toNat)
  else if b < 0xC2 then .broken
  else if b ≤ 0xDF then .pending ⟨1, 0x80, 0xBF, b.toNat - 0xC0⟩
  else if b = 0xE0 then .pending ⟨2, 0xA0, 0xBF, 0⟩
  else if b = 0xED then .pending ⟨2, 0x80, 0x9F, 0xD⟩
  else if b ≤ 0xEF then .pending ⟨2, 0x80, 0xBF, b.toNat - 0xE0⟩
  else if b = 0xF0 then .pending ⟨3, 0x90, 0xBF, 0⟩
  else if b ≤ 0xF3 then .pending ⟨3, 0x80, 0xBF, b.toNat - 0xF0⟩
  else if b = 0xF4 then .pending ⟨3, 0x80, 0x8F, 4⟩
  else .broken

/-- A reading in progress: the sequence that has begun, if any, and what was read, last first. -/
structure Reading where
  pending : Option Pending
  chars : List (Option Char)
  deriving Repr

/-- Takes an octet that starts a sequence. -/
def Reading.start (chars : List (Option Char)) (b : UInt8) : Reading :=
  match lead b with
  | .char c => ⟨none, some c :: chars⟩
  | .pending p => ⟨some p, chars⟩
  | .broken => ⟨none, none :: chars⟩

/-- Takes one octet; an octet that cannot go on with the pending sequence breaks it and starts anew. -/
def Reading.step (r : Reading) (b : UInt8) : Reading :=
  match r.pending with
  | none => .start r.chars b
  | some p =>
    if p.low ≤ b ∧ b ≤ p.high then
      let bits := p.bits * 64 + (b.toNat - 0x80)
      if p.owed ≤ 1 then ⟨none, some (Char.ofNat bits) :: r.chars⟩
      else ⟨some ⟨p.owed - 1, 0x80, 0xBF, bits⟩, r.chars⟩
    else .start (none :: r.chars) b

/-- What was read, first first; a sequence still pending at the end is broken. -/
def Reading.finish (r : Reading) : List (Option Char) :=
  (if r.pending.isSome then none :: r.chars else r.chars).reverse

/-- The characters of a byte sequence; `none` stands for a maximal broken run. -/
def decode (bytes : List UInt8) : List (Option Char) :=
  (bytes.foldl Reading.step ⟨none, []⟩).finish

/-- The text of a byte sequence, each broken run replaced. -/
def lossy (bytes : List UInt8) : String :=
  String.ofList ((decode bytes).map (·.getD replacement))

/-- The bytes of a text. -/
def encode (s : String) : List UInt8 := s.toList.flatMap String.utf8EncodeChar

/-- The number of bytes of a text. -/
def size (s : String) : Nat := s.utf8ByteSize

end Pagewalk.Text.Utf8
