/-!
# Locations

A location is where the tag of an element begins in its source: the line from zero, the column from one in
sixteen-bit units, and the offset in bytes.
-/

namespace Pagewalk

/-- A place in a source. -/
structure Location where
  line : Nat
  column : Nat
  offset : Nat
  deriving DecidableEq, Repr, Inhabited

/-- A location with the names of its parts. -/
def Location.described (l : Location) : String :=
  "Location \x7b line: " ++ toString l.line ++ ", column: " ++ toString l.column ++ ", offset: " ++
    toString l.offset ++ " \x7d"

end Pagewalk
