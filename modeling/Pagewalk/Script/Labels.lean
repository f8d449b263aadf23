import Pagewalk.Script.Term

/-!
# Labels

A `break` leaves a loop, a choice among cases or the statement of a label around it, and a `continue` goes on with a
loop around it. The
first of them that has nothing to leave or to go on with is a fault of the body in which it stands; so is a label
within a statement of the same label. Functions are bodies of their own.
-/

namespace Pagewalk.Script

open Text

/-- What stands around a statement: the labels, those of them that belong to loops, and whether there is a loop or at
least a choice among cases. -/
structure Surrounding where
  labels : List Name := []
  loops : List Name := []
  inLoop : Bool := false
  inChoice : Bool := false

/-- Within a loop. -/
def Surrounding.loop (s : Surrounding) : Surrounding := { s with inLoop := true }

/-- The statement is a loop, labels being passed over. -/
def Stmt.isLoop : Stmt → Bool
  | .loop .. => true
  | .whileLoop .. => true
  | .doWhile .. => true
  | .each .. => true
  | .labeled _ s => s.isLoop
  | _ => false

mutual

/-- The fault of the labels of a statement. -/
def Stmt.labelFault? (s : Surrounding) : Stmt → Option String
  | .break none => if s.inLoop || s.inChoice then none else some "illegal break statement"
  | .break (some x) => if s.labels.contains x then none else some ("undefined break target: " ++ x.toText)
  | .continue none => if s.inLoop then none else some "illegal continue statement"
  | .continue (some x) => if s.loops.contains x then none else some ("undefined continue target: " ++ x.toText)
  | .labeled x body =>
    if s.labels.contains x then some ("duplicate label: " ++ x.toText)
    else
      body.labelFault? { s with
        labels := x :: s.labels
        loops := if body.isLoop then x :: s.loops else s.loops }
  | .block body => Stmt.labelFaultOfAll? s body
  | .branch _ yes no => yes.labelFault? s <|> Stmt.labelFaultOfOption? s no
  | .loop _ _ _ body => body.labelFault? s.loop
  | .whileLoop _ body => body.labelFault? s.loop
  | .doWhile body _ => body.labelFault? s.loop
  | .each _ _ _ _ body => body.labelFault? s.loop
  | .select _ cases => Stmt.labelFaultOfCases? { s with inChoice := true } cases
  | .attempt body _ handler last =>
    Stmt.labelFaultOfAll? s body <|> Stmt.labelFaultOfOptions? s handler <|> Stmt.labelFaultOfOptions? s last
  | .several parts => Stmt.labelFaultOfAll? s parts
  | _ => none

/-- The first fault of the labels of some statements. -/
def Stmt.labelFaultOfAll? (s : Surrounding) : List Stmt → Option String
  | [] => none
  | t :: ts => t.labelFault? s <|> Stmt.labelFaultOfAll? s ts

/-- The first fault of the labels of some cases. -/
def Stmt.labelFaultOfCases? (s : Surrounding) : List Case → Option String
  | [] => none
  | .mk _ body :: cs => Stmt.labelFaultOfAll? s body <|> Stmt.labelFaultOfCases? s cs

/-- The fault of the labels of a statement, if there is one. -/
def Stmt.labelFaultOfOption? (s : Surrounding) : Option Stmt → Option String
  | none => none
  | some t => t.labelFault? s

/-- The first fault of the labels of some statements, if there are any. -/
def Stmt.labelFaultOfOptions? (s : Surrounding) : Option (List Stmt) → Option String
  | none => none
  | some ts => Stmt.labelFaultOfAll? s ts

end

end Pagewalk.Script
