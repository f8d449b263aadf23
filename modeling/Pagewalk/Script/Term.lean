import Pagewalk.Text.CodeUnits

/-!
# Script terms

The expressions and statements of a script. Names are sequences of units, as property names are.
-/

namespace Pagewalk.Script

open Text

/-- A name. -/
abbrev Name := CodeUnits

/-- Operators before one operand that look at its value alone. -/
inductive UnaryOp where
  | minus
  | plus
  | not
  | complement
  | void
  deriving DecidableEq, Repr, Inhabited

/-- Operators between two operands that are both evaluated. -/
inductive BinaryOp where
  | add
  | subtract
  | multiply
  | divide
  | remainder
  | power
  | less
  | lessOrEqual
  | greater
  | greaterOrEqual
  | equal
  | notEqual
  | strictEqual
  | notStrictEqual
  | bitAnd
  | bitOr
  | bitXor
  | shiftLeft
  | shiftRight
  | shiftRightZero
  | instanceOf
  | within
  deriving DecidableEq, Repr, Inhabited

/-- Operators whose second operand may be left out. -/
inductive LogicalOp where
  | and
  | or
  | nullish
  deriving DecidableEq, Repr, Inhabited

/-- What an assignment does besides assigning. -/
inductive AssignOp where
  | plain
  | binary (op : BinaryOp)
  | logical (op : LogicalOp)
  deriving DecidableEq, Repr, Inhabited

/-- What a function is like beside its parameters and its body. -/
structure FuncTraits where
  /-- An arrow function has no `this` of its own. -/
  isArrow : Bool := false
  isStrict : Bool := false
  /-- The text mentions `arguments`. -/
  usesArguments : Bool := false
  /-- A method makes no objects. -/
  isMethod : Bool := false
  deriving DecidableEq, Repr, Inhabited

/-- How a name is declared. -/
inductive DeclarationKind where
  | var
  | letting
  | constant
  deriving DecidableEq, Repr, Inhabited

/-- What a loop goes through: the keys of an object or its items. -/
inductive Course where
  | keys
  | items
  deriving DecidableEq, Repr, Inhabited

mutual

/-- An expression. -/
inductive Expr where
  | null
  | bool (b : Bool)
  | number (x : Float)
  | text (s : CodeUnits)
  | this
  | name (x : Name)
  /-- An item of an array that is left out. -/
  | hole
  | array (items : List Expr)
  | object (fields : List Field)
  | func (f : Func)
  /-- A function that knows itself by its name. -/
  | selfFunc (f : Func)
  | unary (op : UnaryOp) (e : Expr)
  | typeOf (e : Expr)
  | delete (e : Expr)
  /-- One is added to the target or taken from it; the value is the new one or the old one. -/
  | update (up : Bool) (isNew : Bool) (target : Expr)
  | binary (op : BinaryOp) (a b : Expr)
  | logical (op : LogicalOp) (a b : Expr)
  | assign (op : AssignOp) (target value : Expr)
  | conditional (test yes no : Expr)
  | sequence (a b : Expr)
  | member (e : Expr) (property : Name)
  | index (e : Expr) (property : Expr)
  | call (f : Expr) (args : List Expr)
  | new (f : Expr) (args : List Expr)

/-- A property of an object expression. -/
inductive Field where
  | value (key : Name) (e : Expr)
  | computed (key : Expr) (e : Expr)
  | getter (key : Name) (f : Func)
  | setter (key : Name) (f : Func)
  /-- What the object inherits from. -/
  | parent (e : Expr)

/-- A function. -/
inductive Func where
  | mk (name : Name) (params : List Name) (body : List Stmt) (traits : FuncTraits)

/-- A statement. -/
inductive Stmt where
  | empty
  | expr (e : Expr)
  | declare (kind : DeclarationKind) (x : Name) (value : Option Expr)
  | func (f : Func)
  | block (body : List Stmt)
  | branch (test : Expr) (yes : Stmt) (no : Option Stmt)
  | loop (start : List Stmt) (test step : Option Expr) (body : Stmt)
  | whileLoop (test : Expr) (body : Stmt)
  | doWhile (body : Stmt) (test : Expr)
  /-- A loop that gives a target, which it may declare, one after another of what is gone through. -/
  | each (course : Course) (kind : Option DeclarationKind) (target source : Expr) (body : Stmt)
  /-- The statements from the first case on whose value is meant. -/
  | select (e : Expr) (cases : List Case)
  | ret (value : Option Expr)
  | throw (value : Expr)
  | break (label : Option Name)
  | continue (label : Option Name)
  | labeled (label : Name) (body : Stmt)
  | attempt (body : List Stmt) (name : Option Name) (handler : Option (List Stmt)) (last : Option (List Stmt))
  /-- Several declarations of one statement. -/
  | several (parts : List Stmt)

/-- A case with the value for which it stands; without one it stands for all others. -/
inductive Case where
  | mk (value : Option Expr) (body : List Stmt)

end

instance : Inhabited Expr := ⟨.null⟩

instance : Inhabited Stmt := ⟨.empty⟩

instance : Inhabited Func := ⟨.mk CodeUnits.empty [] [] {}⟩

namespace Func

/-- The name of a function; empty if it has none. -/
def name : Func → Name
  | mk n .. => n

/-- The names of the parameters. -/
def params : Func → List Name
  | mk _ ps .. => ps

/-- The statements of a function. -/
def body : Func → List Stmt
  | mk _ _ b _ => b

/-- What the function is like. -/
def traits : Func → FuncTraits
  | mk _ _ _ t => t

/-- The function under a name, unless it has one. -/
def named (f : Func) (x : Name) : Func :=
  match f with
  | mk n ps b t => if n.size = 0 then mk x ps b t else mk n ps b t

end Func

/-- The statements of a case. -/
def Case.body : Case → List Stmt
  | mk _ b => b

/-- The statements of all cases. -/
def Case.bodies (cases : List Case) : List Stmt := cases.flatMap Case.body

mutual

/-- The names that a statement declares with `var`, in order. -/
def Stmt.varNames : Stmt → List Name
  | .declare .var x _ => [x]
  | .block body => Stmt.varNamesOfAll body
  | .branch _ yes no => yes.varNames ++ Stmt.varNamesOfOption no
  | .loop start _ _ body => Stmt.varNamesOfAll start ++ body.varNames
  | .whileLoop _ body => body.varNames
  | .doWhile body _ => body.varNames
  | .each _ (some .var) (.name x) _ body => x :: body.varNames
  | .each _ _ _ _ body => body.varNames
  | .select _ cases => Stmt.varNamesOfCases cases
  | .labeled _ body => body.varNames
  | .attempt body _ handler last =>
    Stmt.varNamesOfAll body ++ Stmt.varNamesOfOptions handler ++ Stmt.varNamesOfOptions last
  | .several parts => Stmt.varNamesOfAll parts
  | _ => []

/-- The names that some statements declare with `var`. -/
def Stmt.varNamesOfAll : List Stmt → List Name
  | [] => []
  | s :: ss => s.varNames ++ Stmt.varNamesOfAll ss

/-- The names that some cases declare with `var`. -/
def Stmt.varNamesOfCases : List Case → List Name
  | [] => []
  | .mk _ body :: cs => Stmt.varNamesOfAll body ++ Stmt.varNamesOfCases cs

/-- The names that a statement declares with `var`, if there is one. -/
def Stmt.varNamesOfOption : Option Stmt → List Name
  | none => []
  | some s => s.varNames

/-- The names that some statements declare with `var`, if there are any. -/
def Stmt.varNamesOfOptions : Option (List Stmt) → List Name
  | none => []
  | some ss => Stmt.varNamesOfAll ss

end

/-- The function that a statement declares, labels being passed over. -/
def Stmt.function? : Stmt → Option Func
  | .func f => some f
  | .labeled _ s => s.function?
  | _ => none

/-- The functions that some statements declare. -/
def Stmt.functionsOf (body : List Stmt) : List Func := body.filterMap Stmt.function?

/-- The names that some statements declare with `let` or `const`. -/
def Stmt.blockNamesOf : List Stmt → List (Name × Bool)
  | [] => []
  | .declare .letting x _ :: ss => (x, true) :: blockNamesOf ss
  | .declare .constant x _ :: ss => (x, false) :: blockNamesOf ss
  | .several parts :: ss =>
    parts.filterMap (fun
      | .declare .letting x _ => some (x, true)
      | .declare .constant x _ => some (x, false)
      | _ => none) ++ blockNamesOf ss
  | _ :: ss => blockNamesOf ss

end Pagewalk.Script
