import Pagewalk.Script.Labels
import Pagewalk.Script.Reading

/-!
# Reading scripts

A script is read by descent, operators by their rank. A statement that no semicolon ends is ended by a closing
brace, by the end of a line or by the end of the script. The descent is as deep as its bound allows, which for a
whole script is more than its tokens can need.
-/

namespace Pagewalk.Script

open Text Parse

/-- The rank of an operator between two operands, greater for one that binds more tightly. -/
def binaryRank? (t : Token) (noIn : Bool) : Option (Nat × (BinaryOp)) :=
  match t with
  | .mark "|" => some (1, .bitOr)
  | .mark "^" => some (2, .bitXor)
  | .mark "&" => some (3, .bitAnd)
  | .mark "==" => some (4, .equal)
  | .mark "!=" => some (4, .notEqual)
  | .mark "===" => some (4, .strictEqual)
  | .mark "!==" => some (4, .notStrictEqual)
  | .mark "<" => some (5, .less)
  | .mark "<=" => some (5, .lessOrEqual)
  | .mark ">" => some (5, .greater)
  | .mark ">=" => some (5, .greaterOrEqual)
  | .name "instanceof" => some (5, .instanceOf)
  | .name "in" => if noIn then none else some (5, .within)
  | .mark "<<" => some (6, .shiftLeft)
  | .mark ">>" => some (6, .shiftRight)
  | .mark ">>>" => some (6, .shiftRightZero)
  | .mark "+" => some (7, .add)
  | .mark "-" => some (7, .subtract)
  | .mark "*" => some (8, .multiply)
  | .mark "/" => some (8, .divide)
  | .mark "%" => some (8, .remainder)
  | _ => none

/-- The assignment that a mark stands for. -/
def assignOp? : Token → Option AssignOp
  | .mark "=" => some .plain
  | .mark "+=" => some (.binary .add)
  | .mark "-=" => some (.binary .subtract)
  | .mark "*=" => some (.binary .multiply)
  | .mark "/=" => some (.binary .divide)
  | .mark "%=" => some (.binary .remainder)
  | .mark "**=" => some (.binary .power)
  | .mark "<<=" => some (.binary .shiftLeft)
  | .mark ">>=" => some (.binary .shiftRight)
  | .mark ">>>=" => some (.binary .shiftRightZero)
  | .mark "&=" => some (.binary .bitAnd)
  | .mark "|=" => some (.binary .bitOr)
  | .mark "^=" => some (.binary .bitXor)
  | .mark "&&=" => some (.logical .and)
  | .mark "||=" => some (.logical .or)
  | .mark "??=" => some (.logical .nullish)
  | _ => none

/-- An expression to which a value can be assigned. -/
def Expr.isTarget : Expr → Bool
  | .name _ => true
  | .member .. => true
  | .index .. => true
  | _ => false

/-- An expression under a name that it is assigned to; only a function without a name takes it. -/
def Expr.named (e : Expr) (x : Name) : Expr :=
  match e with
  | .func f => .func (f.named x)
  | e => e

/-- The key of a property as a token writes it. -/
def propertyKey? : Token → Option Name
  | .name s => some (CodeUnits.ofString s)
  | .text s => some s
  | .number x => some (CodeUnits.ofString (Decimal.compact x))
  | _ => none

/-- The key under which a field tells what its object inherits from. -/
def parentFieldKey : Name := "__proto__"

/-- What a loop goes through, as a word in its head tells. -/
def Token.course? : Token → Option Course
  | .name "in" => some .keys
  | .name "of" => some .items
  | _ => none

/-- The names in an expression in brackets, if they can be the parameters of an arrow function. -/
def Expr.parameters? : Expr → Option (List Name)
  | .name x => some [x]
  | .sequence a (.name x) => a.parameters?.map (· ++ [x])
  | _ => none

namespace Parse

/-- The fault of parameters of the same name. -/
def refuseDoubles (params : List Name) (p : Place) : Parse Unit := do
  if params.eraseDups.length < params.length then failAt "Duplicate parameter name not allowed in this context" p

/-- The fault of the labels of a body. -/
def checkLabels (body : List Stmt) : Parse Unit := do
  match Stmt.labelFaultOfAll? {} body with
  | some fault => failAt fault ⟨1, 1⟩
  | none => return ()

/-- The names of parameters up to the closing mark, which is not taken. -/
def parameters : Nat → Parse (List Name)
  | 0 => abrupt
  | n + 1 => do
    if (← need).token.isMark ")" then return []
    let x ← takeDeclared
    if (← need).token.isMark ")" then return [x]
    discard <| needMark "," "parameter list"
    return x :: (← parameters n)

/-- No name is declared twice among some statements, unless it is a variable or a function. -/
def refuseLexicalDoubles (body : List Stmt) : Parse Unit := do
  let names := (Stmt.blockNamesOf body).map (·.1)
  let others := Stmt.varNamesOfAll body ++ (Stmt.functionsOf body).map Func.name
  if names.eraseDups.length < names.length || names.any others.contains then
    failAt "lexical name declared multiple times" ⟨1, 1⟩

/-- No name belongs twice to the block of some statements. Outside strict code functions may share one. -/
def refuseDoublesIn (body : List Stmt) (p : Place) : Parse Unit := do
  let names := (Stmt.blockNamesOf body).map (·.1)
  let functions := (Stmt.functionsOf body).map Func.name
  let own := names ++ if (← get).isStrict then functions else functions.eraseDups
  if own.eraseDups.length < own.length || (Stmt.varNamesOfAll body).any own.contains then
    failAt "lexical name declared multiple times" p

/-- What is in the head of a loop that goes through something, before the word that tells this: an expression to which
a value can be assigned, or the declaration of one name. -/
def eachTarget (course : Course) (start : Stmt) (more : List Stmt) (p : Place) :
    Parse (Option DeclarationKind × Expr) := do
  let loop := if course == .keys then "for-in" else "for-of"
  match start, more with
  | .expr e, _ =>
    match e with
    | .name x =>
      if (← get).isStrict && isGuarded x then
        failAt "cannot use \x60eval\x60 or \x60arguments\x60 as iterable loop variable in strict code" p
    | _ => if !e.isTarget then failAt "invalid variable for iterable loop" p
    return (none, e)
  | .declare kind x none, [] => return (some kind, .name x)
  | .declare .., [] => failAt ("a declaration in the head of a " ++ loop ++ " loop can't have an initializer") p
  | _, _ => failAt ("only one variable can be declared in the head of a " ++ loop ++ " loop") p

mutual

/-- Expressions parted by commas. -/
def expression (noIn : Bool) : Nat → Parse Expr
  | 0 => abrupt
  | n + 1 => do
    let e ← assignment noIn n
    sequenceRest noIn e n

/-- What follows an expression after commas. A comma before a closing bracket is left to what is around. -/
def sequenceRest (noIn : Bool) (e : Expr) : Nat → Parse Expr
  | 0 => abrupt
  | n + 1 => do
    if !(← atMark ",") then return e
    let next ← needAt 1
    if next.token.isMark ")" || next.token.isMark "..." then return e
    discard take
    let b ← assignment noIn n
    sequenceRest noIn (.sequence e b) n

/-- The body of an arrow function from its arrow on. -/
def arrowBody (params : List Name) (noIn : Bool) : Nat → Parse Expr
  | 0 => abrupt
  | n + 1 => do
    match ← lineEnd? with
    | some p => failAt "unexpected token 'line terminator', arrow function" p
    | none => pure ()
    discard <| needMark "=>" "arrow function"
    if ← takeMark "\x7b" then return .func (← functionBody CodeUnits.empty params ⟨1, 1⟩ { isArrow := true } n)
    let e ← assignment noIn n
    let s ← get
    return .func (.mk CodeUnits.empty params [.ret (some e)]
      { isArrow := true, isStrict := s.isStrict, usesArguments := s.sawArguments })

/-- An expression without commas. -/
def assignment (noIn : Bool) : Nat → Parse Expr
  | 0 => abrupt
  | n + 1 => do
    let start ← need
    let isArrow ←
      if start.token.isFreeName then do
        let next ← peekAt 1
        pure (next.token.isMark "=>" && next.lineEnd.isNone)
      else pure false
    if isArrow then
      let x ← takeDeclared
      return ← arrowBody [x] noIn n
    let left ← conditional noIn n
    match (← get).arrow with
    | some params =>
      modify fun s => { s with arrow := none }
      arrowBody params noIn n
    | none =>
      let t ← peek
      match assignOp? t.token with
      | none => return left
      | some op =>
        match left, op with
        | .name x, .plain => refuseGuarded x start.start
        | _, _ => pure ()
        discard take
        let isGuardedTarget ← match left with
          | .name x => pure ((← get).isStrict && isGuarded x)
          | _ => pure false
        if !left.isTarget || isGuardedTarget then failAt "Invalid left-hand side in assignment" t.start
        let value ← assignment noIn n
        match left with
        | .name x => return .assign op left (value.named x)
        | _ => return .assign op left value

/-- A test with two outcomes, or an expression without one. -/
def conditional (noIn : Bool) : Nat → Parse Expr
  | 0 => abrupt
  | n + 1 => do
    let test ← logical noIn none n
    if ← takeMark "?" then
      let yes ← assignment false n
      discard <| needMark ":" "conditional expression"
      return .conditional test yes (← assignment noIn n)
    else return test

/-- Operands with logical operators between them; what stands for nothing is not asked for among truth values. -/
def logical (noIn : Bool) (previous : Option LogicalOp) : Nat → Parse Expr
  | 0 => abrupt
  | n + 1 => do
    let e ← binary noIn 0 n
    logicalRest noIn previous e n

/-- What follows an operand after logical operators. -/
def logicalRest (noIn : Bool) (previous : Option LogicalOp) (e : Expr) : Nat → Parse Expr
  | 0 => abrupt
  | n + 1 => do
    let t ← peek
    let apart := "logical expression (cannot use '??' without parentheses within '||' or '&&')"
    match t.token with
    | .mark "&&" =>
      if previous == some .nullish then misplaced t ["??"] apart
      discard take
      logicalRest noIn (some .and) (.logical .and e (← binary noIn 0 n)) n
    | .mark "||" =>
      if previous == some .nullish then misplaced t ["??"] apart
      discard take
      logicalRest noIn (some .or) (.logical .or e (← logical noIn (some .or) n)) n
    | .mark "??" =>
      if previous.any (· != .nullish) then misplaced t [] "cannot use '??' unparenthesized within '||' or '&&'"
      discard take
      logicalRest noIn (some .nullish) (.logical .nullish e (← binary noIn 0 n)) n
    | _ => return e

/-- Operands with operators of at least some rank between them. -/
def binary (noIn : Bool) (least : Nat) : Nat → Parse Expr
  | 0 => abrupt
  | n + 1 => do
    let left ← exponentiation n
    binaryRest noIn least left n

/-- What follows an operand after operators of at least some rank. -/
def binaryRest (noIn : Bool) (least : Nat) (left : Expr) : Nat → Parse Expr
  | 0 => abrupt
  | n + 1 => do
    match binaryRank? (← peek).token noIn with
    | none => return left
    | some (rank, op) =>
      if rank < least then return left
      discard take
      let right ← binary noIn (rank + 1) n
      binaryRest noIn least (.binary op left right) n

/-- An operand with its powers; a base has no operator before it. -/
def exponentiation : Nat → Parse Expr
  | 0 => abrupt
  | n + 1 => do
    match (← need).token with
    | .mark "-" => unary n
    | .mark "+" => unary n
    | .mark "!" => unary n
    | .mark "~" => unary n
    | .name "void" => unary n
    | .name "typeof" => unary n
    | .name "delete" => unary n
    | _ =>
      let base ← update n
      if ← takeMark "**" then return .binary .power base (← exponentiation n) else return base

/-- An operand with the operators before it. -/
def unary : Nat → Parse Expr
  | 0 => abrupt
  | n + 1 => do
    let t ← need
    match t.token with
    | .mark "-" => discard take; return .unary .minus (← unary n)
    | .mark "+" => discard take; return .unary .plus (← unary n)
    | .mark "!" => discard take; return .unary .not (← unary n)
    | .mark "~" => discard take; return .unary .complement (← unary n)
    | .name "void" => discard take; return .unary .void (← unary n)
    | .name "typeof" => discard take; return .typeOf (← unary n)
    | .name "delete" =>
      discard take
      let e ← unary n
      match e with
      | .name _ => if (← get).isStrict then failAt "cannot delete variables in strict mode" t.start
      | _ => pure ()
      return .delete e
    | _ => update n

/-- The target of a change by one, which was written at a place. -/
def changed (up isNew : Bool) (e : Expr) (p : Place) : Nat → Parse Expr
  | 0 => abrupt
  | _ + 1 => do
    match e with
    | .name x => refuseGuarded x p
    | _ => pure ()
    if e.isTarget then return .update up isNew e else failAt "Invalid left-hand side in assignment" p

/-- An operand with a mark that changes it by one before it or right after it. -/
def update : Nat → Parse Expr
  | 0 => abrupt
  | n + 1 => do
    let t ← need
    match t.token with
    | .mark "++" => discard take; changed true true (← unary n) t.start n
    | .mark "--" => discard take; changed false true (← unary n) t.start n
    | _ =>
      let e ← operand n
      if (← lineEnd?).isSome then return e
      let after ← peek
      match after.token with
      | .mark "++" => discard take; changed true false e after.start n
      | .mark "--" => discard take; changed false false e after.start n
      | _ => return e

/-- An operand with its properties and calls. -/
def operand : Nat → Parse Expr
  | 0 => abrupt
  | n + 1 => do
    let e ← member n
    if ← atMark "(" then callRest (.call e (← arguments n)) n else return e

/-- What follows a call: properties and further calls. -/
def callRest (e : Expr) : Nat → Parse Expr
  | 0 => abrupt
  | n + 1 => do
    let t ← peek
    match t.token with
    | .mark "(" => callRest (.call e (← arguments n)) n
    | .mark "." =>
      discard take
      match (← takeNeeded).token with
      | .name s => callRest (.member e (CodeUnits.ofString s)) n
      | _ => misplaced t ["identifier"] "call expression"
    | .mark "[" =>
      discard take
      let key ← expression false n
      discard <| needMark "]" "call expression"
      callRest (.index e key) n
    | _ => return e

/-- An operand with its properties; one that is made takes its arguments with it. -/
def member : Nat → Parse Expr
  | 0 => abrupt
  | n + 1 => do
    if (← need).token.isWord "new" then
      discard take
      let f ← member n
      let args ← if ← atMark "(" then arguments n else pure []
      memberRest (.new f args) n
    else
      memberRest (← primary n) n

/-- What follows an operand: its properties. -/
def memberRest (e : Expr) : Nat → Parse Expr
  | 0 => abrupt
  | n + 1 => do
    match (← peek).token with
    | .mark "." =>
      discard take
      let p ← takeNeeded
      match p.token with
      | .name s => memberRest (.member e (CodeUnits.ofString s)) n
      | _ => misplaced p ["identifier"] "member expression"
    | .mark "[" =>
      discard take
      let key ← expression false n
      discard <| needMark "]" "member expression"
      memberRest (.index e key) n
    | _ => return e

/-- The arguments of a call in their brackets. -/
def arguments : Nat → Parse (List Expr)
  | 0 => abrupt
  | n + 1 => do
    discard <| needMark "(" "arguments"
    argumentsFrom true n

/-- The arguments up to the closing mark. -/
def argumentsFrom (isFirst : Bool) : Nat → Parse (List Expr)
  | 0 => abrupt
  | n + 1 => do
    let t ← need
    match t.token with
    | .mark ")" => discard take; return []
    | .mark "," =>
      discard take
      if isFirst then unexpected t "argument list"
      if ← takeMark ")" then return []
    | _ => if !isFirst then misplaced t [",", ")"] "argument list"
    let e ← assignment false n
    return e :: (← argumentsFrom false n)

/-- A literal, a name, a function, or an expression in brackets. -/
def primary : Nat → Parse Expr
  | 0 => abrupt
  | n + 1 => do
    let t ← need
    match t.token with
    | .number x => discard take; return .number x
    | .text s => discard take; return .text s
    | .mark "(" => discard take; bracketed n
    | .mark "[" => discard take; return .array (← items false n)
    | .mark "\x7b" => discard take; return .object (← fields false n)
    | .name "function" =>
      discard take
      let name ← if (← need).token.isFreeName then takeDeclared else pure CodeUnits.empty
      let f ← functionRest name "function expression" n
      if name.size = 0 then return .func f else return .selfFunc f
    | .name "this" => discard take; return .this
    | .name "null" => discard take; return .null
    | .name "true" => discard take; return .bool true
    | .name "false" => discard take; return .bool false
    | token => if token.isFreeName then return .name (← takeUsed) else unexpected t "primary expression"

/-- What follows an opening bracket: an expression, or the parameters of an arrow function. -/
def bracketed : Nat → Parse Expr
  | 0 => abrupt
  | n + 1 => do
    let both := "CoverParenthesizedExpressionAndArrowParameterList"
    let first ← need
    let (inner, comma) ←
      if first.token.isMark ")" then
        discard take
        pure (none, none)
      else do
        let e ← expression false n
        let next ← takeNeeded
        match next.token with
        | .mark ")" => pure (some e, none)
        | .mark "," =>
          let last ← takeNeeded
          if last.token.isMark ")" then pure (some e, some last)
          else misplaced last [")", "..."] both
        | _ => misplaced next [")", ","] both
    let next ← peek
    if next.token.isMark "=>" && next.lineEnd.isNone then
      match inner with
      | none => modify fun s => { s with arrow := some [] }
      | some e =>
        match e.parameters? with
        | some params => modify fun s => { s with arrow := some params }
        | none => unexpected next "invalid formal parameter list"
      return .null
    match inner, comma with
    | some _, some last =>
      failAt "unexpected token ',', trailing comma in parenthesized expression" last.start
    | some e, none => return e
    | none, _ => unexpected first "empty parenthesized expression"

/-- The items of an array up to the closing mark. -/
def items (afterItem : Bool) : Nat → Parse (List Expr)
  | 0 => abrupt
  | n + 1 => do
    let t ← need
    match t.token with
    | .mark "]" => discard take; return []
    | .mark "," =>
      discard take
      if afterItem then items false n else return .hole :: (← items false n)
    | _ =>
      if afterItem then unexpected t "expected comma or end of array"
      let e ← assignment false n
      return e :: (← items true n)

/-- The properties of an object up to the closing mark. Only one of them may tell what the object inherits from. -/
def fields (hasParent : Bool) : Nat → Parse (List Field)
  | 0 => abrupt
  | n + 1 => do
    if ← takeMark "\x7d" then return []
    let start ← need
    let f ← objectField n
    let isParent := match f with
      | .parent _ => true
      | _ => false
    let rest ←
      if ← takeMark "\x7d" then pure []
      else do
        if ← takeMark "," then fields (hasParent || isParent) n
        else misplaced (← takeNeeded) [",", "\x7d"] "object literal"
    if isParent && hasParent then
      failAt "Duplicate __proto__ fields are not allowed in object literals." start.start
    return f :: rest

/-- The key of a property: a name, a literal, or an expression in square brackets. -/
def fieldKey : Nat → Parse (Name ⊕ Expr)
  | 0 => abrupt
  | n + 1 => do
    let t ← need
    if t.token.isMark "[" then
      discard take
      let e ← assignment false n
      discard <| needMark "]" "expected token ']'"
      return .inr e
    match propertyKey? t.token with
    | some key =>
      discard take
      return .inl key
    | none => abrupt

/-- A property of an object. -/
def objectField : Nat → Parse Field
  | 0 => abrupt
  | n + 1 => do
    let t ← need
    let next ← needAt 1
    if next.token.isMark "\x7d" || next.token.isMark "," then
      let x ← takeUsed
      return .value x (.name x)
    let key ← fieldKey n
    if ← takeMark ":" then
      let e ← assignment false n
      match key with
      | .inl name =>
        if name == parentFieldKey then return .parent e else return .value name (e.named name)
      | .inr key => return .computed key e
    let isMethod := (← need).token.isMark "("
    match t.token, isMethod with
    | .name "get", false =>
      match ← fieldKey n with
      | .inl name =>
        discard <| needMark "(" "get method definition"
        discard <| needMark ")" "get method definition"
        discard <| needMark "\x7b" "get method definition"
        return .getter name (← functionBody name [] ⟨1, 1⟩ { isMethod := true } n)
      | .inr _ => abrupt
    | .name "set", false =>
      match ← fieldKey n with
      | .inl name =>
        let opening ← needMark "(" "set method definition"
        let x ← takeDeclared
        discard <| needMark ")" "set method definition"
        discard <| needMark "\x7b" "set method definition"
        return .setter name (← functionBody name [x] opening.stop { isMethod := true } n)
      | .inr _ => abrupt
    | _, _ =>
      let opening ← needMark "(" "method definition"
      let params ← parameters n
      discard <| needMark ")" "method definition"
      refuseDoubles params opening.stop
      discard <| needMark "\x7b" "method definition"
      match key with
      | .inl name =>
        return .value name (.func (← functionBody name params opening.stop { isMethod := true } n))
      | .inr e =>
        return .computed e (.func (← functionBody CodeUnits.empty params opening.stop { isMethod := true } n))

/-- The parameters and the body of a function, after its name. -/
def functionRest (name : Name) (context : String) : Nat → Parse Func
  | 0 => abrupt
  | n + 1 => do
    let opening ← needMark "(" context
    let params ← parameters n
    discard <| needMark ")" context
    discard <| needMark "\x7b" context
    functionBody name params opening.stop {} n

/-- The body of a function, after its opening brace. Strict code may not have two parameters of one name. -/
def functionBody (name : Name) (params : List Name) (start : Place) (traits : FuncTraits) : Nat → Parse Func
  | 0 => abrupt
  | n + 1 => do
    let outer ← get
    set { outer with sawArguments := false }
    let body ← withReader (fun _ => true) (statements true true n)
    let inner ← get
    checkLabels body
    set { inner with
      isStrict := outer.isStrict
      sawArguments := outer.sawArguments || (traits.isArrow && inner.sawArguments) }
    discard <| needMark "\x7d" "function body"
    if inner.isStrict then refuseDoubles params start
    return .mk name params body
      { traits with isStrict := inner.isStrict, usesArguments := inner.sawArguments }

/-- Statements up to a closing brace, which is not taken, or up to the end. Texts at the start of a body may be
directives; one of them makes the rest strict. -/
def statements (inBraces prologue : Bool) : Nat → Parse (List Stmt)
  | 0 => abrupt
  | n + 1 => do
    let t ← peek
    if inBraces && t.token.isMark "\x7d" then return []
    match t.token with
    | .finish => return []
    | token =>
      let s ← item n
      let isText := match token, s with
        | .text _, .expr (.text _) => true
        | _, _ => false
      if prologue && isText && t.stop.column = t.start.column + 12 then
        match token with
        | .text u => if u == CodeUnits.ofString "use strict" then modify fun r => { r with isStrict := true }
        | _ => pure ()
      semicolons n
      return s :: (← statements inBraces (prologue && isText) n)

/-- Takes the semicolons that follow a statement. -/
def semicolons : Nat → Parse Unit
  | 0 => return ()
  | n + 1 => do if ← takeMark ";" then semicolons n

/-- A declaration or a statement. -/
def item : Nat → Parse Stmt
  | 0 => abrupt
  | n + 1 => do
    match (← need).token with
    | .name "function" =>
      discard take
      functionDeclaration n
    | .name "const" =>
      discard take
      let ds ← lexicalDeclarations .constant false n
      endStatement "lexical declaration"
      return .several ds
    | .name "let" =>
      if (← peekAt 1).token.isFreeName then
        discard take
        let ds ← lexicalDeclarations .letting false n
        endStatement "lexical declaration"
        return .several ds
      else statement n
    | _ => statement n

/-- A function under its name, after its word. -/
def functionDeclaration : Nat → Parse Stmt
  | 0 => abrupt
  | n + 1 => do
    let t ← need
    if t.token.isMark "(" then unexpected t "function declaration"
    let name ← takeDeclared
    return .func (← functionRest name "function declaration" n)

/-- A block in its braces. -/
def block : Nat → Parse (List Stmt)
  | 0 => abrupt
  | n + 1 => do
    let t ← needMark "\x7b" "block"
    let body ← statements true false n
    discard <| needMark "\x7d" "block"
    refuseDoublesIn body t.stop
    return body

/-- Declarations of variables. -/
def varDeclarations (noIn : Bool) : Nat → Parse (List Stmt)
  | 0 => abrupt
  | n + 1 => do
    let x ← takeDeclared
    let value ← if ← takeMark "=" then pure (some ((← assignment noIn n).named x)) else pure none
    let d := Stmt.declare .var x value
    if ← takeMark "," then return d :: (← varDeclarations noIn n) else return [d]

/-- Declarations of names that belong to their block. -/
def lexicalDeclarations (kind : DeclarationKind) (noIn : Bool) : Nat → Parse (List Stmt)
  | 0 => abrupt
  | n + 1 => do
    let x ← takeDeclared
    let value ← if ← takeMark "=" then pure (some ((← assignment noIn n).named x)) else pure none
    if value.isNone && kind == .constant && !noIn then
      failAt "Expected initializer for const declaration" (← takeNeeded).start
    let d := Stmt.declare kind x value
    if ← atStatementEnd then return [d]
    if noIn && (← peek).token.course?.isSome then return [d]
    let t ← takeNeeded
    if t.token.isMark "," then return d :: (← lexicalDeclarations kind noIn n)
    else misplaced t [";", "line terminator"] "lexical declaration binding list"

/-- A statement. -/
def statement : Nat → Parse Stmt
  | 0 => abrupt
  | n + 1 => do
    let t ← need
    match t.token with
    | .mark "\x7b" => return .block (← block n)
    | .mark ";" => discard take; return .empty
    | .name "var" =>
      discard take
      let ds ← varDeclarations false n
      endStatement "variable statement"
      return .several ds
    | .name "if" => discard take; branch n
    | .name "for" => discard take; forStatement n
    | .name "while" =>
      discard take
      discard <| needMark "(" "while statement"
      let test ← expression false n
      discard <| needMark ")" "while statement"
      return .whileLoop test (← statement n)
    | .name "do" =>
      discard take
      let body ← statement n
      let next ← need
      if !next.token.isWord "while" then misplaced next ["while"] "do while statement"
      discard take
      discard <| needMark "(" "do while statement"
      let test ← expression false n
      discard <| needMark ")" "do while statement"
      discard <| takeMark ";"
      return .doWhile body test
    | .name "return" =>
      if !(← read) then unexpected t "statement"
      discard take
      if ← atStatementEnd then
        takeStatementEnd
        return .ret none
      let e ← expression false n
      endStatement "return statement"
      return .ret (some e)
    | .name "throw" =>
      discard take
      match ← lineEnd? with
      | some p => failAt "unexpected token 'line terminator', throw statement" p
      | none => pure ()
      let e ← expression false n
      endStatement "throw statement"
      return .throw e
    | .name "break" => discard take; return .break (← label? "break statement" n)
    | .name "continue" => discard take; return .continue (← label? "continue statement" n)
    | .name "try" => discard take; attempt n
    | .name "switch" => discard take; selection n
    | token =>
      if token.isFreeName && (← peekAt 1).token.isMark ":" then
        let x ← takeName
        discard take
        let next ← need
        if next.token.isWord "function" then
          if (← get).isStrict then
            failAt "In strict mode code, functions can only be declared at top level or inside a block."
              next.start
          discard take
          return .labeled x (← functionDeclaration n)
        return .labeled x (← statement n)
      else expressionStatement n

/-- The label that a statement names, and the end of the statement. -/
def label? (context : String) : Nat → Parse (Option Name)
  | 0 => abrupt
  | _ + 1 => do
    if ← atStatementEnd then
      takeStatementEnd
      return none
    let x ← takeName
    endStatement context
    return some x

/-- An expression as a statement. -/
def expressionStatement : Nat → Parse Stmt
  | 0 => abrupt
  | n + 1 => do
    let t ← need
    if t.token.isWord "function" || t.token.isWord "class" then unexpected t "expression statement"
    let e ← expression false n
    endStatement "expression statement"
    return .expr e

/-- A statement that depends on a test; a function may stand for it. -/
def clause : Nat → Parse Stmt
  | 0 => abrupt
  | n + 1 => do
    if (← need).token.isWord "function" && !(← get).isStrict then
      discard take
      return .block [← functionDeclaration n]
    else statement n

/-- A test with one or two statements, after its word. -/
def branch : Nat → Parse Stmt
  | 0 => abrupt
  | n + 1 => do
    discard <| needMark "(" "if statement"
    let test ← expression false n
    discard <| needMark ")" "if statement"
    let yes ← clause n
    if ← takeWord "else" then return .branch test yes (some (← clause n)) else return .branch test yes none

/-- A loop with a start, a test and a step, after its word. -/
def forStatement : Nat → Parse Stmt
  | 0 => abrupt
  | n + 1 => do
    discard <| needMark "(" "for statement"
    let t ← need
    let isLet ← if t.token.isWord "let" then pure (← peekAt 1).token.isFreeName else pure false
    let start ←
      if t.token.isMark ";" then pure []
      else if t.token.isWord "var" then
        discard take
        varDeclarations true n
      else if isLet then
        discard take
        lexicalDeclarations .letting true n
      else if t.token.isWord "const" then
        discard take
        lexicalDeclarations .constant true n
      else
        pure [Stmt.expr (← expression true n)]
    let next ← need
    match next.token.course?, start with
    | some course, d :: more =>
      let (kind, target) ← eachTarget course d more next.start
      discard take
      let source ← if course == .keys then expression false n else assignment false n
      discard <| needMark ")" "for in/of statement"
      discard need
      return .each course kind target source (← statement n)
    | _, _ => pure ()
    discard <| needMark ";" "for statement"
    let test ← if (← need).token.isMark ";" then pure none else pure (some (← expression false n))
    discard <| needMark ";" "for statement"
    let step ← if (← need).token.isMark ")" then pure none else pure (some (← expression false n))
    discard <| needMark ")" "for statement"
    discard need
    return .loop start test step (← statement n)

/-- A choice among cases, after its word. -/
def selection : Nat → Parse Stmt
  | 0 => abrupt
  | n + 1 => do
    discard <| needMark "(" "switch statement"
    let e ← expression false n
    discard <| needMark ")" "switch statement"
    let t ← need
    discard <| needMark "\x7b" "switch case block"
    let cs ← cases false n
    refuseDoublesIn (Case.bodies cs) t.start
    return .select e cs

/-- Cases up to their closing brace. Only one of them stands for all other values. -/
def cases (hasOthers : Bool) : Nat → Parse (List Case)
  | 0 => abrupt
  | n + 1 => do
    let t ← takeNeeded
    if t.token.isMark "\x7d" then return []
    else if t.token.isWord "case" then
      let e ← expression false n
      discard <| needMark ":" "switch case block"
      let body ← caseBody n
      return .mk (some e) body :: (← cases hasOthers n)
    else if t.token.isWord "default" then
      if hasOthers then unexpected t "more than one switch default"
      discard <| needMark ":" "switch default case block"
      let body ← caseBody n
      return .mk none body :: (← cases true n)
    else misplaced t ["case", "default", "\x7d"] "switch case block"

/-- The statements of a case. -/
def caseBody : Nat → Parse (List Stmt)
  | 0 => abrupt
  | n + 1 => do
    let t ← peek
    let isOver := t.token.isMark "\x7d" || t.token.isWord "case" || t.token.isWord "default"
    if isOver then return []
    match t.token with
    | .finish => return []
    | _ =>
      let s ← item n
      semicolons n
      return s :: (← caseBody n)

/-- An attempt with what handles its failure and what comes last, after its word. -/
def attempt : Nat → Parse Stmt
  | 0 => abrupt
  | n + 1 => do
    let body ← block n
    let t ← need
    if !t.token.isWord "catch" && !t.token.isWord "finally" then
      misplaced t ["catch", "finally"] "try statement"
    let (name, handler) ←
      if ← takeWord "catch" then
        let name ←
          if ← takeMark "(" then
            let x ← takeDeclared
            discard <| needMark ")" "catch in try statement"
            pure (some x)
          else pure none
        pure (name, some (← block n))
      else pure (none, none)
    let last ← if ← takeWord "finally" then pure (some (← block n)) else pure none
    return .attempt body name handler last

end

end Parse

/-- A script: its statements, and whether it is strict. -/
structure Program where
  body : List Stmt
  isStrict : Bool

/-- Reads a script, or gives the text of its first fault. -/
def Program.read (source : List Char) : Except String Program :=
  let whole : Parse (List Stmt) := do
    let body ← statements false true (16 * source.length + 64)
    checkLabels body
    refuseLexicalDoubles body
    return body
  match (whole.run false).run (.start source) with
  | .ok (body, s) => .ok ⟨body, s.isStrict⟩
  | .error e => .error e

/-- Reads a function from the text of its parameters and that of its body, or gives the text of the first fault. -/
def Func.read (name : Name) (params body : List Char) : Except String Func := do
  let fault (part : String) (e : String) : String := "failed to parse function " ++ part ++ ": " ++ e
  let names : Parse (List Name) := do
    let xs ← parameters (16 * params.length + 64)
    discard <| needMark ")" "formal parameter list"
    match (← peek).token with
    | .finish => return xs
    | _ => unexpected (← peek) "formal parameter list"
  let (xs, _) ← ((names.run true).run (.start (params ++ [')']))).mapError (fault "parameters")
  let whole : Parse (List Stmt) := do
    let ss ← statements false true (16 * body.length + 64)
    checkLabels ss
    if (← get).isStrict then refuseDoubles xs ⟨1, 1⟩
    return ss
  let (ss, s) ← ((whole.run true).run (.start body)).mapError (fault "body")
  return .mk name xs ss { isStrict := s.isStrict, usesArguments := s.sawArguments }

end Pagewalk.Script
