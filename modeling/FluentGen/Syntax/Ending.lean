import FluentGen.Syntax.Tree

/-!
# How expressions begin and end

What can be told of an expression by the way it begins and ends: whether it is a statement by
itself, whether it stands with a semicolon, and whether it can begin a statement at all.
-/

namespace FluentGen

namespace Tree

/-- Whether the brackets of a macro call are braces. -/
def isBraced (call : Tree) : Bool :=
  match call.parts.getLast? with
  | some (.group .brace _) => true
  | _ => false

/-- Whether an expression ends with braces of its own, so that it needs nothing behind it. -/
def endsItself : Tree → Bool
  | node (.expr kind) _ =>
    kind ∈ [ExprKind.conditional, .matching, .block, .unsafeBlock, .whileLoop, .loop, .forLoop,
      .tryBlock, .constBlock]
  | _ => false

/-- Whether an expression has to be followed by a semicolon to be a statement. -/
def needsSemicolon : Tree → Bool
  | node (.expr .macroCall) parts => !parts.any isBraced
  | node (.expr kind) parts => !endsItself (node (.expr kind) parts)
  | _ => false

/-- The operators that change the value on their left. -/
def changingSigns : List String :=
  ["+=", "-=", "*=", "/=", "%=", "^=", "&=", "|=", "<<=", ">>="]

/-- Whether an expression is only evaluated for what it does. -/
def isAction : Tree → Bool
  | node (.expr .binary) parts => parts.any fun part => match part with
    | symbol sign => sign ∈ changingSigns
    | _ => false
  | node (.expr kind) _ =>
    kind ∈ [ExprKind.assign, .breaking, .continuing, .returning, .yielding]
  | _ => false

mutual

/-- Whether an expression never has a value, so that a semicolon behind it says nothing. -/
def isIdle : Tree → Bool
  | node (.expr .forLoop) _ => true
  | node (.expr .whileLoop) _ => true
  | node (.expr .conditional) parts => lastIsIdle parts
  | group .. => true
  | _ => false

/-- Whether the last one of some trees never has a value. -/
def lastIsIdle : List Tree → Bool
  | [] => true
  | [last] => isIdle last
  | _ :: rest => lastIsIdle rest

end

mutual

/-- Whether an expression can be read as a statement from its beginning on. -/
def beginsStatement : Tree → Bool
  | node (.expr kind) parts =>
    if kind ∈ [ExprKind.assign, .binary, .call, .cast, .index, .range] then
      leftBeginsStatement true parts
    else if kind ∈ [ExprKind.await, .field, .methodCall, .tryOperator] then
      leftBeginsStatement false parts
    else true
  | _ => true

/--
Whether the expression on the left, if there is one, can be read as a statement; `semicolon` says
that it must not be a statement by itself.
-/
def leftBeginsStatement (semicolon : Bool) : List Tree → Bool
  | [] => true
  | tree :: rest =>
    if tree.isA .attribute then leftBeginsStatement semicolon rest
    else (!semicolon || tree.kind?.isNone || needsSemicolon tree) && beginsStatement tree

end

mutual

/-- Whether an opening brace behind a condition goes to a new line if the condition is too long. -/
def pushesBrace : Tree → Bool
  | node (.expr kind) parts =>
    if kind ∈ [ExprKind.assign, .await, .binary, .cast, .field, .index, .methodCall] then true
    else if kind = .range then lastPushesBrace parts
    else if kind ∈ [ExprKind.breaking, .call, .letting, .paren, .rawAddress, .reference,
      .returning, .tryOperator, .unary, .yielding] then firstPushesBrace parts
    else false
  | group .paren parts => firstPushesBrace parts
  | _ => false

/-- Whether the first operand among some trees pushes a brace to a new line. -/
def firstPushesBrace : List Tree → Bool
  | [] => false
  | tree :: rest =>
    let isOperand := match tree with
      | node (.expr _) _ => true
      | group .. => true
      | _ => false
    if isOperand then pushesBrace tree else firstPushesBrace rest

/-- Whether the last one of some trees pushes a brace to a new line. -/
def lastPushesBrace : List Tree → Bool
  | [] => false
  | [last] => pushesBrace last
  | _ :: rest => lastPushesBrace rest

end

/-- The longest name that counts as short. -/
def shortLimit : Nat := 4

/-- Whether an expression is a mere name that is short. -/
def isShortName : Tree → Bool
  | node (.expr .path) [node .path [node .segment [word name]]] =>
    name.spelling.utf8ByteSize ≤ shortLimit
  | _ => false

end Tree

end FluentGen
