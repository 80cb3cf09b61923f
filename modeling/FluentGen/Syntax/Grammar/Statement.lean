import FluentGen.Syntax.Grammar.Item

/-!
# Statements

The rules for what stands in a block. An expression that ends with braces is a statement by itself,
and what follows it belongs to the next one.
-/

namespace FluentGen.Rules

open Reader

/-- Whether an item comes next and not an expression. -/
def seesItem (scan : Scan) : Bool :=
  let sees2Any (sights : List Sight) := sights.any scan.sees2
  scan.seesAny [.word "pub", .word "extern", .word "use", .word "fn", .word "mod", .word "type",
      .word "struct", .word "enum", .word "trait", .word "impl", .word "macro"] ||
    (scan.sees (.word "crate") && !scan.sees2 (.symbol "::")) ||
    (scan.sees (.word "static") && (scan.sees2 (.word "mut") || scan.sees2 .ident)) ||
    (scan.sees (.word "const") &&
      !(sees2Any [.group .brace, .word "static", .word "move", .symbol "|"] ||
        (scan.sees2 (.word "async") &&
          !([.word "unsafe", .word "extern", .word "fn"] : List Sight).any scan.sees3))) ||
    (scan.sees (.word "unsafe") && !scan.sees2 (.group .brace)) ||
    (scan.sees (.word "async") && sees2Any [.word "unsafe", .word "extern", .word "fn"]) ||
    (scan.sees (.word "union") && scan.sees2 .ident) ||
    (scan.sees (.word "auto") && scan.sees2 (.word "trait")) ||
    (scan.sees (.word "default") && sees2Any [.word "unsafe", .word "impl"])

/-- A declaration of a variable. -/
def letStatement (read : Grammar) (attributes : List Tree) : Reader :=
  let endsWithBrace (trees : List Tree) : Bool :=
    (Tree.tokensAll trees).getLast? = some (.closing .brace)
  node .letStatement (give attributes ++ word "let" ++ read .pattern ++
    ifSees (.symbol ":") (symbol ":" ++ read (.type true)) ++
    ifSees (.symbol "=") ((symbol "=" ++ read (.expr true)).bind fun value =>
      give value ++ choose (fun scan => !endsWithBrace value && scan.sees (.word "else"))
        (word "else" ++ block read) pass) ++
    symbol ";")

/-! ## Expressions as statements -/

/-- An expression that ends early: what ends with braces does not go on with an operator. -/
def statementExpr (read : Grammar) : Reader :=
  (outerAttributes read).bind fun attributes =>
  let goOn (trees : List Tree) : Reader :=
    match trees.map (withAttributes attributes) with
    | [left] => read (.operators true .lowest left)
    | other => give other
  let finish (found : List Tree) : Reader :=
    if !found.any Tree.endsItself then goOn found else
    choose (fun scan => (scan.sees (.symbol ".") && !scan.sees (.symbol "..")) ||
        scan.sees (.symbol "?"))
      (match found with
        | [found] => (read (.postfixes found)).bind goOn
        | other => give other)
      (give (found.map (withAttributes attributes)))
  (choose (·.sees (.word "if")) (read .conditional) <|
    choose (·.sees (.word "while")) (whileExpr read []) <|
    choose (fun scan => scan.sees (.word "for") && !seesParametersBehind "for" scan)
      (forExpr read []) <|
    choose (·.sees (.word "loop")) (loopExpr read []) <|
    choose (·.sees (.word "match")) (matchExpr read) <|
    choose (fun scan => scan.sees (.word "try") && scan.sees2 (.group .brace))
      (node (.expr .tryBlock) (word "try" ++ block read)) <|
    choose (·.sees (.word "unsafe")) (node (.expr .unsafeBlock) (word "unsafe" ++ body read)) <|
    choose (fun scan => scan.sees (.word "const") && scan.sees2 (.group .brace))
      (node (.expr .constBlock) (word "const" ++ body read)) <|
    choose (·.sees (.group .brace)) (blockExpr read []) <|
    choose (·.sees .lifetime) (labelled read) (read (.operand true))).bind finish

/-- Gives attributes to the operand that an expression begins with. -/
def markFirstOperand (attributes : List Tree) : Tree → Tree
  | .node (.expr kind) (left :: rest) =>
    if kind ∈ [ExprKind.assign, .binary, .cast] then
      .node (.expr kind) (markFirstOperand attributes left :: rest)
    else withAttributes attributes (.node (.expr kind) (left :: rest))
  | tree => withAttributes attributes tree

/-- Whether an expression is a macro call, with braces if so asked. -/
def isCall (braced : Bool) : Tree → Bool
  | .node (.expr .macroCall) parts => !braced || parts.any Tree.isBraced
  | _ => false

/-- An expression as a statement, with its semicolon if it has one. -/
def exprStatement (read : Grammar) (attributes : List Tree) : Reader :=
  (read .statementExpr).bind fun found =>
  let found := found.map (markFirstOperand attributes)
  choose (fun scan => found.any (isCall (!scan.sees (.symbol ";"))))
    (node .macroStatement (give (found.flatMap Tree.parts) ++
      ifSees (.symbol ";") (symbol ";"))) <|
  choose (·.sees (.symbol ";")) (node .statement (give found ++ symbol ";")) (give found)

/-! ## Blocks -/

/-- What comes next where a statement may begin with a macro call. -/
inductive Opening where
  /-- A macro call that declares something. -/
  | declares
  /-- A macro call with braces, which is a statement by itself. -/
  | calls
  | other
deriving DecidableEq

/-- How the next statement begins. -/
def opening (scan : Scan) : Opening :=
  match plainPath scan with
  | .ok (_, after) =>
    if !after.sees (.symbol "!") then .other
    else if after.sees2 .ident || after.sees2 (.word "try") then .declares
    else if after.sees2 (.group .brace) &&
        !((after.sees3 (.symbol ".") && !after.sees3 (.symbol "..")) ||
          after.sees3 (.symbol "?")) then .calls
    else .other
  | .error _ => .other

/-- A statement. -/
def statement (read : Grammar) : Reader :=
  let isUnusualItem (kind : Kind) : Bool := kind.isItem && kind.isText
  asText isUnusualItem <| (outerAttributes read).bind fun attributes =>
  choose (opening · == .calls)
    (node .macroStatement (give attributes ++ macroCall ++ ifSees (.symbol ";") (symbol ";"))) <|
  choose (·.sees (.word "let")) (letStatement read attributes) <|
  choose (fun scan => seesItem scan || opening scan == .declares) (itemRest read attributes)
    (exprStatement read attributes)

/-- The statements inside braces. -/
def statements (read : Grammar) : Reader :=
  let one := repeatWhile (·.sees (.symbol ";")) (symbol ";") ++
    choose (·.atEnd) pass ((statement read).bind fun found =>
      choose (fun scan => !scan.atEnd && found.any Tree.needsSemicolon)
        (fail "unexpected token, expected `;`") (give found))
  repeatUntil (·.atEnd) one

end FluentGen.Rules
