import FluentGen.Syntax.Grammar.Bound
import FluentGen.Syntax.Grammar.Operator
import FluentGen.Syntax.Grammar.Pattern
import FluentGen.Syntax.Grammar.Type

/-!
# Expressions

The rules for expressions that operators join: structures, blocks, loops, closures and the like.
-/

namespace FluentGen.Rules

open Reader

/-! ## Structures, tuples and arrays -/

/-- A field of a structure expression. -/
def fieldValue (read : Grammar) : Reader :=
  (outerAttributes read).bind fun attributes =>
  member.bind fun name =>
  node .fieldValue (give (attributes ++ name) ++
    choose (fun scan => scan.sees (.symbol ":") || !isNamed name)
      (symbol ":" ++ read (.expr true)) pass)

/-- The fields of a structure expression. -/
def fieldValues (read : Grammar) : Nat → Reader
  | 0 => pass
  | times + 1 =>
    choose (·.atEnd) pass <|
    choose (·.sees (.symbol ".."))
      (symbol ".." ++ choose (·.atEnd) pass (read (.expr true)))
      (fieldValue read ++ choose (·.atEnd) pass (symbol "," ++ fieldValues read times))

/-- A path, a macro call, or a structure. -/
def pathExpr (read : Grammar) (braces : Bool) : Reader :=
  (qualifiedPath read true).bind fun path =>
  let plain := path.all isPlainPath
  choose (fun scan => plain && seesBang scan) (node (.expr .macroCall) (callAfter path)) <|
  choose (fun scan => braces && scan.sees (.group .brace))
    (node (.expr .record) (give path ++ within .brace (stepped (fieldValues read))))
    (node (.expr .path) (give path))

/-- An expression in parentheses, or a tuple. -/
def parenExpr (read : Grammar) : Reader :=
  (within .paren (commas (read (.expr true)))).bind fun group =>
  match group with
  | [.group .paren [_]] => node (.expr .paren) (give group)
  | _ => node (.expr .tuple) (give group)

/-- An array, by its elements or by one element and a length. -/
def arrayExpr (read : Grammar) : Reader :=
  let inside :=
    choose (·.atEnd) pass <|
    read (.expr true) ++
      (choose (·.atEnd) pass <|
      choose (·.sees (.symbol ",")) (symbol "," ++ commas (read (.expr true))) <|
      choose (·.sees (.symbol ";")) (symbol ";" ++ read (.expr true))
        (fail "expected `,` or `;`"))
  (within .bracket inside).bind fun group =>
  let repeats := group.any fun group => group.parts.any fun part => match part with
    | .symbol text => text == ";"
    | _ => false
  node (.expr (if repeats then .repetition else .array)) (give group)

/-! ## Ways out -/

/-- Whether an expression may come next. -/
def seesExpr (scan : Scan) : Bool :=
  let only (sign : String) (longer : List String) :=
    scan.sees (.symbol sign) && !longer.any fun text => scan.sees (.symbol text)
  (scan.sees .anyWord && !scan.sees (.word "as")) ||
    scan.seesAny [.group .paren, .group .bracket, .group .brace, .literal, .symbol "..",
      .symbol "::", .lifetime, .symbol "#"] || only "!" ["!="] || only "-" ["-=", "->"] ||
    only "*" ["*="] || only "|" ["|="] || only "&" ["&="] || only "<" ["<=", "<<="]

/-- An expression if one may come next. -/
def optionalExpr (read : Grammar) : Reader :=
  choose seesExpr (read (.expr true)) pass

/-- A way out of a loop, with an optional label and value. -/
def breakExpr (read : Grammar) (braces : Bool) : Reader :=
  (word "break").bind fun start =>
  choose (fun scan => scan.sees .lifetime && scan.sees2 (.symbol ":"))
    (read (.expr true) ++ refuse "parentheses required") <|
  node (.expr .breaking) (give start ++ choose (·.sees .lifetime) lifetime pass ++
    choose (fun scan => seesExpr scan && (braces || !scan.sees (.group .brace)))
      (read (.expr true)) pass)

/-- A statement of what a pattern matches, as a condition. -/
def letExpr (read : Grammar) (braces : Bool) : Reader :=
  node (.expr .letting) (word "let" ++ patterns read ++ symbol "=" ++
    (read (.operand braces)).bind fun operand =>
      match operand with
      | [operand] => read (.operators braces .compare operand)
      | other => give other)

/-! ## Blocks and choices -/

/-- Braces with statements and no attributes of what they belong to. -/
def block (read : Grammar) : Reader :=
  within .brace (read .statements)

/-- A conditional. -/
def conditional (read : Grammar) : Reader :=
  node (.expr .conditional) (word "if" ++ read (.expr false) ++ block read ++
    ifSees (.word "else") (word "else" ++
      oneOf [.of (.word "if") (read .conditional),
        .of (.group .brace) (node (.expr .block) (block read))]))

/-- An arm of a match; only braces make the comma after it optional. -/
def arm (read : Grammar) : Reader :=
  let head := outerAttributes read ++ patterns read ++
    ifSees (.word "if") (word "if" ++ read (.expr true)) ++ symbol "=>"
  head.bind fun head =>
  (read .statementExpr).bind fun value =>
  node .arm (give (head ++ value) ++
    choose (fun scan => !value.any Tree.endsItself && !scan.atEnd) (symbol ",")
      (ifSees (.symbol ",") (symbol ",")))

/-- A match over the arms in its braces. -/
def matchExpr (read : Grammar) : Reader :=
  node (.expr .matching) (word "match" ++ read (.expr false) ++
    within .brace (innerAttributes read ++ repeatUntil (·.atEnd) (arm read)))

/-! ## Loops -/

/-- An endless loop, after its label. -/
def loopExpr (read : Grammar) (label : List Tree) : Reader :=
  node (.expr .loop) (give label ++ word "loop" ++ body read)

/-- A loop with a condition, after its label. -/
def whileExpr (read : Grammar) (label : List Tree) : Reader :=
  node (.expr .whileLoop) (give label ++ word "while" ++ read (.expr false) ++ body read)

/-- A loop over the elements of something, after its label. -/
def forExpr (read : Grammar) (label : List Tree) : Reader :=
  node (.expr .forLoop) (give label ++ word "for" ++ patterns read ++ word "in" ++
    read (.expr false) ++ body read)

/-- A block as an expression, after its label. -/
def blockExpr (read : Grammar) (label : List Tree) : Reader :=
  node (.expr .block) (give label ++ body read)

/-- A loop or block with a label. -/
def labelled (read : Grammar) : Reader :=
  (node .label (lifetime ++ symbol ":")).bind fun label =>
  choose (·.sees (.word "while")) (whileExpr read label) <|
  choose (·.sees (.word "for")) (forExpr read label) <|
  choose (·.sees (.word "loop")) (loopExpr read label) <|
  choose (·.sees (.group .brace)) (blockExpr read label)
    (fail "expected loop or block expression")

/-! ## Closures -/

/-- An argument of a closure, with an optional type. -/
def closureArgument (read : Grammar) : Reader :=
  (outerAttributes read).bind fun attributes =>
  (read .pattern).bind fun pattern =>
  choose (·.sees (.symbol ":"))
    (node .parameter (give (attributes ++ pattern) ++ symbol ":" ++ read (.type true)))
    (give (pattern.map (withAttributes attributes)))

/-- A function without a name. -/
def closure (read : Grammar) (braces : Bool) : Reader :=
  node (.expr .closure) (optionalBinder read ++ optionalWord "const" ++ optionalWord "static" ++
    optionalWord "async" ++ optionalWord "move" ++ symbol "|" ++
    separated (·.sees (.symbol "|")) (symbol ",") (closureArgument read) ++ symbol "|" ++
    choose (·.sees (.symbol "->"))
      (node .result (symbol "->" ++ read (.type true)) ++ node (.expr .block) (block read))
      (read (.expr braces)))

/-- Whether a closure comes next. -/
def seesClosure (scan : Scan) : Bool :=
  scan.seesAny [.symbol "|", .word "move", .word "static"] ||
    seesParametersBehind "for" scan ||
    (scan.sees (.word "const") && !scan.sees2 (.group .brace)) ||
    (scan.sees (.word "async") && (scan.sees2 (.symbol "|") || scan.sees2 (.word "move")))

/-! ## Atoms -/

/-- A block that runs later. -/
def asyncExpr (read : Grammar) : Reader :=
  node (.expr .asyncBlock) (word "async" ++ optionalWord "move" ++ block read)

/-- Whether a block that runs later comes next. -/
def seesAsyncBlock (scan : Scan) : Bool :=
  scan.sees (.word "async") && (scan.sees2 (.group .brace) ||
    (scan.sees2 (.word "move") && scan.sees3 (.group .brace)))

/-- An expression that is neither a prefix operator nor what follows an expression. -/
def atom (read : Grammar) (braces : Bool) : Reader :=
  choose (·.sees .literal) (node (.expr .literal) literal) <|
  choose seesAsyncBlock (asyncExpr read) <|
  choose (fun scan => scan.sees (.word "try") && scan.sees2 (.group .brace))
    (node (.expr .tryBlock) (word "try" ++ block read)) <|
  choose seesClosure (closure read braces) <|
  choose seesBuiltin (asWritten (.expr .verbatim) builtin) <|
  choose (fun scan => scan.seesAny [.ident, .symbol "::", .symbol "<", .word "self", .word "Self",
      .word "super", .word "crate"] || (scan.sees (.word "try") &&
      (scan.sees2 (.symbol "!") || scan.sees2 (.symbol "::")))) (pathExpr read braces) <|
  choose (·.sees (.group .paren)) (parenExpr read) <|
  choose (·.sees (.word "break")) (breakExpr read braces) <|
  choose (·.sees (.word "continue"))
    (node (.expr .continuing) (word "continue" ++ choose (·.sees .lifetime) lifetime pass)) <|
  choose (·.sees (.word "return"))
    (node (.expr .returning) (word "return" ++ optionalExpr read)) <|
  choose (·.sees (.word "become"))
    (asWritten (.expr .verbatim) (word "become" ++ read (.expr true))) <|
  choose (·.sees (.group .bracket)) (arrayExpr read) <|
  choose (·.sees (.word "let")) (letExpr read braces) <|
  choose (·.sees (.word "if")) (read .conditional) <|
  choose (·.sees (.word "while")) (whileExpr read []) <|
  choose (·.sees (.word "for")) (forExpr read []) <|
  choose (·.sees (.word "loop")) (loopExpr read []) <|
  choose (·.sees (.word "match")) (matchExpr read) <|
  choose (·.sees (.word "yield")) (node (.expr .yielding) (word "yield" ++ optionalExpr read)) <|
  choose (·.sees (.word "unsafe")) (node (.expr .unsafeBlock) (word "unsafe" ++ body read)) <|
  choose (·.sees (.word "const")) (node (.expr .constBlock) (word "const" ++ body read)) <|
  choose (·.sees (.group .brace)) (blockExpr read []) <|
  choose (·.sees (.symbol "..")) (node (.expr .range) (rangeTail read braces)) <|
  choose (·.sees (.word "_")) (node (.expr .infer) (word "_")) <|
  choose (·.sees .lifetime) (labelled read) (fail "expected an expression")

end FluentGen.Rules
