import FluentGen.Syntax.Grammar.Path

/-!
# Operators

The rules for operators, calls and fields. An operator takes the expression on its left as far as
its precedence reaches; the operand on its right grows as long as tighter operators follow.
-/

namespace FluentGen.Rules

open Reader

/-! ## Infix operators -/

/-- The operators between two expressions, longer ones before their beginnings. -/
def binaryOperators : List (String × Precedence) :=
  [("+=", .assign), ("-=", .assign), ("*=", .assign), ("/=", .assign), ("%=", .assign),
    ("^=", .assign), ("&=", .assign), ("|=", .assign), ("<<=", .assign), (">>=", .assign),
    ("&&", .and), ("||", .or), ("<<", .shift), (">>", .shift), ("==", .compare), ("<=", .compare),
    ("!=", .compare), (">=", .compare), ("+", .sum), ("-", .sum), ("*", .product),
    ("/", .product), ("%", .product), ("^", .bitXor), ("&", .bitAnd), ("|", .bitOr),
    ("<", .compare), (">", .compare)]

/-- The binary operator that comes next. -/
def binaryOperator? (scan : Scan) : Option (String × Precedence) :=
  binaryOperators.find? fun operator => scan.sees (.symbol operator.1)

/-- The precedence of the operator that comes next, the lowest one if there is none. -/
def nextPrecedence (scan : Scan) : Precedence :=
  match binaryOperator? scan with
  | some (_, precedence) => precedence
  | none =>
    if scan.sees (.symbol "=") && !scan.sees (.symbol "=>") then .assign
    else if scan.sees (.symbol "..") then .range
    else if scan.sees (.word "as") then .cast
    else .lowest

/-- Whether an expression compares two others, so that it cannot be compared again. -/
def isComparison : Tree → Bool
  | .node (.expr .binary) parts =>
    parts.any fun part => match part with
      | .symbol text => binaryOperators.any fun operator =>
          operator.1 == text && operator.2 == .compare
      | _ => false
  | _ => false

/-- The sign of a range. -/
def rangeSign : Reader :=
  choose (·.sees (.symbol "..=")) (symbol "..=") <|
  choose (fun scan => scan.sees (.symbol "..") && !scan.sees (.symbol "...")) (symbol "..")
    (fail "expected `..=`")

/-- Whether a range that has two dots ends with them. -/
def endsRange (braces : Bool) (scan : Scan) : Bool :=
  scan.atEnd || scan.seesAny [.symbol ",", .symbol ";", .symbol "?", .symbol "=>", .symbol "=",
    .symbol "+", .symbol "/", .symbol "%", .symbol "^", .symbol ">", .symbol "<=", .symbol "!=",
    .symbol "-=", .symbol "*=", .symbol "&=", .symbol "|=", .symbol "<<=", .word "as"] ||
    (scan.sees (.symbol ".") && !scan.sees (.symbol "..")) ||
    (!braces && scan.sees (.group .brace))

/-- An operand together with the tighter operators after it. -/
def rightOperand (read : Grammar) (braces : Bool) (floor : Precedence) : Reader :=
  (read (.operand braces)).bind fun operand =>
  match operand with
  | [operand] => read (.rightSide braces floor operand)
  | other => give other

/-- The sign and the upper end of a range, which may be missing. -/
def rangeTail (read : Grammar) (braces : Bool) : Reader :=
  rangeSign.bind fun sign =>
  choose (fun scan => sign.head? = some (.symbol "..") && endsRange braces scan) (give sign)
    (give sign ++ rightOperand read braces .range)

/-- What must not follow a type that an expression is cast to. -/
def afterCast : Reader :=
  let refuse (what : String) := fail s!"casts cannot be followed by {what}"
  choose (fun scan => scan.sees (.symbol ".") && !scan.sees (.symbol ".."))
    (choose (·.sees2 (.word "await")) (refuse "`.await`") <|
      choose (fun scan => scan.sees2 .ident &&
          (scan.sees3 (.group .paren) || scan.sees3 (.symbol "::")))
        (refuse "a method call") (refuse "a field access")) <|
  choose (·.sees (.symbol "?")) (refuse "`?`") <|
  choose (·.sees (.group .bracket)) (refuse "indexing") <|
  choose (·.sees (.group .paren)) (refuse "a function call") pass

/-- What the operators that bind at least so tightly make of an expression. -/
def operators (read : Grammar) (braces : Bool) (floor : Precedence) (left : Tree) : Reader :=
  let goOn (trees : List Tree) : Reader :=
    match trees with
    | [left] => read (.operators braces floor left)
    | other => give other
  let finished := give [left]
  if left.isA (.expr .range) then finished else fun scan =>
  match binaryOperator? scan with
  | some (sign, precedence) =>
    if precedence.rank < floor.rank then finished scan
    else if precedence = .compare ∧ isComparison left = true then
      fail "comparison operators cannot be chained" scan
    else
      (node (.expr .binary) (give [left] ++ symbol sign ++
        rightOperand read braces precedence)).bind goOn scan
  | none =>
    if floor.rank ≤ Precedence.assign.rank && scan.sees (.symbol "=") &&
        !scan.sees (.symbol "=>") then
      (node (.expr .assign) (give [left] ++ symbol "=" ++
        rightOperand read braces .assign)).bind goOn scan
    else if floor.rank ≤ Precedence.range.rank && scan.sees (.symbol "..") then
      (node (.expr .range) (give [left] ++ rangeTail read braces)).bind goOn scan
    else if floor.rank ≤ Precedence.cast.rank && scan.sees (.word "as") then
      (node (.expr .cast) (give [left] ++ word "as" ++ read (.type false) ++
        dropped afterCast)).bind goOn scan
    else finished scan

/-- What tighter operators make of an operand on the right; a range takes none of them. -/
def rightSide (read : Grammar) (braces : Bool) (floor : Precedence) (right : Tree) : Reader :=
  let isTaken (scan : Scan) :=
    let next := nextPrecedence scan
    !right.isA (.expr .range) &&
      (floor.rank < next.rank || (next == floor && floor == .assign))
  choose isTaken
    (fun scan => (read (.operators braces (nextPrecedence scan) right)).bind (fun grown =>
      match grown with
      | [grown] => read (.rightSide braces floor grown)
      | other => give other) scan)
    (give [right])

/-! ## Operands -/

/-- An expression before it is joined to others by operators. -/
def operand (read : Grammar) (braces : Bool) (atom : Reader) : Reader :=
  asText Kind.isText <| (outerAttributes read).bind fun attributes =>
  choose (·.sees (.symbol "&"))
    ((symbol "&").bind fun sign =>
      choose (fun scan => scan.sees (.word "raw") &&
          (scan.sees2 (.word "mut") || scan.sees2 (.word "const")))
        (node (.expr .rawAddress) (give (attributes ++ sign) ++ word "raw" ++
          choose (·.sees (.word "mut")) (word "mut") (word "const") ++ read (.operand braces)))
        (node (.expr .reference) (give (attributes ++ sign) ++
          optionalWord "mut" ++ read (.operand braces)))) <|
  choose (·.seesAny [.symbol "*", .symbol "!", .symbol "-"])
    (node (.expr .unary) (give attributes ++
      choose (·.sees (.symbol "*")) (symbol "*")
        (choose (·.sees (.symbol "!")) (symbol "!") (symbol "-")) ++ read (.operand braces))) <|
  atom.bind fun found =>
  match found with
  | [found] =>
    (read (.postfixes found)).bind fun whole =>
    if !attributes.isEmpty && whole.any (·.isA (.expr .range)) then
      refuse "attributes are not allowed on range expressions starting with `..`"
    else give (whole.map (withAttributes attributes))
  | other => give other

/-- Arguments of a call. -/
def callArguments (read : Grammar) : Reader :=
  within .paren (commas (read (.expr true)))

/-- The parts of a number with a point, such as the `0.1` in `pair.0.1`. -/
def pointParts (text : String) : List (List Char) :=
  text.toList.splitOn '.'

/--
The fields that a number with a point stands for, after a dot and perhaps a minus sign. The result
says whether another field must follow, since the number ends with its point.
-/
def pointFields (isNegative : Bool) (base : Tree) :
    List (List Char) → Except Fault (Tree × Bool)
  | [] => .ok (base, false)
  | [[]] => .ok (base, true)
  | part :: parts => do
    let value ← fieldNumber isNegative (String.ofList part)
    pointFields false (.node (.expr .field) [base, .symbol ".", .literal (toString value)]) parts

/-- A method call or a field after the dot. -/
def memberAccess (read : Grammar) (base : Tree) : Reader :=
  choose (·.sees (.word "await")) (node (.expr .await) (give [base, .symbol "."] ++ word "await"))
  <| member.bind fun name =>
  (choose (fun scan => isNamed name && scan.sees (.symbol "::"))
    (genericArguments read) pass).bind fun turbofish =>
  choose (fun scan => isNamed name && (!turbofish.isEmpty || scan.sees (.group .paren)))
    (node (.expr .methodCall) (give ([base, .symbol "."] ++ name ++ turbofish) ++
      callArguments read))
    (node (.expr .field) (give ([base, .symbol "."] ++ name)))

/-- What follows the dot after an expression, a number with a point being split at it. -/
def dotted (read : Grammar) (base : Tree) : Reader := fun scan =>
  let fields (isNegative : Bool) (text : String) (rest : List Token) :=
    if !(Sight.isNumber text && Sight.isFloat text) then memberAccess read base scan else
    match pointFields isNegative base (pointParts text) with
    | .error fault => .error fault
    | .ok (base, false) => .ok ([base], { scan with rest })
    | .ok (base, true) => memberAccess read base { scan with rest }
  match scan.rest with
  | .literal text :: rest => fields false text rest
  | .punct '-' _ :: .literal text :: rest => fields true text rest
  | _ => memberAccess read base scan

/-- What calls, fields, indices and question marks make of an expression. -/
def postfixes (read : Grammar) (left : Tree) : Reader :=
  let isRange := left.isA (.expr .range)
  let goOn (trees : List Tree) : Reader :=
    match trees with
    | [left] => read (.postfixes left)
    | other => give other
  choose (·.sees (.group .paren))
    ((node (.expr .call) (give [left] ++ callArguments read)).bind goOn) <|
  choose (fun scan => scan.sees (.symbol ".") && !scan.sees (.symbol "..") && !isRange)
    ((dropped (symbol ".") ++ dotted read left).bind goOn) <|
  choose (·.sees (.group .bracket))
    ((node (.expr .index) (give [left] ++ within .bracket (read (.expr true)))).bind goOn) <|
  choose (fun scan => scan.sees (.symbol "?") && !isRange)
    ((node (.expr .tryOperator) (give [left] ++ symbol "?")).bind goOn) (give [left])

end FluentGen.Rules
