import FluentGen.Syntax.Grammar.Attribute
import FluentGen.Token.Lexer

/-!
# Paths

The rules for the names of fields and for paths with their generic arguments.
-/

namespace FluentGen.Rules

open Reader

/-! ## Fields -/

/-- The value of an integer literal and its suffix. -/
def integerValue (text : String) : Nat × String :=
  let (base, chars) := match text.toList with
    | '0' :: 'x' :: rest => (16, rest)
    | '0' :: 'o' :: rest => (8, rest)
    | '0' :: 'b' :: rest => (2, rest)
    | chars => (10, chars)
  let isMember (c : Char) := c == '_' || c.isDigit || (base == 16 && Lexer.isHex c)
  let value := (chars.takeWhile isMember).foldl
    (fun value c => if c = '_' then value else value * base + Lexer.hexValue c) 0
  (value, String.ofList (chars.dropWhile isMember))

/-- Fields of tuples are numbered below this. -/
def fieldLimit : Nat :=
  4294967296

/-- The number that a field has by the text of a literal, which may follow a minus sign. -/
def fieldNumber (isNegative : Bool) (text : String) : Except Fault Nat :=
  let (value, suffix) := integerValue text
  if Sight.isFloat text then .error (.refused "expected integer literal")
  else if suffix ≠ "" then .error (.refused "expected unsuffixed integer")
  else if isNegative then .error (.refused "invalid digit found in string")
  else if fieldLimit ≤ value then .error (.refused "number too large to fit in target type")
  else .ok value

/-- The place of a field in a tuple. -/
def fieldIndex : Reader := fun scan =>
  match scan.rest with
  | .literal text :: rest =>
    (fieldNumber false text).map fun value => ([.literal (toString value)], { scan with rest })
  | .punct '-' _ :: .literal text :: rest =>
    (fieldNumber true text).map fun value => ([.literal (toString value)], { scan with rest })
  | _ => .error (scan.fault "expected integer literal")

/-- Whether an integer comes next. -/
def seesInteger (scan : Scan) : Bool :=
  let isInteger (text : String) := Sight.isNumber text && !Sight.isFloat text
  match scan.rest with
  | .literal text :: _ => isInteger text
  | .punct '-' _ :: .literal text :: _ => isInteger text
  | _ => false

/-- The name or the number of a field. -/
def member : Reader :=
  choose (·.sees .ident) ident <|
  choose seesInteger fieldIndex (fail "expected identifier or integer")

/-- Whether a field has a name and not a number. -/
def isNamed (field : List Tree) : Bool :=
  match field with
  | [.word _] => true
  | _ => false

/-! ## Generic arguments -/

/-- The inside of braces: attributes of what encloses them, then statements. -/
def body (read : Grammar) : Reader :=
  within .brace (innerAttributes read ++ read .statements)

/-- An expression that stands where a constant is needed: a literal, a name or a block. -/
def constArgument (read : Grammar) : Reader :=
  choose (·.sees .literal) (node (.expr .literal) literal) <|
  choose (·.sees .ident) (node (.expr .path) (node .path (node .segment ident))) <|
  choose (·.sees (.group .brace)) (node (.expr .block) (body read)) (fail "")

/-- A literal or a block. -/
def seesConst (scan : Scan) : Bool :=
  scan.sees .literal || scan.sees (.group .brace)

/-- The segment of a type that is a path of a single segment. -/
def soleSegment? : Tree → Option Tree
  | .node (.type .path) [.node .path [segment]] => some segment
  | _ => none

/-- A generic argument that gives an associated type or constant, after its name. -/
def binding (read : Grammar) (name : List Tree) : Reader :=
  node .binding (give name ++ symbol "=" ++
    choose seesConst (constArgument read) (read (.type true)))

/-- A generic argument that bounds an associated type, after its name. -/
def constraint (read : Grammar) (name : List Tree) : Reader :=
  let more (scan : Scan) := !scan.seesAny [.symbol ",", .symbol ">"]
  node .constraint (give name ++ symbol ":" ++
    choose more (sum more (read (.bound false true))) pass)

/-- A generic argument. -/
def genericArgument (read : Grammar) : Reader :=
  choose (fun scan => scan.sees .lifetime && !scan.sees2 (.symbol "+"))
    (node .lifetimeEntry lifetime) <|
  choose seesConst (constArgument read) <|
  (read (.type true)).bind fun argument =>
  match argument.head?.bind soleSegment? with
  | some segment =>
    choose (·.sees (.symbol "=")) (binding read segment.parts) <|
    choose (·.sees (.symbol ":")) (constraint read segment.parts) (give argument)
  | none => give argument

/-- Generic arguments, possibly after two colons. -/
def genericArguments (read : Grammar) : Reader :=
  optionalColons ++ node .angled (symbol "<" ++
    node .entries (separated (·.sees (.symbol ">")) (symbol ",") (genericArgument read)) ++
    symbol ">")

/-- The result type of a function; `plus` says whether it may be a sum of bounds. -/
def result (read : Grammar) (plus : Bool) : Reader :=
  ifSees (.symbol "->") (node .result (symbol "->" ++ read (.type plus)))

/-! ## Paths with arguments -/

/-- Whether the arguments of a segment come next; in an expression they need two colons. -/
def seesArguments (inExpr : Bool) (scan : Scan) : Bool :=
  (!inExpr && scan.sees (.symbol "<") && !scan.seesAny [.symbol "<=", .symbol "<<="]) ||
    (scan.sees (.symbol "::") && scan.sees3 (.symbol "<"))

/-- A path segment. -/
def segment (read : Grammar) (inExpr : Bool) : Reader :=
  choose (·.seesAny [.word "super", .word "self", .word "crate", .word "try"]) plainSegment <|
  node .segment (choose (·.sees (.word "Self")) anyWord ident ++
    choose (seesArguments inExpr) (genericArguments read) pass)

/-- A path whose segments may have arguments. -/
def argumentPath (read : Grammar) (inExpr : Bool) : Reader :=
  node .path (optionalColons ++ segment read inExpr ++
    repeatWhile (fun scan => scan.sees (.symbol "::") && !scan.sees3 (.group .paren))
      (symbol "::" ++ segment read inExpr))

/-- A path that may begin with a type in angle brackets. -/
def qualifiedPath (read : Grammar) (inExpr : Bool) : Reader :=
  choose (·.sees (.symbol "<"))
    (node .path (node .qualifier (symbol "<" ++ read (.type true) ++
        ifSees (.word "as") (word "as" ++ argumentPath read false) ++ symbol ">") ++
      symbol "::" ++ segment read inExpr ++
      repeatWhile (·.sees (.symbol "::")) (symbol "::" ++ segment read inExpr)))
    (argumentPath read inExpr)

/-- Whether a path begins with a type in angle brackets. -/
def isQualified (path : Tree) : Bool :=
  (path.child? .qualifier).isSome

/-- Whether a path segment has no arguments. -/
def isBare (segment : Tree) : Bool :=
  segment.parts.length ≤ 1

/-- Whether no segment of a path has arguments. -/
def isPlainPath (path : Tree) : Bool :=
  !isQualified path && (path.children .segment).all isBare

end FluentGen.Rules
