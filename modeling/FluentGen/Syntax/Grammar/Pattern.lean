import FluentGen.Syntax.Grammar.Path

/-!
# Patterns

The rules for patterns. Alternatives are allowed inside brackets and in match arms, but not in
arguments and variable declarations.
-/

namespace FluentGen.Rules

open Reader

/-- A vertical bar between alternatives. -/
def seesBar (scan : Scan) : Bool :=
  scan.sees (.symbol "|") && !scan.seesAny [.symbol "||", .symbol "|="]

/-- A pattern with alternatives. -/
def patterns (read : Grammar) : Reader :=
  (ifSees (.symbol "|") (symbol "|")).bind fun bar =>
  (read .pattern).bind fun first =>
  choose (fun scan => !bar.isEmpty || seesBar scan)
    (node (.pattern .alternatives) (give (bar ++ first) ++
      repeatWhile seesBar (symbol "|" ++ read .pattern)))
    (give first)

/-! ## Ranges -/

/-- A range in a pattern, which may also be written with three dots. -/
def patternRange : Reader :=
  choose (·.sees (.symbol "..=")) (symbol "..=") <|
  choose (·.sees (.symbol "...")) (dropped (symbol "...") ++ give [.symbol "..="]) <|
  choose (·.sees (.symbol "..")) (symbol "..") (fail "expected `..`")

/-- An end of a range in a pattern, which may be missing. -/
def rangeBound (read : Grammar) : Reader :=
  choose (fun scan => scan.atEnd || scan.seesAny [.symbol "|", .symbol "=", .symbol ",",
      .symbol ";", .word "if"] || (scan.sees (.symbol ":") && !scan.sees (.symbol "::"))) pass <|
  let path := node (.expr .path) (qualifiedPath read true)
  oneOf [.of .literal (node (.expr .literal) literal), .of .ident path, .of (.symbol "::") path,
    .of (.symbol "<") path, .of (.word "self") path, .of (.word "Self") path,
    .of (.word "super") path, .of (.word "crate") path,
    .of (.word "const") (node (.expr .constBlock) (word "const" ++ body read))]

/-- The range sign and the upper end of a range, which may be missing after two dots. -/
def rangeEnd (read : Grammar) (sign : Reader) : Reader :=
  sign.bind fun sign =>
  (rangeBound read).bind fun upper =>
  if upper.isEmpty && sign.head? ≠ some (.symbol "..") then fail "expected range upper bound"
  else give (sign ++ upper)

/-- A range after its lower end. -/
def rangeFrom (read : Grammar) (lower : List Tree) : Reader :=
  (rangeEnd read patternRange).bind fun upper =>
  give [.node (.pattern (.range (upper.length ≤ 1))) (lower ++ upper)]

/-- What the lower end of a range is as a pattern of its own. -/
def asPattern : Tree → Tree
  | .node (.expr .literal) parts => .node (.pattern .literal) parts
  | .node (.expr .path) parts => .node (.pattern .path) parts
  | .node (.expr .constBlock) parts => .node (.pattern .constBlock) parts
  | tree => tree

/-- A pattern that begins with the lower end of a range, which may be all of it. -/
def boundPattern (read : Grammar) (lower : Reader) : Reader :=
  lower.bind fun lower =>
  choose (·.sees (.symbol "..")) (rangeFrom read lower) (give (lower.map asPattern))

/-- A pattern that begins with the dots of a range. -/
def dotsPattern (read : Grammar) : Reader :=
  let sign := choose (·.sees (.symbol "..=")) (symbol "..=") (symbol "..")
  (rangeEnd read sign).bind fun range =>
  give [.node (.pattern (if range.length ≤ 1 then .rest else .range true)) range]

/-! ## Structures, tuples and slices -/

/-- A field in a structure pattern, after its attributes. -/
def fieldPattern (read : Grammar) : Reader :=
  let marked := optionalWord "box" ++ optionalWord "ref" ++ optionalWord "mut" ++ ident
  choose (·.sees (.word "box")) (asWritten (.pattern .verbatim) marked) <|
  choose (·.seesAny [.word "ref", .word "mut"]) (node (.pattern .binding) marked) <|
  member.bind fun name =>
  choose (fun scan => scan.sees (.symbol ":") || !isNamed name)
    (give name ++ symbol ":" ++ patterns read) (node (.pattern .binding) (give name))

/-- The fields of a structure pattern; two dots after them stand for all others. -/
def fieldPatterns (read : Grammar) : Nat → Reader
  | 0 => pass
  | times + 1 =>
    choose (·.atEnd) pass <|
    (outerAttributes read).bind fun attributes =>
    choose (·.sees (.symbol ".."))
      (node (.pattern .rest) (give attributes ++ symbol ".."))
      (node .fieldPattern (give attributes ++ fieldPattern read) ++
        choose (·.atEnd) pass (symbol "," ++ fieldPatterns read times))

/-- A pattern that begins with a path. -/
def pathPattern (read : Grammar) : Reader :=
  (qualifiedPath read true).bind fun path =>
  let plain := path.all isPlainPath
  choose (fun scan => plain && seesBang scan) (node (.pattern .macroCall) (callAfter path)) <|
  choose (·.sees (.group .brace))
    (node (.pattern .record) (give path ++ within .brace (stepped (fieldPatterns read)))) <|
  choose (·.sees (.group .paren))
    (node (.pattern .tupleRecord) (give path ++ within .paren (commas (patterns read))))
    (boundPattern read (node (.expr .path) (give path)))

/-- A pattern in parentheses, or a tuple of patterns. -/
def parenPattern (read : Grammar) : Reader :=
  (within .paren (commas (patterns read))).bind fun group =>
  match group with
  | [.group .paren [.node (.pattern .rest) _]] => node (.pattern .tuple) (give group)
  | [.group .paren [_]] => node (.pattern .paren) (give group)
  | _ => node (.pattern .tuple) (give group)

/-- A pattern in brackets, in which a range needs both of its ends. -/
def slicePattern (read : Grammar) : Reader :=
  let element := (patterns read).bind fun pattern =>
    if pattern.any (·.isA (.pattern (.range true))) then
      refuse "range pattern is not allowed unparenthesized inside slice pattern"
    else give pattern
  node (.pattern .slice) (within .bracket (commas element))

/-! ## All patterns -/

/-- A pattern that binds a name. -/
def bindingPattern (read : Grammar) : Reader :=
  node (.pattern .binding) (optionalWord "ref" ++ optionalWord "mut" ++
    choose (·.sees (.word "self")) anyWord ident ++
    ifSees (.symbol "@") (symbol "@" ++ read .pattern))

/-- Whether a path that is more than a name comes next. -/
def seesPathPattern (scan : Scan) : Bool :=
  (scan.sees .ident && (scan.sees2 (.symbol "::") || scan.sees2 (.symbol "!") ||
      scan.sees2 (.group .brace) || scan.sees2 (.group .paren) || scan.sees2 (.symbol ".."))) ||
    (scan.sees (.word "self") && scan.sees2 (.symbol "::")) ||
    scan.seesAny [.word "Self", .word "super", .word "crate"]

/-- A pattern without alternatives. -/
def pattern (read : Grammar) : Reader :=
  let path := pathPattern read
  let range := boundPattern read (rangeBound read)
  let name := bindingPattern read
  choose seesPathPattern path <|
  choose (·.sees (.word "box"))
    (asWritten (.pattern .verbatim) (word "box" ++ read .pattern)) <|
  choose (·.sees (.symbol "-")) range <|
  choose (·.seesAny [.word "self", .ident]) name <|
  oneOfAfter ["identifier"]
    [.of (.symbol "::") path, .of (.symbol "<") path,
      .of (.word "_") (node (.pattern .wildcard) (word "_")),
      .of .literal range, .of (.word "const") range,
      .of (.word "ref") name, .of (.word "mut") name,
      .of (.symbol "&") (node (.pattern .reference) (symbol "&" ++ optionalWord "mut" ++
        read .pattern)),
      .of (.group .paren) (parenPattern read),
      .of (.group .bracket) (slicePattern read),
      ⟨.symbol "..", fun scan => !scan.sees (.symbol "..."), dotsPattern read⟩,
      .of (.word "const") range]

end FluentGen.Rules
