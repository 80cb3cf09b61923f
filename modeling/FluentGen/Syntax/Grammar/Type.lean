import FluentGen.Syntax.Grammar.Bound

/-!
# Types

The rules for types. A type may be a sum of bounds only where nothing could follow that the plus
sign might belong to instead.
-/

namespace FluentGen.Rules

open Reader

/-- The calling convention of a function, if it is given. -/
def convention : Reader :=
  ifSees (.word "extern") (node .convention (word "extern" ++
    choose (·.sees .text) literal pass))

/-! ## Function types -/

/-- A name and a colon in front of the type of an argument, which may be left out. -/
def seesArgumentName (withSelf : Bool) (scan : Scan) : Bool :=
  (scan.seesAny [.ident, .word "_"] || (withSelf && scan.sees (.word "self"))) &&
    scan.sees2 (.symbol ":") && !scan.sees2 (.symbol "::")

/-- Whether the word for a changeable receiver comes next. -/
def seesMutSelf (scan : Scan) : Bool :=
  scan.sees (.word "mut") && scan.sees2 (.word "self")

/--
An argument of a function type. The first one may also be a receiver; it is only kept as text if
it is marked as changeable.
-/
def functionTypeArgument (read : Grammar) (isFirst : Bool) : Reader :=
  let asReceiver (reader : Reader) := asWritten (.type .verbatim) reader
  let name := anyWord ++ symbol ":"
  choose (fun scan => isFirst && seesMutSelf scan)
    (asReceiver (word "mut" ++
      choose (seesArgumentName true) (name ++ read (.type true)) (word "self"))) <|
  choose (fun scan => isFirst && scan.sees (.word "self") && seesArgumentName true scan)
    (name ++ read (.type true)) <|
  choose (fun scan => isFirst && seesArgumentName false scan)
    (ahead name fun behind =>
      if seesMutSelf behind then asReceiver (name ++ word "mut" ++ word "self")
      else name ++ read (.type true)) <|
  choose (seesArgumentName false) name pass ++ read (.type true)

/-- The dots at the end of the argument list of a function type, with an optional name. -/
def seesVariadic (scan : Scan) : Bool :=
  scan.sees (.symbol "...") || (scan.seesAny [.ident, .word "_"] && scan.sees2 (.symbol ":") &&
    scan.sees3 (.symbol "..."))

/-- The arguments of a function type. -/
def functionTypeArguments (read : Grammar) : Nat → Bool → Reader
  | 0, _ => pass
  | times + 1, isFirst =>
    choose (·.atEnd) pass <|
    (outerAttributes read).bind fun attributes =>
    choose seesVariadic
      (node .argument (give attributes ++
        choose (·.sees (.symbol "...")) pass (anyWord ++ symbol ":") ++
        symbol "..." ++ ifSees (.symbol ",") (symbol ",")))
      (node .argument (give attributes ++ functionTypeArgument read isFirst) ++
        choose (·.atEnd) pass (symbol "," ++ functionTypeArguments read times false))

/-- A function type after the parameters that it is quantified over. -/
def functionType (read : Grammar) : Reader :=
  ifSees (.word "unsafe") (word "unsafe") ++ convention ++ word "fn" ++
    within .paren (stepped fun times => functionTypeArguments read times true) ++
    result read false

/-! ## Types in parentheses, and sums -/

/-- The bounds after the first one of a sum; at least the plus sign has been seen. -/
def furtherBounds (read : Grammar) : Reader :=
  repeatWhile (·.sees (.symbol "+")) (symbol "+" ++ read (.bound false false))

/-- What a type in parentheses is as the first bound of a sum, if it can be one. -/
def asFirstBound? : Tree → Option Tree
  | .node (.type .path) [.node .path parts] =>
    if isQualified (.node .path parts) then none
    else some (.node .bound [.group .paren [.node .path parts]])
  | .node (.type .traitObject) [.node .bound [.group .paren inside]] =>
    some (.node .bound [.group .paren inside])
  | .node (.type .traitObject) [.node .bound parts] => some (.node .bound [.group .paren parts])
  | .node (.type .traitObject) [.lifetime name] => some (.lifetime name)
  | _ => none

/-- Fails if none of the bounds is anything but a lifetime or a list of captured parameters. -/
def needsTrait (message : String) (bounds : Reader) : Reader :=
  bounds.bind fun trees =>
  if trees.any fun tree => tree.isA .bound || tree.isA .boundText then give trees
  else refuse message

/-- The bounds of a trait object. -/
def objectBounds (read : Grammar) (plus : Bool) : Reader :=
  needsTrait "at least one trait is required for an object type" (bounds read plus false false)

/-- The inside of parentheses that hold one type or a tuple of types. -/
def parenthesised (read : Grammar) : Reader :=
  choose (·.atEnd) pass <|
  choose (·.sees (.symbol "?")) (traitBound read false) <|
  read (.type true) ++ ifSees (.symbol ",") (symbol "," ++ commas (read (.type true)))

/-- A type that begins with a parenthesis. -/
def parenType (read : Grammar) (plus : Bool) : Reader :=
  let object := node (.type .traitObject) (objectBounds read true)
  choose (fun scan => ({ scan with rest := scan.rest.drop 1 } : Scan).sees .lifetime)
    (node (.type .paren) (within .paren object)) <|
  (within .paren (parenthesised read)).bind fun group =>
  match group with
  | [.group .paren [.node .bound parts]] =>
    node (.type .traitObject) (give [.node .bound [.group .paren parts]] ++ furtherBounds read)
  | [.group .paren [type]] =>
    let alone := node (.type .paren) (give group)
    match if plus then asFirstBound? type else none with
    | some first =>
      choose (·.sees (.symbol "+"))
        (node (.type .traitObject) (give [first] ++ furtherBounds read)) alone
    | none => alone
  | _ => node (.type .tuple) (give group)

/-- A type that begins with a path; the parameters that it is quantified over have been read. -/
def pathType (read : Grammar) (plus : Bool) (quantified : List Tree) : Reader :=
  (qualifiedPath read false).bind fun path =>
  let plain := path.all isPlainPath
  if path.any isQualified then node (.type .path) (give path) else
  choose (fun scan => plain && seesBang scan)
    (node (.type .macroCall) (callAfter path)) <|
  choose (fun scan => !quantified.isEmpty || (plus && scan.sees (.symbol "+")))
    (node (.type .traitObject) (give [.node .bound (quantified ++ path)] ++
      if plus then
        ifSees (.symbol "+") (symbol "+" ++ choose (seesBound false)
          (sum (seesBound false) (read (.bound false false))) pass)
      else pass))
    (node (.type .path) (give path))

/-! ## All types -/

/-- A type that begins with `dyn`. -/
def dynType (read : Grammar) (plus : Bool) : Reader :=
  choose (·.sees2 (.symbol "*"))
    (asWritten (.type .verbatim) (word "dyn" ++ symbol "*" ++ objectBounds read plus))
    (node (.type .traitObject) (word "dyn" ++ objectBounds read plus))

/-- A slice or an array. -/
def bracketType (read : Grammar) : Reader :=
  (within .bracket (read (.type true) ++
    ifSees (.symbol ";") (symbol ";" ++ read (.expr true)))).bind fun group =>
  match group with
  | [.group _ [_]] => node (.type .slice) (give group)
  | _ => node (.type .array) (give group)

/-- A pointer. -/
def pointerType (read : Grammar) : Reader :=
  node (.type .pointer) (symbol "*" ++
    oneOf [.of (.word "const") (word "const"), .of (.word "mut") (word "mut")] ++
    read (.type false))

/-- A reference. -/
def referenceType (read : Grammar) : Reader :=
  node (.type .reference) (symbol "&" ++ choose (·.sees .lifetime) lifetime pass ++
    ifSees (.word "mut") (word "mut") ++ read (.type false))

/-- A type that is known only by its bounds. -/
def implType (read : Grammar) (plus : Bool) : Reader :=
  node (.type .implTrait) (word "impl" ++
    needsTrait "at least one trait must be specified" (bounds read plus true true))

/-- Whether a use of what is built into the language comes next. -/
def seesBuiltin (scan : Scan) : Bool :=
  scan.sees (.word "builtin") && scan.sees2 (.symbol "#")

/-- A use of what is built into the language. -/
def builtin : Reader :=
  word "builtin" ++ symbol "#" ++ ident ++ within .paren remainder

/-- A type that begins with the parameters that it is quantified over. -/
def quantifiedType (read : Grammar) (plus : Bool) : Reader :=
  (binder read).bind fun quantified =>
  let path := pathType read plus quantified
  let function := node (.type .bareFn) (give quantified ++ functionType read)
  choose seesBuiltin (node (.type .verbatim) builtin) <|
  oneOf (.of .ident path ::
    ([.word "fn", .word "unsafe", .word "extern"] : List Sight).map (.of · function) ++
    pathWords.map (.of · path))

/-- A type. -/
def type (read : Grammar) (plus : Bool) : Reader :=
  let path := pathType read plus []
  let function := node (.type .bareFn) (functionType read)
  choose (·.sees (.word "for")) (asText Kind.isText (quantifiedType read plus)) <|
  choose seesBuiltin (asWritten (.type .verbatim) builtin) <|
  choose (·.seesAny pathWords) path <|
  oneOfAfter ["`for`"]
    [.of (.group .paren) (parenType read plus),
      .of (.word "fn") function,
      .of (.word "unsafe") function,
      .of (.word "extern") function,
      .of .ident path,
      .of (.symbol "::") path,
      .of (.symbol "<") path,
      .of (.word "dyn") (dynType read plus),
      .of (.group .bracket) (bracketType read),
      .of (.symbol "*") (pointerType read),
      .of (.symbol "&") (referenceType read),
      ⟨.symbol "!", fun scan => !scan.sees (.symbol "="), node (.type .never) (symbol "!")⟩,
      .of (.word "impl") (implType read plus),
      .of (.word "_") (node (.type .infer) (word "_")),
      .of .lifetime (node (.type .traitObject) (objectBounds read true))]

end FluentGen.Rules
