import FluentGen.Syntax.Grammar.Path

/-!
# Bounds and generic parameters

The rules for what is demanded of types: bounds, the parameters of declarations with their bounds,
and the conditions on them.
-/

namespace FluentGen.Rules

open Reader

/-! ## Generic parameters -/

/-- A lifetime as a generic parameter. -/
def lifetimeParam : Reader :=
  let more (scan : Scan) := !scan.atEnd && !scan.seesAny [.symbol ",", .symbol ">"]
  lifetime ++ ifSees (.symbol ":") (node .bounds (symbol ":" ++
    choose more (sum more lifetime) pass))

/-- A type as a generic parameter. -/
def typeParam (read : Grammar) : Reader :=
  let more (scan : Scan) :=
    !scan.atEnd && !scan.seesAny [.symbol ",", .symbol ">", .symbol "="]
  ident ++ ifSees (.symbol ":") (node .bounds (symbol ":" ++
      choose more (sum more (read (.bound false true))) pass)) ++
    ifSees (.symbol "=") (symbol "=" ++ read (.type true))

/-- A constant as a generic parameter. -/
def constParam (read : Grammar) : Reader :=
  word "const" ++ ident ++ symbol ":" ++ read (.type true) ++
    ifSees (.symbol "=") (symbol "=" ++ constArgument read)

/-- A generic parameter that something is quantified over. -/
def boundParam (read : Grammar) : Reader :=
  (outerAttributes read).bind fun attributes =>
  oneOf [.of .ident (node .typeParam (give attributes ++ typeParam read)),
    .of .lifetime (node .lifetimeEntry (give attributes ++ lifetimeParam)),
    .of (.word "const") (node .constParam (give attributes ++ constParam read))]

/-- The parameters that something is quantified over. -/
def binder (read : Grammar) : Reader :=
  node .binder (word "for" ++ symbol "<" ++
    separated (·.sees (.symbol ">")) (symbol ",") (boundParam read) ++ symbol ">")

/-- The parameters that something is quantified over, if there are any. -/
def optionalBinder (read : Grammar) : Reader :=
  ifSees (.word "for") (binder read)

/-- The generic parameters of a declaration, if there are any. -/
def parameters (read : Grammar) : Reader :=
  let entry := (outerAttributes read).bind fun attributes =>
    choose (·.sees (.word "_")) (node .typeParam (give attributes ++ anyWord)) <|
    oneOf [.of .lifetime (node .lifetimeEntry (give attributes ++ lifetimeParam)),
      .of .ident (node .typeParam (give attributes ++ typeParam read)),
      .of (.word "const") (node .constParam (give attributes ++ constParam read))]
  ifSees (.symbol "<") (node .parameters (symbol "<" ++
    node .entries (separated (·.sees (.symbol ">")) (symbol ",") entry) ++ symbol ">"))

/-- Whether generic parameters come next and not a type in angle brackets. -/
def seesParameters (scan : Scan) : Bool :=
  scan.sees (.symbol "<") && (scan.sees2 (.symbol ">") || scan.sees2 (.symbol "#") ||
    ((scan.sees2 .lifetime || scan.sees2 .ident) &&
      ((scan.sees3 (.symbol ":") && !scan.sees3 (.symbol "::")) || scan.sees3 (.symbol ",") ||
        scan.sees3 (.symbol ">") || scan.sees3 (.symbol "="))) ||
    scan.sees2 (.word "const"))

/-- Whether a word comes next that generic parameters follow. -/
def seesParametersBehind (text : String) (scan : Scan) : Bool :=
  scan.sees (.word text) && (Token.skip? scan.rest).any fun rest =>
    seesParameters { scan with rest }

/-! ## Bounds -/

/-- The parameters that an `impl` type captures, between the angle brackets. -/
def captures : Nat → Reader
  | 0 => pass
  | times + 1 =>
    let next := oneOf [.of (.symbol ",") (symbol "," ++ captures times), .of (.symbol ">") pass]
    choose (·.sees (.word "Self")) (node .segment anyWord ++ next) <|
    oneOf [.of .lifetime (node .lifetimeEntry lifetime ++ next),
      .of .ident (node .segment ident ++ next), .of (.symbol ">") pass]

/-- The list of the parameters that an `impl` type captures. -/
def captureList : Reader :=
  node .capture (word "use" ++ symbol "<" ++ node .entries (stepped captures) ++ symbol ">")

/-- The argument list in parentheses of a trait, with its result. -/
def callSignature (read : Grammar) : Reader :=
  node .callSignature (within .paren (commas (read (.type true))) ++ result read false)

/-- Arguments in parentheses, possibly after two colons. -/
def seesCallSignature (scan : Scan) : Bool :=
  scan.sees (.group .paren) || (scan.sees (.symbol "::") && scan.sees3 (.group .paren))

/-- The mark that a trait is needed as a constant one, in brackets or alone. -/
def constMark (allowed : Bool) : Reader :=
  choose (·.sees (.group .bracket))
    (within .bracket (word "const") ++
      if allowed then pass else refuse "`[const]` is not allowed here") <|
  ifSees (.word "const")
    (word "const" ++ if allowed then pass else refuse "`const` is not allowed here")

/-- The path of a trait, whose arguments may also be in parentheses. -/
def traitPath (read : Grammar) : Reader :=
  (argumentPath read false).bind fun path =>
  let last := path.head?.bind fun path => (path.children .segment).getLast?
  if last.any isBare then
    give path ++ choose seesCallSignature (dropped optionalColons ++ callSignature read) pass
  else give path

/-- A trait as a bound without parentheses. It is only kept as text if it is marked as constant. -/
def traitBound (read : Grammar) (consts : Bool) : Reader :=
  (optionalBinder read).bind fun first =>
  (constMark consts).bind fun mark =>
  (ifSees (.symbol "?") (symbol "?")).bind fun question =>
  (if first.isEmpty && !question.isEmpty then optionalBinder read else pass).bind fun second =>
  (traitPath read).bind fun path =>
  if !question.isEmpty && !(first ++ second).isEmpty then
    refuse "`for<...>` binder not allowed with `?` trait polarity modifier"
  else
    let kind := if mark.isEmpty then Kind.bound else .boundText
    give [.node kind (question ++ first ++ second ++ path)]

/-- A bound in parentheses is of the same kind as the one inside. -/
def enclosedBound (group : List Tree) : List Tree :=
  match group with
  | [.group .paren [.node kind parts]] => [.node kind [.group .paren parts]]
  | other => other

/-- A bound: a lifetime, captured parameters, or a trait. -/
def bound (read : Grammar) (captures consts : Bool) : Reader :=
  choose (·.sees .lifetime) lifetime <|
  choose (·.sees (.word "use"))
    (captureList ++ if captures then pass else
      refuse "`use<...>` precise capturing syntax is not allowed here") <|
  asText Kind.isText <|
    choose (·.sees (.group .paren)) ((within .paren (traitBound read consts)).map enclosedBound)
      (traitBound read consts)

/-- Whether a bound may come next. -/
def seesBound (consts : Bool) (scan : Scan) : Bool :=
  scan.seesAny [.anyWord, .symbol "::", .symbol "?", .lifetime, .group .paren] ||
    (consts && scan.sees (.group .bracket))

/-- Bounds with plus signs between them; without `plus` only one is read. -/
def bounds (read : Grammar) (plus captures consts : Bool) : Reader :=
  if plus then sum (seesBound consts) (read (.bound captures consts))
  else read (.bound captures consts)

/-- The bounds of a declaration behind a colon, if there are any, up to where the test holds. -/
def declaredBounds (read : Grammar) (done : Scan → Bool) : Reader :=
  ifSees (.symbol ":") (node .bounds (symbol ":" ++
    strictSum done (read (.bound false true))))

/-! ## Conditions -/

/-- Where the conditions on generic parameters end; `plain` says that any colon ends them. -/
def endsConditions (plain : Bool) (scan : Scan) : Bool :=
  scan.atEnd || scan.seesAny [.group .brace, .symbol ",", .symbol ";", .symbol "="] ||
    (scan.sees (.symbol ":") && (plain || !scan.sees (.symbol "::")))

/-- A condition on generic parameters. -/
def condition (read : Grammar) : Reader :=
  let more (plain : Bool) (scan : Scan) := !endsConditions plain scan
  node .condition <|
    choose (fun scan => scan.sees .lifetime && scan.sees2 (.symbol ":"))
      (lifetime ++ symbol ":" ++ choose (more true) (sum (more true) lifetime) pass)
      (optionalBinder read ++ read (.type true) ++ symbol ":" ++
        choose (more false) (sum (more false) (read (.bound false true))) pass)

/-- Conditions with commas between them. -/
def conditions (read : Grammar) : Nat → Reader
  | 0 => pass
  | times + 1 => choose (endsConditions false) pass
      (condition read ++ ifSees (.symbol ",") (symbol "," ++ conditions read times))

/-- The conditions on generic parameters, if there are any. -/
def whereClause (read : Grammar) : Reader :=
  ifSees (.word "where") (node .conditions (word "where" ++
    choose seesParameters
      (refuse "generic parameters on `where` clauses are reserved for future use")
      (stepped (conditions read))))

end FluentGen.Rules
