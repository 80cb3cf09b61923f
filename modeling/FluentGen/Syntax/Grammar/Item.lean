import FluentGen.Syntax.Grammar.Expr

/-!
# Declarations

The rules for what stands at the top level of a file, in an `impl` block, in a trait and in a block
of foreign declarations. A declaration of a form that the language does not have is accepted as
well, but only kept as text.
-/

namespace FluentGen.Rules

open Reader

/-- Makes one declaration of what is read; the test says whether it has a usual form. -/
def declaration (region : Region) (kind : ItemKind) (isUsual : Bool) (reader : Reader) : Reader :=
  node (.item (if isUsual then kind else .verbatim region)) reader

/-- Whether a visibility that was read is not written at all. -/
def isInherited (degree : List Tree) : Bool :=
  degree.all (·.isA (.visibility .inherited))

/-! ## Fields -/

/-- A field with a name. An underscore in place of it may have a nested structure as its type. -/
def namedField (read : Grammar) (fields : Reader) : Reader :=
  node .field (outerAttributes read ++ visibility ++
    choose (·.sees (.word "_"))
      (anyWord ++ symbol ":" ++
        choose (fun scan => scan.sees (.word "struct") ||
            (scan.sees (.word "union") && scan.sees2 (.group .brace)))
          (asWritten (.type .verbatim) (anyWord ++ fields)) (read (.type true)))
      (ident ++ symbol ":" ++ read (.type true)))

/-- Fields with names, which may be nested so many times. -/
def nestedFields (read : Grammar) : Nat → Reader
  | 0 => pass
  | times + 1 => node .namedFields
      (within .brace (commas (namedField read (nestedFields read times))))

/-- Fields with names. -/
def namedFields (read : Grammar) : Reader :=
  stepped (nestedFields read)

/-- Fields with numbers. -/
def tupleFields (read : Grammar) : Reader :=
  node .tupleFields (within .paren (commas (node .field (outerAttributes read ++ visibility ++
    read (.type true)))))

/-- A variant of an enumeration. -/
def variant (read : Grammar) : Reader :=
  node .variant (outerAttributes read ++ dropped visibility ++ ident ++
    (choose (·.sees (.group .brace)) (namedFields read) <|
      choose (·.sees (.group .paren)) (tupleFields read) pass) ++
    ifSees (.symbol "=") (symbol "=" ++ read (.expr true)))

/-! ## Structures, enumerations and unions -/

/-- The fields of a structure, with the conditions on its parameters. -/
def structBody (read : Grammar) : Reader :=
  let semicolon := Choice.of (.symbol ";") (symbol ";")
  let braces := Choice.of (.group .brace) (namedFields read)
  choose (·.sees (.word "where")) (whereClause read ++ oneOf [braces, semicolon]) <|
  oneOfAfter ["`where`"]
    [.of (.group .paren) (tupleFields read ++
        choose (·.sees (.word "where")) (whereClause read ++ oneOf [semicolon])
          (oneOfAfter ["`where`"] [semicolon])),
      braces, semicolon]

/-- The name and the generic parameters of a declaration. -/
def header (read : Grammar) (introduction : String) : Reader :=
  word introduction ++ ident ++ parameters read

/-- A structure after its attributes and visibility. -/
def structRest (read : Grammar) (start : List Tree) : Reader :=
  node (.item .record) (give start ++ header read "struct" ++ structBody read)

/-- An enumeration after its attributes and visibility. -/
def enumRest (read : Grammar) (start : List Tree) : Reader :=
  node (.item .enumeration) (give start ++ header read "enum" ++ whereClause read ++
    within .brace (commas (variant read)))

/-- A union after its attributes and visibility. -/
def unionRest (read : Grammar) (start : List Tree) : Reader :=
  node (.item .union) (give start ++ header read "union" ++ whereClause read ++ namedFields read)

/-- A structure, an enumeration or a union that stands alone. -/
def dataItem (read : Grammar) : Reader :=
  (outerAttributes read ++ visibility).bind fun start =>
  oneOf [.of (.word "struct") (structRest read start), .of (.word "enum") (enumRest read start),
    .of (.word "union") (unionRest read start)]

/-! ## Functions -/

/-- The argument through which a method gets its object. -/
def receiver (read : Grammar) : Reader :=
  (ifSees (.symbol "&") (symbol "&" ++ choose (·.sees .lifetime) lifetime pass)).bind fun sign =>
  node .receiver (give sign ++ optionalWord "mut" ++ word "self" ++
    choose (·.sees (.symbol "::")) (fail "expected `:`")
      (if sign.isEmpty then ifSees (.symbol ":") (symbol ":" ++ read (.type true)) else pass))

/-- The end of an argument list with dots. -/
def variadic : Reader :=
  symbol "..." ++ choose (·.atEnd) pass (symbol ",")

/-- The arguments of a function; the receiver has to be the first one. -/
def functionArguments (read : Grammar) : Nat → Bool → Bool → Reader
  | 0, _, _ => pass
  | times + 1, isFirst, hasReceiver =>
    let next (isReceiver : Bool) := choose (·.atEnd) pass
      (symbol "," ++ functionArguments read times false (hasReceiver || isReceiver))
    choose (·.atEnd) pass <|
    (outerAttributes read).bind fun attributes =>
    choose (·.sees (.symbol "...")) (node .parameter (give attributes ++ variadic)) <|
    (orElse (receiver read) pass).bind fun found =>
    if !found.isEmpty then
      if hasReceiver then refuse "unexpected second method receiver"
      else if !isFirst then refuse "unexpected method receiver"
      else give (found.map (withAttributes attributes)) ++ next true
    else
      choose (fun scan => scan.sees .ident && scan.sees2 (.symbol "<"))
        (node .parameter (give (attributes ++
            [.node (.pattern .wildcard) [.word (.plain "_")], .symbol ":"]) ++
          read (.type true)) ++ next false) <|
      (read .pattern ++ symbol ":").bind fun pattern =>
      choose (·.sees (.symbol "..."))
        (node .parameter (give (attributes ++ pattern) ++ variadic))
        (node .parameter (give (attributes ++ pattern) ++ read (.type true)) ++ next false)

/-- The words in front of a function. -/
def functionMarks : Reader :=
  optionalWord "const" ++ optionalWord "async" ++ optionalWord "unsafe" ++ convention

/-- The words in front of a foreign function, which may also be marked as safe. -/
def foreignMarks : Reader :=
  optionalWord "const" ++ optionalWord "async" ++
    choose (·.sees (.word "safe")) (word "safe") (optionalWord "unsafe") ++ convention

/-- A function from its name to the conditions on its parameters. -/
def functionHead (read : Grammar) : Reader :=
  word "fn" ++ ident ++ parameters read ++
    within .paren (stepped fun times => functionArguments read times true false) ++
    result read true ++ whereClause read

/-- Whether a function comes next, behind such words. -/
def seesFunction (marks : Reader) (scan : Scan) : Bool :=
  match marks scan with
  | .ok (_, after) => after.sees (.word "fn")
  | .error _ => false

/-- A function after what stands in front of its own words; without a body it is unusual. -/
def functionRest (read : Grammar) (region : Region) (start : List Tree) : Reader :=
  (functionMarks ++ functionHead read).bind fun head =>
  choose (·.sees (.symbol ";"))
    (declaration region .function false (give (start ++ head) ++ symbol ";"))
    (declaration region .function true (give (start ++ head) ++ body read))

/-! ## Imports and values -/

/-- A tree of imports. -/
def useTree (read : Grammar) (fromRoot : Bool) : Reader :=
  let named := anyWord ++
    (choose (·.sees (.symbol "::")) (symbol "::" ++ read (.useTree false)) <|
      ifSees (.word "as") (word "as" ++ choose (·.sees .ident) ident
        (choose (·.sees (.word "_")) anyWord (fail "expected identifier or underscore"))))
  let entry := choose (fun scan => fromRoot && scan.sees (.symbol "::"))
    (symbol "::" ++ read (.useTree false)) (read (.useTree fromRoot))
  node .useTree (oneOf [.of .ident named, .of (.word "self") named, .of (.word "super") named,
    .of (.word "crate") named, .of (.word "try") named, .of (.symbol "*") (symbol "*"),
    .of (.group .brace) (within .brace (commas entry))])

mutual

/-- Whether a tree of imports has an entry in braces that begins with two colons. -/
def reachesRoot : Tree → Bool
  | .node .useTree parts => anyReachesRoot parts
  | .group .brace parts => parts.contains (.symbol "::") || anyReachesRoot parts
  | _ => false

/-- Whether one of the trees has an entry in braces that begins with two colons. -/
def anyReachesRoot : List Tree → Bool
  | [] => false
  | tree :: rest => reachesRoot tree || anyReachesRoot rest

end

/-- An import; it is unusual if an entry in braces begins with two colons. -/
def useItem (read : Grammar) (attributes : List Tree) : Reader :=
  let colons := choose (·.sees (.symbol "::")) (symbol "::" ++ read (.useTree false))
    (read (.useTree true))
  (visibility ++ word "use" ++ colons ++ symbol ";").bind fun parts =>
  declaration .file .imports (!anyReachesRoot parts) (give (attributes ++ parts))

/-- A variable of the whole program; without a type or a value it is unusual. -/
def staticItem (read : Grammar) (attributes : List Tree) : Reader :=
  (visibility ++ word "static" ++ optionalWord "mut" ++ ident).bind fun head =>
  (choose (·.sees (.symbol "=")) pass (symbol ":" ++ read (.type true))).bind fun type =>
  (choose (fun scan => !type.isEmpty && scan.sees (.symbol ";")) pass
    (symbol "=" ++ read (.expr true))).bind fun value =>
  declaration .file .static (!type.isEmpty && !value.isEmpty)
    (give (attributes ++ head ++ type ++ value) ++ symbol ";")

/--
A constant from its first word on. It is unusual if it has generic parameters or conditions on
them; outside of traits, also if it has no value.
-/
def constRest (read : Grammar) (region : Region) (isUsual : Bool) (start : List Tree) : Reader :=
  (word "const" ++ oneOf [.of .ident anyWord, .of (.word "_") anyWord]).bind fun name =>
  (parameters read).bind fun generics =>
  (symbol ":" ++ read (.type true)).bind fun type =>
  (ifSees (.symbol "=") (symbol "=" ++ read (.expr true))).bind fun value =>
  (whereClause read).bind fun conditions =>
  let isPlain := generics.isEmpty && conditions.isEmpty
  declaration region .constant
    (isUsual && isPlain && (!value.isEmpty || region = .traitBody))
    (give (start ++ name ++ generics ++ type ++ value ++ conditions) ++ symbol ";")

/-! ## Modules and foreign code -/

/-- An external library. -/
def crateItem (attributes : List Tree) : Reader :=
  node (.item .crate) (give attributes ++ visibility ++ word "extern" ++ word "crate" ++
    choose (·.sees (.word "self")) anyWord ident ++
    ifSees (.word "as") (word "as" ++ choose (·.sees (.word "_")) anyWord ident) ++ symbol ";")

/-- A block of foreign declarations. -/
def foreignBlock (read : Grammar) (attributes : List Tree) : Reader :=
  node (.item .foreignBlock) (give attributes ++ optionalWord "unsafe" ++ convention ++
    within .brace (innerAttributes read ++ repeatUntil (·.atEnd) (read .foreignItem)))

/-- A module. -/
def moduleItem (read : Grammar) (attributes : List Tree) : Reader :=
  node (.item .module) (give attributes ++ visibility ++ optionalWord "unsafe" ++ word "mod" ++
    choose (·.sees (.word "try")) anyWord ident ++
    oneOf [.of (.symbol ";") (symbol ";"),
      .of (.group .brace) (within .brace
        (innerAttributes read ++ repeatUntil (·.atEnd) (read .item)))])

/-! ## Aliases and traits -/

/-- Where the conditions of an alias may stand. -/
inductive ConditionPlace where
  | beforeValue
  | afterValue
  | both
deriving DecidableEq

/-- The place for the conditions of an alias by where it stands. -/
def conditionPlace : Region → ConditionPlace
  | .file => .beforeValue
  | .foreignBlock => .both
  | .traitBody => .afterValue
  | .implBody => .afterValue

/--
A type alias from its first word on. Outside of traits it is unusual if it has bounds, and foreign
ones are unusual with a value, all others without one.
-/
def aliasRest (read : Grammar) (region : Region) (isUsual : Bool) (start : List Tree) : Reader :=
  let place := conditionPlace region
  let done (scan : Scan) := scan.seesAny [.word "where", .symbol "=", .symbol ";"]
  (header read "type").bind fun head =>
  (declaredBounds read done).bind fun bounds =>
  (if place = .afterValue then pass else whereClause read).bind fun early =>
  (ifSees (.symbol "=") (symbol "=" ++ read (.type true))).bind fun value =>
  (if place = .beforeValue || !early.isEmpty then pass else whereClause read).bind fun late =>
  let isPlain := region = .traitBody ||
    (bounds.isEmpty && value.isEmpty == (region == .foreignBlock))
  declaration region .typeAlias (isUsual && isPlain)
    (give (start ++ head ++ bounds ++ early ++ value ++ late) ++ symbol ";")

/-- The bounds and members of a trait. -/
def traitRest (read : Grammar) : Reader :=
  declaredBounds read (·.seesAny [.word "where", .group .brace]) ++ whereClause read ++
    within .brace (innerAttributes read ++ repeatUntil (·.atEnd) (read .traitItem))

/-- A trait. -/
def traitItem (read : Grammar) (attributes : List Tree) : Reader :=
  node (.item .trait) (give attributes ++ visibility ++ optionalWord "unsafe" ++
    optionalWord "auto" ++ header read "trait" ++ traitRest read)

/-- A trait, or a name for a sum of bounds. -/
def traitOrAlias (read : Grammar) (attributes : List Tree) : Reader :=
  (give attributes ++ visibility ++ header read "trait").bind fun start =>
  let trait := node (.item .trait) (give start ++ traitRest read)
  oneOf [.of (.group .brace) trait, .of (.symbol ":") trait, .of (.word "where") trait,
    .of (.symbol "=") (node (.item .traitAlias) (give start ++ symbol "=" ++
      strictSum (·.seesAny [.word "where", .symbol ";"]) (read (.bound false false)) ++
      whereClause read ++ symbol ";"))]

/-! ## `impl` blocks -/

/--
An `impl` block. It is unusual if it has a visibility, if its trait is marked as constant, or if
what it is for is no trait.
-/
def implBlock (read : Grammar) (attributes : List Tree) : Reader :=
  visibility.bind fun degree =>
  (optionalWord "default" ++ optionalWord "unsafe" ++ word "impl" ++
    choose seesParameters (parameters read) pass).bind fun head =>
  (choose (fun scan => scan.sees (.word "const") ||
      (scan.sees (.symbol "?") && scan.sees2 (.word "const")))
    (ifSees (.symbol "?") (symbol "?") ++ word "const") pass).bind fun constness =>
  (choose (fun scan => scan.sees (.symbol "!") && !scan.sees2 (.group .brace)) (symbol "!")
    pass).bind fun polarity =>
  (read (.type true)).bind fun first =>
  (ifSees (.word "for") (word "for" ++ read (.type true))).bind fun forType =>
  if forType.isEmpty && !polarity.isEmpty then refuse "inherent impls cannot be negative" else
  let isTraitPath := first.any fun type => type.isA (.type .path) &&
    !type.parts.any isQualified
  declaration .file (.implementation (!forType.isEmpty))
    (isInherited degree && constness.isEmpty && (forType.isEmpty || isTraitPath))
    (give (attributes ++ degree ++ head ++ constness ++ polarity ++ first ++ forType) ++
      whereClause read ++
      within .brace (innerAttributes read ++ repeatUntil (·.atEnd) (read .implItem)))

/-! ## Macros -/

/-- A macro that is given by its brackets, which is unusual in any form. -/
def macroItem (attributes : List Tree) : Reader :=
  let braces := Choice.of (.group .brace) anyGroup
  declaration .file .macroCall false (give attributes ++ visibility ++ word "macro" ++ ident ++
    choose (·.sees (.group .paren)) (anyGroup ++ oneOf [braces])
      (oneOfAfter ["parentheses"] [braces]))

/-- A macro call where an item may stand, with its semicolon unless it ends with braces. -/
def macroCallItem (attributes : List Tree) (name : Reader) : Reader :=
  (plainPath ++ symbol "!" ++ name ++ anyGroup).bind fun call =>
  node (.item .macroCall) (give attributes ++ node .macroCall (give call) ++
    if Tree.isBraced (.node .macroCall call) then pass else symbol ";")

/-- The alternatives of a macro call, which has no visibility. -/
def callChoices (look : Scan) (call : Reader) : List Choice :=
  if look.sees (.word "pub") then []
  else [Sight.ident, .word "self", .word "super", .word "crate", .symbol "::"].map (.of · call)

/-! ## Items of a file -/

/-- An item that begins with `unsafe` and is not a function. -/
def unsafeItem (read : Grammar) (attributes : List Tree) : Reader :=
  ahead (visibility ++ word "unsafe") fun look => pick []
    [.of (.word "trait") (traitItem read attributes),
      ⟨.word "auto", (·.sees2 (.word "trait")), traitItem read attributes⟩,
      .of (.word "impl") (implBlock read attributes),
      .of (.word "extern") (foreignBlock read attributes),
      .of (.word "mod") (moduleItem read attributes)] look

/-- An item that begins with `extern` and is not a function. -/
def externItem (read : Grammar) (attributes : List Tree) : Reader :=
  let foreign := foreignBlock read attributes
  ahead (visibility ++ word "extern") fun look => pick []
    [.of (.word "crate") (crateItem attributes),
      .of (.group .brace) foreign,
      .of .text (ahead (visibility ++ word "extern" ++ literal) fun look =>
        pick [] [.of (.group .brace) foreign] look)] look

/-- An item after its attributes. -/
def itemRest (read : Grammar) (attributes : List Tree) : Reader :=
  let start := give attributes ++ visibility
  ahead visibility fun look =>
  if seesFunction functionMarks look then start.bind (functionRest read .file) else
  ahead pass fun here => pick ["`fn`"]
    ([.of (.word "extern") (externItem read attributes),
      .of (.word "use") (useItem read attributes),
      .of (.word "static") (staticItem read attributes),
      .of (.word "const") (start.bind (constRest read .file true)),
      .of (.word "unsafe") (unsafeItem read attributes),
      .of (.word "mod") (moduleItem read attributes),
      .of (.word "type") (start.bind (aliasRest read .file true)),
      .of (.word "struct") (start.bind (structRest read)),
      .of (.word "enum") (start.bind (enumRest read)),
      ⟨.word "union", (·.sees2 .ident), start.bind (unionRest read)⟩,
      .of (.word "trait") (traitOrAlias read attributes),
      ⟨.word "auto", (·.sees2 (.word "trait")), traitItem read attributes⟩,
      .of (.word "impl") (implBlock read attributes),
      ⟨.word "default", fun look => !look.sees2 (.symbol "!"), implBlock read attributes⟩,
      .of (.word "macro") (macroItem attributes)] ++
      callChoices here (macroCallItem attributes
        (choose (·.seesAny [.word "try", .ident]) anyWord pass))) look

/-- An item. -/
def item (read : Grammar) : Reader :=
  asText Kind.isText ((outerAttributes read).bind (itemRest read))

/-! ## Members of blocks -/

/-- A foreign function; it is unusual if it is marked as safe or has a body. -/
def foreignFunction (read : Grammar) (start : List Tree) : Reader :=
  foreignMarks.bind fun marks =>
  let isSafe := marks.contains (.word (.plain "safe"))
  let head := give (start ++ marks) ++ functionHead read
  head.bind fun head =>
  choose (·.sees (.group .brace))
    (declaration .foreignBlock .function false (give head ++ body read))
    (declaration .foreignBlock .function (!isSafe) (give head ++ symbol ";"))

/-- A foreign variable; it is unusual if it is marked as safe or unsafe, or has a value. -/
def foreignStatic (read : Grammar) (start : List Tree) : Reader :=
  (choose (·.sees (.word "safe")) (word "safe") (optionalWord "unsafe")).bind fun mark =>
  (word "static" ++ optionalWord "mut" ++ ident ++ symbol ":" ++
    read (.type true)).bind fun head =>
  (ifSees (.symbol "=") (symbol "=" ++ read (.expr true))).bind fun value =>
  declaration .foreignBlock .static (mark.isEmpty && value.isEmpty)
    (give (start ++ mark ++ head ++ value) ++ symbol ";")

/-- A declaration in a block of foreign ones. -/
def foreignItem (read : Grammar) : Reader :=
  asText Kind.isText <| (outerAttributes read).bind fun attributes =>
  let start := give attributes ++ visibility
  let static := start.bind (foreignStatic read)
  ahead visibility fun look =>
  if seesFunction foreignMarks look then start.bind (foreignFunction read)
  else if look.seesAny [.word "unsafe", .word "safe"] && look.sees2 (.word "static") then static
  else ahead pass fun here => pick ["`fn`"]
    ([.of (.word "static") static,
      .of (.word "type") (start.bind (aliasRest read .foreignBlock true))] ++
      callChoices here (macroCallItem attributes pass)) look

/-- A member of a trait; it is unusual if it has a visibility or is marked as a default. -/
def traitMember (read : Grammar) : Reader :=
  asText Kind.isText <| (outerAttributes read).bind fun attributes =>
  ahead pass fun here =>
  (visibility ++ optionalWord "default").bind fun degree =>
  let isUsual := isInherited degree
  let start := attributes ++ degree
  let function := declaration .traitBody .function isUsual (give start ++
    functionMarks ++ functionHead read ++
    oneOf [.of (.group .brace) (body read), .of (.symbol ";") (symbol ";")])
  let constant := constRest read .traitBody isUsual start
  choose (seesFunction functionMarks) function <|
  oneOfAfter ["`fn`"]
    ([.of (.word "const") (ahead (word "const") fun look => pick []
        [.of .ident constant, .of (.word "_") constant, .of (.word "async") function,
          .of (.word "unsafe") function, .of (.word "extern") function,
          .of (.word "fn") function] look),
      .of (.word "type") (aliasRest read .traitBody isUsual start)] ++
      if degree.length ≤ 1 then callChoices here (macroCallItem attributes pass) else [])

/-- A member of an `impl` block. -/
def implMember (read : Grammar) : Reader :=
  asText Kind.isText <| (outerAttributes read).bind fun attributes =>
  ahead pass fun here =>
  ahead visibility fun early =>
  let isDefault := early.sees (.word "default") && !early.sees2 (.symbol "!")
  let missed := if early.sees (.word "default") then [] else ["`default`"]
  let degree := visibility ++ if isDefault then word "default" else pass
  let start := give attributes ++ degree
  ahead degree fun look =>
  if seesFunction functionMarks look then start.bind (functionRest read .implBody) else
  pick (missed ++ ["`fn`"])
    ([.of (.word "const") (start.bind (constRest read .implBody true)),
      .of (.word "type") (start.bind (aliasRest read .implBody true))] ++
      if isDefault then [] else callChoices here (macroCallItem attributes pass)) look

/-! ## Files -/

/-- The attributes of a file and its items. -/
def file (read : Grammar) : Reader :=
  innerAttributes read ++ repeatUntil (·.atEnd) (read .item)

end FluentGen.Rules
