import FluentGen.Syntax.Phrase

/-!
# Attributes, visibilities and macro calls

The rules for paths of mere names and for what is made of them: attributes, visibilities and macro
calls.
-/

namespace FluentGen.Rules

open Reader

/-! ## Paths of mere names -/

/-- A word that may be left out. -/
def optionalWord (text : String) : Reader :=
  ifSees (.word text) (word text)

/-- The words besides identifiers that may stand in a path. -/
def pathWords : List Sight :=
  [.word "super", .word "self", .word "Self", .word "crate"]

/-- Two colons or nothing. -/
def optionalColons : Reader :=
  ifSees (.symbol "::") (symbol "::")

/-- A segment that is a mere name. -/
def plainSegment : Reader :=
  node .segment anyWord

/-- The segments of a path of mere names. -/
def plainSegments : Nat → Reader
  | 0 => pass
  | times + 1 =>
    choose (·.seesAny (.ident :: pathWords))
      (plainSegment ++ ifSees (.symbol "::") (symbol "::" ++
        choose (·.seesAny (.ident :: pathWords)) (plainSegments times)
          (fail "expected path segment after `::`")))
      ident

/-- A path of mere names. -/
def plainPath : Reader :=
  node .path (optionalColons ++ stepped plainSegments)

/-! ## Attributes -/

/-- What an attribute says: a path, alone or with arguments or a value. -/
def meaning (read : Grammar) : Reader :=
  (choose (·.sees (.word "unsafe")) (node .path plainSegment) plainPath).bind fun path =>
  choose (·.seesAny [.group .paren, .group .bracket, .group .brace])
    (node .setting (give path ++ anyGroup)) <|
  choose (fun scan => scan.sees (.symbol "=") && !scan.sees (.symbol "==") &&
      !scan.sees (.symbol "=>"))
    (node .setting (give path ++ symbol "=" ++
      choose (fun scan => scan.sees (.symbol "#") && scan.sees2 (.group .bracket))
        (fail "unexpected attribute inside of attribute")
        (read (.expr true))))
    (node .marker (give path))

/-- The attributes of what follows them. -/
def outerAttributes (read : Grammar) : Reader :=
  repeatWhile (·.sees (.symbol "#"))
    (node .attribute (symbol "#" ++ within .bracket (meaning read)))

/-- The attributes of what they stand in. -/
def innerAttributes (read : Grammar) : Reader :=
  repeatWhile (fun scan => scan.sees (.symbol "#") && scan.sees2 (.symbol "!"))
    (node .attribute (symbol "#" ++ symbol "!" ++ within .bracket (meaning read)))

/--
A tree with attributes in front of its own. What is only kept as text has none, and a range that
has some is put into parentheses.
-/
def withAttributes (attributes : List Tree) : Tree → Tree
  | .node kind parts =>
    if attributes.isEmpty || kind.isText then .node kind parts
    else if kind = .expr .range then .node kind (attributes ++ [.group .paren parts])
    else .node kind (attributes ++ parts)
  | tree => tree

/-! ## Visibilities -/

/-- The part in parentheses of a restricted visibility, if the parentheses are such a part. -/
def restriction (scan : Scan) : Option Reader :=
  match scan.rest with
  | .opening .paren :: rest =>
    let inside := { scan with rest }
    if inside.seesAny [.word "crate", .word "self", .word "super"] then
      match rest with
      | _ :: .closing _ :: _ => some (within .paren (node .path plainSegment))
      | _ => none
    else if inside.sees (.word "in") then some (within .paren (word "in" ++ plainPath))
    else none
  | _ => none

/-- How far a declaration can be seen. -/
def visibility : Reader :=
  choose (·.sees (.word "pub"))
    ((word "pub").bind fun start => fun scan =>
      match restriction scan with
      | some part => node (.visibility .restricted) (give start ++ part) scan
      | none => node (.visibility .exported) (give start) scan)
    (node (.visibility .inherited) pass)

/-! ## Macro calls -/

/-- An exclamation mark that does not belong to an inequality sign. -/
def seesBang (scan : Scan) : Bool :=
  scan.sees (.symbol "!") && !scan.sees (.symbol "!=")

/-- A macro call after its path. -/
def callAfter (path : List Tree) : Reader :=
  node .macroCall (give path ++ symbol "!" ++ anyGroup)

/-- A macro call. -/
def macroCall : Reader :=
  plainPath.bind callAfter

end FluentGen.Rules
