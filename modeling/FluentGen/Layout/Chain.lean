import FluentGen.Layout.Block
import FluentGen.Layout.Path

/-!
# The layout of calls and chains

How calls are laid out, and chains of fields and method calls, each of which may stand on a line of
its own.
-/

namespace FluentGen.Layout

open Piece

/-- Whether an expression has attributes in front. -/
def hasAttributes (laid : Laid) : Bool :=
  laid.parts.head?.any (·.isA .attribute)

/-- Whether an expression may be the only argument of a call without a box around it. -/
def isBlockLike (laid : Laid) : Bool :=
  laid.isExpr [.array, .asyncBlock, .block, .closure, .constBlock, .record, .tryBlock, .tuple,
    .unsafeBlock] && !hasAttributes laid

/-- The arguments of a call in parentheses. -/
def callArguments (list : Laid) : List Piece :=
  let inside := match list.members with
    | [single] => if isBlockLike single then single.plain else commaBox [single.plain]
    | arguments => commaBox (arguments.map Laid.plain)
  [text "("] ++ inside ++ [text ")"]

/-- Whether an expression is laid out as part of the chain that it begins. -/
def isLink (laid : Laid) : Bool :=
  laid.isExpr [.await, .call, .field, .index, .methodCall, .tryOperator]

/-- The beginning of a chain, which may begin a line. -/
def linkBase (beginsLine : Bool) (base : Laid) : List Piece :=
  if isLink base then base.look (.link beginsLine)
  else consistent (-indent) base.plain

/-- The break before a link; a short name at the beginning of a line keeps what follows. -/
def linkBreak (beginsLine : Bool) (base : Laid) (written : List Piece) : List Piece :=
  if beginsLine && base.tree.isShortName then []
  else
    let endsWithDot := (lastTextOf? written).any fun words => words.toList.getLast? = some '.'
    [brk { Break.ofBlank 0 with between := if endsWithDot then " " else "" }]

/-- A link after its dot: a name, generic arguments, and the arguments of a call in a box. -/
def linkEnd (offset : Int) (parts : List Laid) : List Piece :=
  let (name, list) := parts.span (!·.isGroup)
  segment .value (name.filter (!·.isSymbol ".")) ++
    list.flatMap fun list => consistent offset (callArguments list)

/-- A field, a method call or the result of a future, behind the expression that has it. -/
def link (isMethod : Bool) (place : Place) (parts : List Laid) : List Piece :=
  let beginsLine := place.beginsLine
  let (attributes, rest) := splitAttributes parts
  match rest with
  | [] => []
  | base :: rest =>
    let written := linkBase beginsLine base
    let isOutermost := match place with
      | .link _ => false
      | _ => true
    let unindents := isMethod && isOutermost && beginsLine && base.tree.isShortName
    let whole := written ++ linkBreak beginsLine base written ++ [text "."] ++
      linkEnd (if unindents then -indent else 0) rest
    if isOutermost then joined attributes ++ consistent indent whole else whole

/-- A call, an index or a question mark, behind an expression that has no break after it. -/
def suffixed (look : Laid → List Piece) (place : Place) (parts : List Laid) : List Piece :=
  let (attributes, rest) := splitAttributes parts
  match rest with
  | [] => []
  | base :: rest =>
    match place with
    | .link _ => linkBase false base ++ joinedBy look rest
    | _ =>
      let start := if place.beginsLine then Place.lineStart else .inside
      joined attributes ++ base.look start ++ joinedBy look rest

end FluentGen.Layout
