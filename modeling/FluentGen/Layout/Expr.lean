import FluentGen.Layout.Chain
import FluentGen.Layout.Pattern
import FluentGen.Layout.Type
import FluentGen.Syntax.Reader

/-!
# The layout of expressions

How expressions are laid out.
-/

namespace FluentGen.Layout

open Piece

/-! ## Operators and lists -/

/-- Two expressions with an operator between them. -/
def binary (parts : List Laid) : List Piece :=
  match parts with
  | [left, sign, right] =>
    inconsistent indent (inconsistent (-indent) left.plain ++ [space] ++ sign.plain ++
      [text " "] ++ right.plain)
  | parts => joined parts

/-- Parts with an equals sign, behind which a line does not end at once. -/
def assignment (look : Laid → List Piece) (parts : List Laid) : List Piece :=
  joinedBy (fun part => if part.isSymbol "=" then [text " = ", never] else look part) parts

/-- Whether an expression is a literal that takes little space by nature. -/
def isSmallLiteral (laid : Laid) : Bool :=
  laid.isExpr [.literal] && match laid.tree.parts.getLast? with
    | some (.literal words) =>
      match words.toList with
      | '\'' :: _ => true
      | 'b' :: '\'' :: _ => true
      | c :: _ => c.isDigit && !Sight.isFloat words
      | [] => false
    | some (.word _) => true
    | _ => false

/-- The elements of an array; small literals share lines. -/
def array (list : Laid) : List Piece :=
  let elements := list.members.map Laid.plain
  if elements.isEmpty then [text "[]"]
  else if list.members.all isSmallLiteral then
    let inside := inconsistent 0 (plusItems [] [text ",", space] elements)
    consistent indent ([text "["] ++ outdent (zero :: inside ++ [comma]) ++ [text "]"])
  else [text "["] ++ commaBox elements ++ [text "]"]

/-- How wide a structure on one line may be. -/
def recordLimit : Nat := 34

/-- A structure with its fields. -/
def record (parts : List Laid) : List Piece :=
  let isRest (part : Laid) := part.isSymbol ".." || isAnyExpr part
  let inside := joinedBy (fun part =>
    if part.isGroup then
      let rest := match part.members.find? isAnyExpr with
        | some rest => [text ".."] ++ rest.plain ++ [space]
        | none => []
      recordFields part isRest rest
    else inconsistent (-indent) (part.look .value)) parts
  consistent indent (limited recordLimit (outdent inside)) ++ [text "\x7d"]

/-- A field of a structure with its value. -/
def fieldValue (parts : List Laid) : List Piece :=
  joinedBy (fun part => match part.tree with
    | .symbol _ => [text ": "]
    | .node (.expr _) _ => inconsistent 0 part.plain
    | _ => part.plain) parts

/-! ## Conditions and loops -/

/-- A condition up to the brace behind it. -/
def conditionBeforeBrace (part : Laid) : List Piece :=
  consistent 0 (part.plain ++ [if part.tree.pushesBrace then space else text " "])

/-- A conditional up to what happens otherwise. -/
def conditionalFront (parts : List Laid) : List Piece :=
  [text "if "] ++ consistent (-indent)
    (joinedBy conditionBeforeBrace (parts.filter isAnyExpr))

/-- What a conditional does otherwise. -/
def otherwise (parts : List Laid) : List Piece :=
  joinedBy (fun part => [text " else "] ++ part.look .otherwise) parts

/-- A conditional; without an alternative its block always has lines of its own. -/
def conditional (place : Place) (parts : List Laid) : List Piece :=
  let (front, back) := parts.span (!·.isTheWord "else")
  let blocks := front.filter Laid.isGroup
  let alternatives := back.filter isAnyExpr
  let whole (look : Laid → List Piece) :=
    conditionalFront front ++ joinedBy look blocks ++ otherwise alternatives
  if place = .otherwise then whole smallBlock
  else if !alternatives.isEmpty then consistent indent (whole smallBlock)
  else
    let ownLines (block : Laid) := if block.parts.isEmpty then [text "\x7b\x7d"]
      else [text "\x7b"] ++ outdent (hard :: blockLines block) ++ [text "\x7d"]
    consistent indent (whole ownLines)

/-- The braces of a loop or match behind what they belong to. -/
def loopEnd (part : Laid) : List Piece :=
  if part.isGroup then linesInBraces (blockLines part) else conditionBeforeBrace part

/-- A loop over the elements of something. -/
def forLoop (parts : List Laid) : List Piece :=
  let (front, back) := parts.span (!·.isTheWord "in")
  inconsistent 0 (row [] front ++ [text " in ", never] ++ joinedBy loopEnd (back.drop 1))

/-- A loop with a condition. -/
def whileLoop (parts : List Laid) : List Piece :=
  let (front, back) := parts.span (!·.isTheWord "while")
  joined front ++ [text "while "] ++ joinedBy loopEnd (back.drop 1)

/-- An endless loop. -/
def endlessLoop (parts : List Laid) : List Piece :=
  joinedBy (fun part =>
    if part.isGroup then
      [text " \x7b"] ++ consistent indent (outdent (hardIfMore :: blockLines part)) ++
        [text "\x7d"]
    else part.plain) parts

/-! ## Matches -/

/-- A body without the braces that say nothing: those around a single expression. -/
def unwrapped : Laid → Laid
  | .mk (.node (.expr .block) trees) [.mk brackets [single] look] wholeLook =>
    if isAnyExpr single then unwrapped single
    else .mk (.node (.expr .block) trees) [.mk brackets [single] look] wholeLook
  | body => body

/-- A body that may get brackets around it if it is too long for the line. -/
def bracedIfLong (behind : String) (between : String) (body : List Piece) (tree : Tree) :
    List Piece :=
  let takesBraces := tree.beginsStatement
  consistent indent
    ([brk { Break.ofBlank 0 with ending := if takesBraces then "\x7b" else "(" }] ++ body ++
      [brk { Break.ofBlank 0 with
        offset := -indent
        ending := if takesBraces && tree.isAction then ";" else ""
        beginning := if takesBraces then "\x7d" else ")" ++ behind
        between }])

/-- The body of an arm. -/
def armBody (body : Laid) : List Piece :=
  let body := unwrapped body
  match body.tree with
  | .node (.expr .tuple) [.group .paren []] => linesInBraces []
  | .node (.expr .block) _ =>
    joinedBy (fun part =>
      if part.isGroup then linesInBraces (blockLines part)
      else if part.isA .label then part.plain else []) body.parts
  | tree =>
    [never] ++ bracedIfLong "," (if tree.endsItself then "" else ",") (body.look .lineStart) tree

/-- An arm of a match. -/
def arm (parts : List Laid) : List Piece :=
  withAttributes (fun rest =>
    let (front, back) := rest.span (!·.isSymbol "=>")
    let front := joinedBy (fun part => if part.isWord then [text " if "] else part.plain) front
    inconsistent 0 (front ++ [text " => "] ++ joinedBy armBody (back.filter isAnyExpr))) parts

/-- A match over its arms. -/
def matching (parts : List Laid) : List Piece :=
  let arms (list : Laid) := withAttributes (fun arms =>
    arms.flatMap fun arm => arm.plain ++ [hard]) list.parts
  inconsistent 0 ([text "match "] ++ joinedBy (fun part =>
    if part.isGroup then linesInBraces (arms part) else conditionBeforeBrace part)
    (parts.filter (!·.isWord)))

/-! ## Closures -/

/-- The body of a closure without a result type. -/
def closureBody (body : Laid) : List Piece :=
  let isWhole := if body.isExpr [.matching, .call] then !hasAttributes body else isBlockLike body
  if isWhole then body.plain else bracedIfLong "" "" body.plain body.tree

/-- A closure. -/
def closure (parts : List Laid) : List Piece :=
  let (front, back) := parts.span (!·.isSymbol "|")
  let (inputs, back) := (back.drop 1).span (!·.isSymbol "|")
  let arguments := (inputs.filter (!·.isSymbol ",")).map Laid.plain
  let items := if arguments.isEmpty then [] else zero :: plusItems [] [text ",", space] arguments
  let (results, bodies) := (back.drop 1).partition (·.isA .result)
  if results.isEmpty then
    inconsistent 0 (spaced front ++
      consistent indent (outdent ([text "|"] ++ items ++ [text "|", space])) ++ [never] ++
      joinedBy closureBody bodies)
  else
    let edge := if arguments.isEmpty then [] else outdent [comma]
    inconsistent 0 (spaced front ++
      consistent indent ([text "|"] ++ items ++ edge ++ [text "|"]) ++
      joined results ++ [text " ", never] ++ joined bodies)

/-! ## Blocks -/

/-- A block behind the words that introduce it. -/
def blockExpr (place : Place) (parts : List Laid) : List Piece :=
  joinedBy (fun part =>
    if part.isGroup then
      if place = .otherwise then smallBlock part else consistent indent (smallBlock part)
    else if part.isWord then part.plain ++ [text " "]
    else part.plain) parts

/-! ## All expressions -/

/-- An expression by its kind, without its attributes. -/
def exprRest (kind : ExprKind) (place : Place) (parts : List Laid) : List Piece :=
  match kind with
  | .array => joinedBy array parts
  | .assign => inconsistent 0 (assignment Laid.plain parts)
  | .asyncBlock => blockExpr place parts
  | .binary => binary parts
  | .block => blockExpr place parts
  | .cast => binary parts
  | .closure => closure parts
  | .conditional => conditional place parts
  | .constBlock => blockExpr place parts
  | .forLoop => forLoop parts
  | .letting => inconsistent 0 (assignment (fun part =>
      if part.isWord then [text "let "] else inconsistent 0 part.plain) parts)
  | .loop => endlessLoop parts
  | .matching => matching parts
  | .path => joinedBy (·.look .value) parts
  | .record => record parts
  | .repetition => joinedBy divided parts
  | .tryBlock => blockExpr place parts
  | .tuple => joinedBy (fun list => tuple true (list.members.map Laid.plain)) parts
  | .unsafeBlock => blockExpr place parts
  | .whileLoop => whileLoop parts
  | _ => row [] parts

/-- An expression by its kind. -/
def expr (kind : ExprKind) (place : Place) (parts : List Laid) : List Piece :=
  match kind with
  | .await => link false place parts
  | .field => link false place parts
  | .methodCall => link true place parts
  | .call => suffixed callArguments place parts
  | .index => suffixed Laid.plain place parts
  | .tryOperator => suffixed Laid.plain place parts
  | kind => withAttributes (exprRest kind place) parts

end FluentGen.Layout
