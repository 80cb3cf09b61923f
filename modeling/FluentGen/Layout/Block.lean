import FluentGen.Layout.Attribute
import FluentGen.Syntax.Ending

/-!
# The layout of statements and blocks

How statements are laid out, each of which ends its line, and how they stand in braces.
-/

namespace FluentGen.Layout

open Piece

/-- Whether a tree is an expression. -/
def isAnyExpr (laid : Laid) : Bool :=
  match laid.tree with
  | .node (.expr _) _ => true
  | _ => false

/-- A semicolon behind an expression that is only evaluated for what it does. -/
def dueSemicolon (expression : Laid) : List Piece :=
  if expression.tree.isAction then [text ";"] else []

/-- Something that stands as a statement; an expression without a semicolon may get one. -/
def statementLine (isLast : Bool) (part : Laid) : List Piece :=
  match part.tree with
  | .symbol _ => []
  | .node (.expr _) _ =>
    inconsistent 0 (part.look .lineStart ++ dueSemicolon part) ++ [hard]
  | _ => part.look (if isLast then .last else .inside)

/-- Statements on lines of their own. -/
def statementLines : List Laid → List Piece
  | [] => []
  | part :: rest => statementLine rest.isEmpty part ++ statementLines rest

/-- The attributes and the statements inside braces. -/
def blockLines (block : Laid) : List Piece :=
  withAttributes statementLines block.parts

/-- A block that stands on one line if there is room and nothing in it ends the line. -/
def smallBlock (block : Laid) : List Piece :=
  let lines (statements : List Laid) : List Piece :=
    match statements with
    | [single] =>
      if isAnyExpr single then inconsistent 0 (single.look .lineStart) ++ [space]
      else statementLine true single
    | statements => statementLines statements
  let inside := if block.parts.isEmpty then []
    else outdent (space :: withAttributes lines block.parts)
  [text "\x7b"] ++ inside ++ [text "\x7d"]

/-- Braces with lines inside, in a box of their own. -/
def linesInBraces (lines : List Piece) : List Piece :=
  [text "\x7b", never] ++ consistent indent (outdent (hardIfMore :: lines)) ++ [text "\x7d"]

/-! ## Statements -/

/-- An expression with a semicolon. -/
def statement (parts : List Laid) : List Piece :=
  let isIdle := parts.any fun part => isAnyExpr part && part.tree.isIdle
  inconsistent 0 (joinedBy (fun part =>
    if part.isSymbol ";" then (if isIdle then [] else [text ";"])
    else part.look .lineStart) parts) ++ [hard]

/-- A declaration of a variable. -/
def letStatement (parts : List Laid) : List Piece :=
  withAttributes (fun rest =>
    let (front, back) := rest.span fun part => !part.isTheWord "else" && !part.isSymbol ";"
    let declaration := joinedBy (fun part => match part.tree with
      | .word _ => [text "let "]
      | .symbol "=" => [text " = ", never]
      | .symbol _ => [text ": "]
      | _ => part.plain) front
    match back.filter Laid.isGroup with
    | [] => inconsistent 0 declaration ++ [text ";", hard]
    | blocks => inconsistent 0 (declaration ++ [space, text "else "]) ++ [never] ++
        consistent indent (joinedBy smallBlock blocks) ++ [text ";", hard]) parts

/-- Whether a macro call is in braces. -/
def isBracedCall (parts : List Laid) : Bool :=
  parts.any fun part => part.isA .macroCall && part.tree.isBraced

/-- A macro call as a statement; the last one in a block may stand without a semicolon. -/
def macroStatement (place : Place) (parts : List Laid) : List Piece :=
  let hasSemicolon := parts.any (·.isSymbol ";")
  let needsSemicolon := !isBracedCall parts && (hasSemicolon || place ≠ .last)
  joined (parts.filter (!·.isSymbol ";")) ++ (if needsSemicolon then [text ";"] else []) ++ [hard]

end FluentGen.Layout
