import FluentGen.Layout.Document
import FluentGen.Syntax.Tree

/-!
# Trees that are laid out

A syntax tree is laid out from its leaves up. A tree that is laid out knows its parts and how it
looks in every place, so the node above can join the looks of its parts or take them apart.
-/

namespace FluentGen.Layout

open Piece

/-- What the surroundings of a tree ask of its layout. -/
inductive Place where
  /-- Nothing special. -/
  | inside
  /-- The tree stands for a value, so that generic arguments in it need two colons. -/
  | value
  /-- The tree begins a line. -/
  | lineStart
  /-- The tree begins a chain of fields and calls, which may begin a line. -/
  | link (lineStart : Bool)
  /-- The tree is the last one in a block. -/
  | last
  /-- The tree is what a conditional does if its condition does not hold. -/
  | otherwise
deriving DecidableEq

/-- Whether a place is at the beginning of a line. -/
def Place.beginsLine : Place → Bool
  | lineStart => true
  | link begins => begins
  | _ => false

/-- A tree that is laid out. -/
inductive Laid where
  | mk (tree : Tree) (parts : List Laid) (look : Place → List Piece)

namespace Laid

/-- The tree itself. -/
def tree : Laid → Tree
  | mk tree _ _ => tree

/-- The parts of the tree. -/
def parts : Laid → List Laid
  | mk _ parts _ => parts

/-- How the tree looks in a place. -/
def look : Laid → Place → List Piece
  | mk _ _ look => look

/-- How the tree looks where nothing special is asked of it. -/
def plain (laid : Laid) : List Piece :=
  laid.look .inside

/-- A leaf, which looks the same everywhere. -/
def leaf (tree : Tree) (words : String) : Laid :=
  mk tree [] fun _ => [text words]

/-- Whether the tree is a node of the given kind. -/
def isA (kind : Kind) (laid : Laid) : Bool :=
  laid.tree.isA kind

/-- Whether the tree is a word. -/
def isWord (laid : Laid) : Bool :=
  match laid.tree with
  | .word _ => true
  | _ => false

/-- Whether the tree is the given word. -/
def isTheWord (spelling : String) (laid : Laid) : Bool :=
  laid.tree = .word (.plain spelling)

/-- Whether the tree is the given symbol. -/
def isSymbol (sign : String) (laid : Laid) : Bool :=
  laid.tree = .symbol sign

/-- Whether the tree is a comma, or a plus sign between bounds. -/
def isSeparator (laid : Laid) : Bool :=
  laid.isSymbol "," || laid.isSymbol "+"

/-- Whether the tree is a bracketed part. -/
def isGroup (laid : Laid) : Bool :=
  match laid.tree with
  | .group .. => true
  | _ => false

/-- Whether the tree is an expression of one of the given kinds. -/
def isExpr (kinds : List ExprKind) (laid : Laid) : Bool :=
  match laid.tree with
  | .node (.expr kind) _ => kind ∈ kinds
  | _ => false

/-- The parts of a list without its separators. -/
def members (laid : Laid) : List Laid :=
  laid.parts.filter (!·.isSeparator)

/-- Whether a list ends with a separator. -/
def endsWithSeparator (laid : Laid) : Bool :=
  laid.parts.getLast?.any isSeparator

end Laid

/-! ## Rows -/

/-- The looks of parts, one after another. -/
def joined (parts : List Laid) : List Piece :=
  parts.flatMap Laid.plain

/-- Lays parts out one after another, each in a way of its own. -/
def joinedBy (look : Laid → List Piece) (parts : List Laid) : List Piece :=
  parts.flatMap look

/-- Parts one after another, with a space behind every word. -/
def spaced (parts : List Laid) : List Piece :=
  joinedBy (fun part => if part.isWord then part.plain ++ [text " "] else part.plain) parts

/-- Whether a space stands between a word or a lifetime and the part after it. -/
def isApart (part next : Laid) : Bool :=
  let isName := match part.tree with
    | .word _ => true
    | .lifetime _ => true
    | _ => false
  isName && match next.tree with
    | .symbol _ => false
    | .group .. => false
    | .node kind _ =>
      kind ∉ [.parameters, .bounds, .conditions, .angled, .namedFields, .tupleFields]
    | _ => true

/--
Parts one after another, with spaces between words. Some signs are written with spaces around
them, as the list says.
-/
def row (signs : List (String × String)) : List Laid → List Piece
  | [] => []
  | part :: rest =>
    let look := match part.tree with
      | .symbol sign => [text ((signs.lookup sign).getD sign)]
      | _ => part.plain
    let gap := if rest.head?.any (isApart part) then [text " "] else []
    look ++ gap ++ row signs rest

/-- Things with a text between them. -/
def separatedBy (separator : String) : List (List Piece) → List Piece
  | [] => []
  | [last] => last
  | item :: rest => item ++ text separator :: separatedBy separator rest

/-- The attributes at the front of parts, and all that follows. -/
def splitAttributes (parts : List Laid) : List Laid × List Laid :=
  parts.span (·.isA .attribute)

/-- Lays out parts with their attributes in front. -/
def withAttributes (look : List Laid → List Piece) (parts : List Laid) : List Piece :=
  let (attributes, rest) := splitAttributes parts
  joined attributes ++ look rest

/-! ## Lists -/

/-- Items with commas; the comma after the last one only stands at the end of a line. -/
def commaItems : List (List Piece) → List Piece
  | [] => []
  | [last] => last ++ [comma]
  | item :: rest => item ++ [text ",", space] ++ commaItems rest

/-- Items with commas between spaces; the last comma only stands at the end of a line. -/
def spacedItems : List (List Piece) → List Piece
  | [] => []
  | [last] => last ++ [commaOrSpace]
  | item :: rest => item ++ [text ",", space] ++ spacedItems rest

/-- A box for the inside of brackets, which ends where the brackets begin. -/
def inset (pieces : List Piece) : List Piece :=
  consistent indent (outdent pieces)

/-- Items with commas inside brackets. -/
def commaBox (items : List (List Piece)) : List Piece :=
  inset (zero :: commaItems items)

/-- Items with commas in parentheses; a single item keeps its comma if there is one. -/
def tuple (keepsComma : Bool) : List (List Piece) → List Piece
  | [single] =>
    let edge := if keepsComma then [text ",", zero] else [zero]
    [text "("] ++ inset (zero :: single ++ edge) ++ [text ")"]
  | items => [text "("] ++ commaBox items ++ [text ")"]

end FluentGen.Layout
