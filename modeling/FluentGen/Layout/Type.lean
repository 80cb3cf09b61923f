import FluentGen.Layout.Attribute
import FluentGen.Layout.Path

/-!
# The layout of types

How types are laid out. Only lists in brackets break, and the arguments of functions.
-/

namespace FluentGen.Layout

open Piece

/-- Whether an argument stands for any number of them. -/
def isVariadic (argument : Laid) : Bool :=
  argument.parts.any (·.isSymbol "...")

/-- The inside of an argument list, the last of which may stand for any number of them. -/
def argumentItems (members : List Laid) : List Piece :=
  match members.getLast? with
  | none => [zero]
  | some last =>
    if isVariadic last then
      zero :: members.dropLast.flatMap (fun argument => argument.plain ++ [text ",", space]) ++
        last.plain ++ [zero]
    else zero :: commaItems (members.map Laid.plain)

/-- An argument with its optional name. -/
def argument (parts : List Laid) : List Piece :=
  row [(":", ": "), (",", "")] parts

/-- The result of a function. -/
def result (parts : List Laid) : List Piece :=
  row [("->", " -> ")] parts

/-- The calling convention of a function, with the space behind it. -/
def convention (parts : List Laid) : List Piece :=
  joinedBy (fun part => part.plain ++ [text " "]) parts

/-- A function type. -/
def functionType (parts : List Laid) : List Piece :=
  joinedBy (fun part => match part.tree with
    | .word name => [text (if name.text = "fn" then "fn" else name.spelling ++ " ")]
    | .group .. => [text "("] ++ inset (argumentItems part.members) ++ [text ")"]
    | _ => part.plain) parts

/-- A type that is known by its bounds only, after its first word. -/
def boundedType (introduction : String) (parts : List Laid) : List Piece :=
  text introduction :: separatedBy " + " (boundsAmong parts)

/-- A list in brackets that is divided by a semicolon. -/
def divided (list : Laid) : List Piece :=
  [text "["] ++ row [(";", "; ")] list.parts ++ [text "]"]

/-- A type by its kind. -/
def type (kind : TypeKind) (parts : List Laid) : List Piece :=
  match kind with
  | .array => joinedBy divided parts
  | .bareFn => functionType parts
  | .implTrait => boundedType "impl " parts
  | .traitObject => boundedType "dyn " parts
  | .tuple => joinedBy (fun list => tuple true (list.members.map Laid.plain)) parts
  | .pointer => row [] parts
  | .reference => row [] parts
  | _ => joined parts

end FluentGen.Layout
