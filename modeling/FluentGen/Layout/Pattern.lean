import FluentGen.Layout.Attribute
import FluentGen.Layout.Path

/-!
# The layout of patterns

How patterns are laid out.
-/

namespace FluentGen.Layout

open Piece

/-- Alternatives; they share lines only if all of them are short by nature. -/
def alternatives (parts : List Laid) : List Piece :=
  let cases := parts.filter (!·.isSymbol "|")
  let isShort (case : Laid) := case.isA (.pattern .literal) || case.isA (.pattern .wildcard)
  boxed (if cases.all isShort then .inconsistent else .consistent) 0
    (plusItems [] [space, text "| "] (cases.map Laid.plain))

/-- Fields in braces behind a path; what stands for all others comes last. -/
def recordFields (list : Laid) (isRest : Laid → Bool) (rest : List Piece) : List Piece :=
  let fields := (list.members.filter (!isRest ·)).map Laid.plain
  let items := if rest.isEmpty then spacedItems fields
    else fields.flatMap fun field => field ++ [text ",", space]
  [text " \x7b", spaceIfMore] ++ items ++ rest

/-- The pattern of a structure. -/
def recordPattern (parts : List Laid) : List Piece :=
  let isRest (part : Laid) := part.isA (.pattern .rest)
  let inside := joinedBy (fun part =>
    if part.isGroup then
      let rest := match part.members.find? isRest with
        | some rest => rest.plain ++ [space]
        | none => []
      recordFields part isRest rest
    else part.look .value) parts
  consistent indent (outdent inside) ++ [text "\x7d"]

/-- The pattern of a structure whose fields have numbers. -/
def tupleRecordPattern (parts : List Laid) : List Piece :=
  joinedBy (fun part =>
    if part.isGroup then [text "("] ++ commaBox (part.members.map Laid.plain) ++ [text ")"]
    else part.look .value) parts

/-- The pattern of a slice, which never breaks by itself. -/
def slicePattern (list : Laid) : List Piece :=
  [text "["] ++ commaItems (list.members.map Laid.plain) ++ [text "]"]

/-- A pattern by its kind, without its attributes. -/
def patternRest (kind : PatternKind) (parts : List Laid) : List Piece :=
  match kind with
  | .alternatives => alternatives parts
  | .binding => row [("@", " @ ")] parts
  | .path => joinedBy (·.look .value) parts
  | .record => recordPattern parts
  | .reference => row [] parts
  | .slice => joinedBy slicePattern parts
  | .tuple => joinedBy (fun list =>
      tuple list.endsWithSeparator (list.members.map Laid.plain)) parts
  | .tupleRecord => tupleRecordPattern parts
  | _ => row [] parts

/-- A pattern by its kind. -/
def pattern (kind : PatternKind) (parts : List Laid) : List Piece :=
  withAttributes (patternRest kind) parts

/-- A field in the pattern of a structure. -/
def fieldPattern (parts : List Laid) : List Piece :=
  row [(":", ": ")] parts

end FluentGen.Layout
