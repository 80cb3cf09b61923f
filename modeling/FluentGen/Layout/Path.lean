import FluentGen.Layout.Laid

/-!
# Paths, generic parameters and bounds

How names with their generic arguments are laid out, and what declarations demand of types.
-/

namespace FluentGen.Layout

open Piece

/-! ## Paths -/

/-- The entries between angle brackets, lifetimes first. -/
def entries (parts : List Laid) : List (List Piece) :=
  let members := (parts.filter (·.isA .entries)).flatMap Laid.members
  let (first, second) := members.partition (·.isA .lifetimeEntry)
  (first ++ second).map Laid.plain

/-- Generic arguments; nothing is left of empty brackets. -/
def angled (parts : List Laid) : List Piece :=
  match entries parts with
  | [] => []
  | found => [text "<"] ++ commaBox found ++ [text ">"]

/-- A path segment; only in a value do two colons stand before its arguments. -/
def segment (place : Place) (parts : List Laid) : List Piece :=
  joinedBy (fun part => match part.tree with
    | .symbol _ => []
    | .node .angled _ =>
      match part.plain with
      | [] => []
      | found => (if place = .value then [text "::"] else []) ++ found
    | _ => part.plain) parts

/-- A path. -/
def path (place : Place) (parts : List Laid) : List Piece :=
  joinedBy (·.look place) parts

/-- The part in angle brackets that begins a qualified path. -/
def qualifier (parts : List Laid) : List Piece :=
  joinedBy (fun part => if part.isWord then [text " as "] else part.plain) parts

/-- The argument list in parentheses of a trait, with its result. -/
def callSignature (parts : List Laid) : List Piece :=
  let (list, result) := parts.partition Laid.isGroup
  let items := list.flatMap fun list => list.members.map Laid.plain
  consistent indent ([text "("] ++ outdent (zero :: commaItems items) ++ [text ")"] ++
    joined result)

/-! ## Bounds -/

/-- Things that may be demanded together, with a plus sign before each but the first. -/
def plusItems (front : List Piece) (between : List Piece) : List (List Piece) → List Piece
  | [] => []
  | first :: rest => front ++ first ++ rest.flatMap fun bound => between ++ bound

/-- The bounds among some parts. -/
def boundsAmong (parts : List Laid) : List (List Piece) :=
  (parts.filter fun part => match part.tree with
    | .symbol _ => false
    | .word _ => false
    | _ => true).map Laid.plain

/-- Bounds behind a colon that may stand on lines of their own. -/
def looseBounds (bounds : List (List Piece)) : List Piece :=
  plusItems [text ": "] [space, text "+ "] bounds

/-- Bounds behind a colon on one line. -/
def tightBounds (bounds : List (List Piece)) : List Piece :=
  plusItems [text ": "] [text " + "] bounds

/-- A bound, possibly in parentheses. -/
def bound (parts : List Laid) : List Piece :=
  spaced parts

/-- The captured parameters of an `impl` type. -/
def capture (parts : List Laid) : List Piece :=
  joinedBy (fun part => if part.isA .entries then
    separatedBy ", " (part.members.map Laid.plain) else part.plain) parts

/-! ## Parameters -/

/-- A lifetime as a generic parameter or argument. -/
def lifetimeEntry (parts : List Laid) : List Piece :=
  joinedBy (fun part => if part.isA .bounds then tightBounds (boundsAmong part.parts)
    else part.plain) parts

/-- A generic parameter that is a type. -/
def typeParam (parts : List Laid) : List Piece :=
  withAttributes (fun rest =>
    let (name, rest) := rest.span Laid.isWord
    joined name ++ inconsistent indent (joinedBy (fun part => match part.tree with
      | .symbol _ => [space, text "= "]
      | .node .bounds _ => looseBounds (boundsAmong part.parts)
      | _ => part.plain) rest)) parts

/-- A generic parameter that is a constant. -/
def constParam (parts : List Laid) : List Piece :=
  row [(":", ": "), ("=", " = ")] parts

/-- A generic argument that gives an associated type or constant. -/
def binding (parts : List Laid) : List Piece :=
  joinedBy (fun part => match part.tree with
    | .symbol "=" => [text " = "]
    | .symbol _ => []
    | _ => part.plain) parts

/-- A generic argument that bounds an associated type. -/
def constraint (parts : List Laid) : List Piece :=
  let (name, bounds) := parts.span (!·.isSymbol ":")
  segment .inside name ++ inconsistent indent (looseBounds (boundsAmong bounds))

/-- The parameters that something is quantified over. -/
def binder (parts : List Laid) : List Piece :=
  let parameters := parts.filter fun part => part.tree.kind?.isSome
  [text "for<"] ++ separatedBy ", " (parameters.map Laid.plain) ++ [text "> "]

/-- The generic parameters of a declaration, if there are any. -/
def parameters (parts : List Laid) : List Piece :=
  match entries parts with
  | [] => []
  | found => [text "<"] ++ consistent 0 (outdent (zero :: commaItems found)) ++ [text ">"]

/-! ## Conditions -/

/-- A condition on generic parameters. -/
def condition (parts : List Laid) : List Piece :=
  let (front, bounds) := parts.span (!·.isSymbol ":")
  let found := boundsAmong bounds
  joined front ++ [text ":"] ++
    inconsistent (if found.length = 1 then 0 else indent)
      (plusItems [text " "] [space, text "+ "] found)

/-- The conditions in a clause. -/
def conditionsAmong (parts : List Laid) : List (List Piece) :=
  (parts.filter (·.isA .conditions)).flatMap fun clause =>
    (clause.parts.filter (·.isA .condition)).map Laid.plain

/-- Conditions on lines of their own, up to the brace of a body. -/
def conditionsOfBody (parts : List Laid) : List Piece :=
  match conditionsAmong parts with
  | [] => [text " "]
  | found => outdent [hard] ++ [text "where"] ++
      outdent (hard :: found.flatMap fun condition => condition ++ [text ",", hard])

/-- Conditions on lines of their own, up to a semicolon. -/
def conditionsToEnd (parts : List Laid) : List Piece :=
  let rec lines : List (List Piece) → List Piece
    | [] => [text ";"]
    | [last] => last ++ [text ";"]
    | first :: rest => first ++ [text ",", hard] ++ lines rest
  match conditionsAmong parts with
  | [] => [text ";"]
  | found => outdent [hard] ++ [text "where", hard] ++ lines found

/-- Conditions that may stand on one line, up to the value of an alias. -/
def conditionsOfValue (parts : List Laid) : List Piece :=
  match conditionsAmong parts with
  | [] => [text " "]
  | found => outdent [space] ++ [text "where"] ++ outdent (space :: spacedItems found)

/-- Conditions that may stand on one line, up to a semicolon. -/
def conditionsOnLine (parts : List Laid) : List Piece :=
  let rec items : List (List Piece) → List Piece
    | [] => [text ";"]
    | [last] => last ++ [text ";"]
    | first :: rest => first ++ [text ",", space] ++ items rest
  match conditionsAmong parts with
  | [] => [text ";"]
  | found => outdent [space] ++ [text "where", space] ++ items found

end FluentGen.Layout
