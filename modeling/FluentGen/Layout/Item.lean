import FluentGen.Layout.Block
import FluentGen.Layout.Type

/-!
# The layout of declarations

How declarations are laid out, each of which ends its line. What stands in the braces of one has
lines of its own.
-/

namespace FluentGen.Layout

open Piece

/-! ## Visibilities and fields -/

/-- Whether the path in a restricted visibility stands without a word before it. -/
def isPlainRestriction (path : Tree) : Bool :=
  ["self", "super", "crate"].contains path.text

/-- A visibility with the space after it. -/
def visibility (degree : Visibility) (parts : List Laid) : List Piece :=
  match degree with
  | .inherited => []
  | .exported => [text "pub "]
  | .restricted =>
    let paths := (parts.flatMap Laid.parts).filter (·.isA .path)
    let mark := if paths.any fun path => isPlainRestriction path.tree then "" else "in "
    [text ("pub(" ++ mark)] ++ joined paths ++ [text ") "]

/-- A field of a structure. -/
def field (parts : List Laid) : List Piece :=
  row [(":", ": ")] parts

/-- Fields with numbers, for a box that has already begun. -/
def numberedFields (parts : List Laid) : List Piece :=
  joinedBy (fun list => [text "("] ++
    outdent (zero :: commaItems (list.members.map Laid.plain)) ++ [text ")"]) parts

/-- A variant of an enumeration. -/
def variant (parts : List Laid) : List Piece :=
  joinedBy (fun part => match part.tree with
    | .symbol _ => [text " = "]
    | .node .namedFields _ =>
      let fields := part.parts.flatMap Laid.members
      [text " ", text "\x7b"] ++
        consistent indent (outdent (space :: spacedItems (fields.map Laid.plain))) ++
        [text "\x7d"]
    | .node .tupleFields _ => consistent indent (numberedFields part.parts)
    | _ => part.plain) parts

/-! ## Heads and bodies -/

/-- Whether a part belongs to the head of a declaration: all up to its value or body. -/
def isHead (part : Laid) : Bool :=
  match part.tree with
  | .group .. => false
  | .symbol _ => false
  | .node kind _ => kind ∉ [.namedFields, .tupleFields, .bounds, .conditions]
  | _ => true

/-- The words in front of a declaration, its name and its generic parameters. -/
def head (parts : List Laid) : List Piece :=
  row [] (parts.takeWhile isHead)

/-- A declaration after its attributes, which ends its line. -/
def declaration (look : List Laid → List Piece) (parts : List Laid) : List Piece :=
  withAttributes look parts ++ [hard]

/-- Lines in braces behind the beginning of a declaration, all in one box. -/
def withBody (front : List Piece) (lines : List Piece) : List Piece :=
  consistent indent (outdent (front ++ [text "\x7b", hardIfMore] ++ lines)) ++ [text "\x7d"]

/-- Lines that end with a comma. -/
def commaLines (members : List Laid) : List Piece :=
  members.flatMap fun member => member.plain ++ [text ",", hard]

/-- The members of a list in braces, which is the last part of a declaration. -/
def bodyMembers (parts : List Laid) : List Laid :=
  let lists := parts.filter fun part => part.isGroup || part.isA .namedFields
  lists.flatMap fun part => if part.isGroup then part.members else part.parts.flatMap Laid.members

/-! ## Data -/

/-- A structure. -/
def dataStructure (parts : List Laid) : List Piece :=
  match parts.filter (·.isA .tupleFields), parts.any (·.isA .namedFields) with
  | [], true => withBody (head parts ++ conditionsOfBody parts) (commaLines (bodyMembers parts))
  | [], false => consistent indent (head parts ++ conditionsToEnd parts)
  | fields, _ => consistent indent (head parts ++ numberedFields (fields.flatMap Laid.parts) ++
      conditionsToEnd parts)

/-- An enumeration or a union. -/
def listing (parts : List Laid) : List Piece :=
  withBody (head parts ++ conditionsOfBody parts) (commaLines (bodyMembers parts))

/-- A constant or a variable of the whole program. -/
def value (parts : List Laid) : List Piece :=
  let (front, back) := parts.span isHead
  consistent 0 (row [] front ++ joinedBy (fun part => match part.tree with
    | .symbol ":" => [text ": "]
    | .symbol "=" => [text " = ", never]
    | _ => part.plain) back)

/-! ## Functions -/

/-- The argument through which a method gets its object. -/
def receiver (parts : List Laid) : List Piece :=
  row [(":", ": ")] parts

/-- A function. -/
def function (parts : List Laid) : List Piece :=
  let (front, back) := parts.span isHead
  let lists := back.filter fun part => part.tree matches .group .paren _
  let bodies := back.filter fun part => part.tree matches .group .brace _
  let signature := row [] front ++ [text "(", never] ++
    joinedBy (fun list => consistent 0 (outdent (argumentItems list.members))) lists ++
    [text ")"] ++ consistent (-indent) (joined (back.filter (·.isA .result)))
  match bodies with
  | [] => consistent indent (signature ++ conditionsToEnd back)
  | bodies => withBody (signature ++ conditionsOfBody back) (joinedBy blockLines bodies)

/-! ## Traits and `impl` blocks -/

/-- The lines in the braces of a declaration: its attributes and its members. -/
def memberLines (parts : List Laid) : List Piece :=
  joinedBy (fun list => joined list.parts) (parts.filter Laid.isGroup)

/-- The bounds behind the name of a declaration. -/
def declaredBounds (parts : List Laid) : List (List Piece) :=
  (parts.filter (·.isA .bounds)).flatMap fun bounds => boundsAmong bounds.parts

/-- A trait. -/
def trait (parts : List Laid) : List Piece :=
  withBody (head parts ++ tightBounds (declaredBounds parts) ++ conditionsOfBody parts)
    (memberLines parts)

/-- A name for a sum of bounds. -/
def traitAlias (parts : List Laid) : List Piece :=
  let (front, back) := parts.span (!·.isSymbol "=")
  let bounds := boundsAmong (back.filter (!·.isA .conditions))
  consistent indent (head front ++ [text " = ", never] ++
    plusItems [] [space, text "+ "] bounds ++ conditionsToEnd back)

/-- An `impl` block. -/
def implementation (ofTrait : Bool) (parts : List Laid) : List Piece :=
  let isFront (part : Laid) :=
    part.isWord || part.isA .parameters || part.isA (.visibility .inherited)
  let (front, back) := parts.span isFront
  let subject := back.filter fun part => !part.isGroup && !part.isA .conditions
  let (first, second) := subject.span (!·.isTheWord "for")
  let types := joined first ++
    if ofTrait then [space, text "for "] ++ joined (second.drop 1) else []
  withBody (inconsistent (-indent) (consistent indent (row [] front) ++ [text " "] ++ types) ++
    conditionsOfBody back) (memberLines back)

/-! ## Aliases -/

/-- The value of a type alias. -/
def aliased (parts : List Laid) : List Piece :=
  joinedBy (fun part => match part.tree with
    | .node (.type _) _ => [never] ++ inconsistent (-indent) part.plain
    | _ => []) parts

/-- A type alias; the conditions on its parameters stand before its value or after it. -/
def typeAlias (parts : List Laid) : List Piece :=
  let (front, back) := parts.span (!·.isSymbol "=")
  let name := head front ++ looseBounds (declaredBounds front)
  if front.any (·.isA .conditions) && !back.isEmpty then
    consistent indent (name ++ conditionsOfValue front ++ [text "= "] ++ aliased back ++
      [text ";"])
  else
    let value := if back.isEmpty then [] else [text " = "] ++ aliased back
    consistent indent (name ++ value ++ conditionsOnLine parts)

/-! ## Imports, modules and macros -/

mutual

/-- Whether a tree of imports ends with a list in braces. -/
def endsInBraces : Tree → Bool
  | .node .useTree parts => lastEndsInBraces parts
  | .group .. => true
  | _ => false

/-- Whether the last one of some trees of imports ends with a list in braces. -/
def lastEndsInBraces : List Tree → Bool
  | [] => false
  | [last] => endsInBraces last
  | _ :: rest => lastEndsInBraces rest

end

/-- The entries of a list of imports; a line ends behind an entry that ends with braces. -/
def importItems : List Laid → List Piece
  | [] => []
  | [last] => last.plain
  | entry :: rest =>
    entry.plain ++ [text ",", if endsInBraces entry.tree then hard else space] ++
      importItems rest

/-- A tree of imports. -/
def useTree (parts : List Laid) : List Piece :=
  match parts with
  | [.mk (.group ..) entries _] =>
    [text "\x7b"] ++
      inset (zero :: inconsistent 0 (importItems (entries.filter (!·.isSeparator))) ++ [comma]) ++
      [text "\x7d"]
  | parts => row [] parts

/-- A module, with its items or by its name alone. -/
def submodule (parts : List Laid) : List Piece :=
  if parts.any Laid.isGroup then withBody (head parts ++ [text " "]) (memberLines parts)
  else consistent indent (head parts ++ [text ";"])

/-- Whether a macro call gives rules to a macro, which are always laid out in braces. -/
def isRuledCall (part : Laid) : Bool :=
  part.isA .macroCall && (ruledMacro? (part.parts.map Laid.tree)).isSome

/-- A macro call as a declaration. -/
def macroItem (parts : List Laid) : List Piece :=
  joined (parts.filter (!·.isSymbol ";")) ++
    if isBracedCall parts || parts.any isRuledCall then [] else [text ";"]

/-- A declaration by its kind. -/
def item (kind : ItemKind) (parts : List Laid) : List Piece :=
  match kind with
  | .constant => declaration value parts
  | .crate => declaration (row []) parts
  | .enumeration => declaration listing parts
  | .foreignBlock => declaration (fun rest => withBody (spaced (rest.takeWhile isHead))
      (memberLines rest)) parts
  | .function => declaration function parts
  | .implementation ofTrait => declaration (implementation ofTrait) parts
  | .imports => declaration spaced parts
  | .macroCall => declaration macroItem parts
  | .module => declaration submodule parts
  | .static => declaration value parts
  | .record => declaration dataStructure parts
  | .trait => declaration trait parts
  | .traitAlias => declaration traitAlias parts
  | .typeAlias => declaration typeAlias parts
  | .union => declaration listing parts
  | .verbatim _ => declaration joined parts

end FluentGen.Layout
