import FluentGen.Layout.Expr
import FluentGen.Layout.Item

/-!
# The layout of syntax trees

A syntax tree is laid out from its leaves up: each node joins the layouts of its parts as its kind
demands. What is only kept as text has no layout, so a file with such a part has none either.
-/

namespace FluentGen.Layout

open Piece

/-- A node by its kind and its place. -/
def assemble (kind : Kind) (parts : List Laid) (place : Place) : List Piece :=
  match kind with
  | .type kind => type kind parts
  | .expr .constBlock => withAttributes (blockExpr place) parts
  | .expr kind => expr kind place parts
  | .pattern .constBlock => withAttributes (blockExpr place) parts
  | .pattern kind => pattern kind parts
  | .item kind => item kind parts
  | .path => path place parts
  | .segment => segment place parts
  | .qualifier => qualifier parts
  | .angled => angled parts
  | .parameters => parameters parts
  | .lifetimeEntry => lifetimeEntry parts
  | .binding => binding parts
  | .constraint => constraint parts
  | .typeParam => typeParam parts
  | .constParam => constParam parts
  | .callSignature => callSignature parts
  | .binder => binder parts
  | .bound => bound parts
  | .capture => capture parts
  | .argument => argument parts
  | .result => result parts
  | .convention => convention parts
  | .condition => condition parts
  | .attribute => annotation parts
  | .setting => setting parts
  | .visibility degree => visibility degree parts
  | .field => field parts
  | .variant => variant parts
  | .parameter => argument parts
  | .receiver => receiver parts
  | .fieldPattern => fieldPattern parts
  | .macroCall => macroCall parts
  | .statement => statement parts
  | .letStatement => letStatement parts
  | .macroStatement => macroStatement place parts
  | .arm => arm parts
  | .fieldValue => fieldValue parts
  | .label => row [(":", ": ")] parts
  | .useTree => useTree parts
  | _ => joined parts

mutual

/-- A tree that is laid out. -/
def lay : Tree → Laid
  | .word name => .leaf (.word name) name.spelling
  | .symbol sign => .leaf (.symbol sign) sign
  | .lifetime name => .leaf (.lifetime name) ("'" ++ name.spelling)
  | .literal words => .leaf (.literal words) words
  | .verbatim tokens => .leaf (.verbatim tokens) (Token.text tokens)
  | .group delimiter parts =>
    let laid := layAll parts
    .mk (.group delimiter parts) laid fun _ =>
      [text delimiter.opening] ++ joined laid ++ [text delimiter.closing]
  | .node kind parts =>
    let laid := layAll parts
    .mk (.node kind parts) laid (assemble kind laid)

/-- Trees that are laid out. -/
def layAll : List Tree → List Laid
  | [] => []
  | tree :: rest => lay tree :: layAll rest

end

/-- A part of a tree that has no layout, since it is only kept as text. -/
structure Unprintable where
  kind : Kind
  tokens : List Token
deriving DecidableEq

/-- The name of a kind of nodes that are only kept as text. -/
def textLabel : Kind → String
  | .type _ => "Type"
  | .expr _ => "Expr"
  | .pattern _ => "Pat"
  | .item (.verbatim .foreignBlock) => "ForeignItem"
  | .item (.verbatim .traitBody) => "TraitItem"
  | .item (.verbatim .implBody) => "ImplItem"
  | .item _ => "Item"
  | _ => "TypeParamBound"

/-- Why a part cannot be laid out. -/
def Unprintable.message (part : Unprintable) : String :=
  s!"not implemented: {textLabel part.kind}::Verbatim `{Token.text part.tokens}`"

mutual

/-- The first part of a tree that is only kept as text. -/
def unprintable? : Tree → Option Unprintable
  | .node kind parts =>
    if kind.isText then some ⟨kind, Tree.tokensAll parts⟩ else unprintableAmong? parts
  | .group _ parts => unprintableAmong? parts
  | _ => none

/-- The first part of some trees that is only kept as text. -/
def unprintableAmong? : List Tree → Option Unprintable
  | [] => none
  | tree :: rest => (unprintable? tree).or (unprintableAmong? rest)

end

/-- The text of a file with the given items, laid out. -/
def fileText (items : List Tree) : Except Unprintable String :=
  match unprintableAmong? items with
  | some part => .error part
  | none => .ok (render (consistent 0 (joined (layAll items))))

end FluentGen.Layout
