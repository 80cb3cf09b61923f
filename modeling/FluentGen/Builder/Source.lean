import FluentGen.Builder.Code
import FluentGen.Event
import FluentGen.Layout.Syntax
import FluentGen.Syntax.Grammar

/-!
# The source text of a builder

The code of a builder is laid out if it reads back as a file; otherwise its tokens are written on
one line. A comment in front of it says where it comes from. There is no source text if the code
reads back with parts that have no layout.
-/

namespace FluentGen.Builder

/-- The items that the code of a builder reads back as. -/
def items (builder : Builder) : Except Fault (List Tree) :=
  Syntax.readTokens Rules.file builder.code

/-- The comment in front of a builder. -/
def banner (builder : Builder) : String :=
  s!"// @generated by setter-builder from `{builder.qualifiedTarget}`. Do not edit.\n\n"

/-- The source text of a builder without the comment in front. -/
def body (builder : Builder) : Except Layout.Unprintable String :=
  match builder.items with
  | .ok items => Layout.fileText items
  | .error _ => .ok (Token.text builder.code ++ "\n")

/-- The source text of a builder, with or without the comment in front. -/
def source (builder : Builder) (header : Bool) : Except Layout.Unprintable String :=
  builder.body.map fun body => if header then builder.banner ++ body else body

/-- The events of writing the source text of a builder. -/
def sourceEvents (builder : Builder) : List Event :=
  match builder.items with
  | .ok _ => []
  | .error fault => [.unformatted builder.qualifiedTarget fault]

end FluentGen.Builder
