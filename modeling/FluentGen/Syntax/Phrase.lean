import FluentGen.Syntax.Ending
import FluentGen.Syntax.Reader

/-!
# Phrases

The phrases of the grammar that contain one another. The rules of the grammar are functions of a
reader of phrases, so each rule stands by itself, and the circle is closed in one place.
-/

namespace FluentGen

/-- How tightly an operator binds, loosest first. -/
inductive Precedence where
  | lowest
  | assign
  | range
  | or
  | and
  | letting
  | compare
  | bitOr
  | bitXor
  | bitAnd
  | shift
  | sum
  | product
  | cast
deriving DecidableEq

/-- The place of a precedence, from the loosest up. -/
def Precedence.rank : Precedence → Nat
  | lowest => 0
  | assign => 1
  | range => 2
  | or => 3
  | and => 4
  | letting => 5
  | compare => 6
  | bitOr => 7
  | bitXor => 8
  | bitAnd => 9
  | shift => 10
  | sum => 11
  | product => 12
  | cast => 13

/-- A phrase that other phrases are made of. -/
inductive Phrase where
  /-- A type; `plus` says whether it may be a sum of bounds without brackets. -/
  | type (plus : Bool)
  /--
  A bound. `captures` says whether captured parameters may be listed, `consts` whether a trait may
  be marked as constant.
  -/
  | bound (captures consts : Bool)
  /-- An expression; `braces` says whether a path in it may go on with a braced structure. -/
  | expr (braces : Bool)
  /-- An expression up to its first operator. -/
  | operand (braces : Bool)
  /-- What the operators that bind at least so tightly make of the expression on their left. -/
  | operators (braces : Bool) (floor : Precedence) (left : Tree)
  /-- What tighter operators make of an operand on the right of an operator. -/
  | rightSide (braces : Bool) (floor : Precedence) (right : Tree)
  /-- What calls, fields, indices and question marks make of an expression. -/
  | postfixes (left : Tree)
  /-- An expression that stands as a statement or as the body of a match arm. -/
  | statementExpr
  /-- A pattern without alternatives. -/
  | pattern
  /-- The statements inside braces. -/
  | statements
  /-- A conditional from its first word on. -/
  | conditional
  | item
  | foreignItem
  | traitItem
  | implItem
  /-- A tree of imports; `fromRoot` says whether it may begin with `::` inside braces. -/
  | useTree (fromRoot : Bool)

/-- A reader for every phrase. -/
abbrev Grammar : Type :=
  Phrase → Reader

end FluentGen
