import FluentGen.Syntax.Grammar.Statement

/-!
# The grammar

The rules of the grammar, each of which is given a reader for the phrases that it is made of, are
tied together here. A phrase inside a phrase takes one unit of depth, and a text of so many tokens
is read with enough depth for all of them.
-/

namespace FluentGen

/-- The rule for a phrase, given readers for the phrases inside it. -/
def Grammar.rule (read : Grammar) : Grammar
  | .type plus => Rules.type read plus
  | .bound captures consts => Rules.bound read captures consts
  | .expr braces =>
    (read (.operand braces)).bind fun operand =>
      match operand with
      | [operand] => read (.operators braces .lowest operand)
      | other => Reader.give other
  | .operand braces => Rules.operand read braces (Rules.atom read braces)
  | .operators braces floor left => Rules.operators read braces floor left
  | .rightSide braces floor right => Rules.rightSide read braces floor right
  | .postfixes left => Rules.postfixes read left
  | .statementExpr => Rules.statementExpr read
  | .pattern => Rules.pattern read
  | .statements => Rules.statements read
  | .conditional => Rules.conditional read
  | .item => Rules.item read
  | .foreignItem => Rules.foreignItem read
  | .traitItem => Rules.traitMember read
  | .implItem => Rules.implMember read
  | .useTree fromRoot => Rules.useTree read fromRoot

/-- The grammar for phrases that are nested at most so deep. -/
def Grammar.ofDepth : Nat → Grammar
  | 0 => fun _ => Reader.fail "nested too deep"
  | depth + 1 => (Grammar.ofDepth depth).rule

namespace Syntax

/-- Reads all tokens of a text by a rule of the grammar. -/
def readTokens (rule : Grammar → Reader) (tokens : List Token) : Except Fault (List Tree) :=
  (rule (Grammar.ofDepth (16 * (tokens.length + 1)))).readAll tokens

/-- Reads a whole text by a rule of the grammar. -/
def readText (rule : Grammar → Reader) (text : String) : Except Fault (List Tree) :=
  match Token.ofText? text with
  | some tokens => readTokens rule tokens
  | none => .error .unreadable

/-- Reads a text that is one type. -/
def readType (text : String) : Except Fault Tree := do
  let trees ← readText (fun grammar => grammar (.type true)) text
  pure (trees.headD (.verbatim []))

/-- Reads a text that is one word of any sort. -/
def readWord (text : String) : Except Fault Name := do
  let trees ← readText (fun _ => Reader.anyWord) text
  match trees with
  | [.word name] => pure name
  | _ => throw .leftover

/-- Reads a text that is a visibility. -/
def readVisibility (text : String) : Except Fault Tree := do
  let trees ← readText (fun _ => Rules.visibility) text
  pure (trees.headD .inherited)

/-- Reads a text of attributes of something that does not follow. -/
def readAttributes (text : String) : Except Fault (List Tree) :=
  readText Rules.outerAttributes text

/-- Reads a text that is one declaration of a structure, an enumeration or a union. -/
def readDeclaration (text : String) : Except Fault Tree := do
  let trees ← readText Rules.dataItem text
  pure (trees.headD (.verbatim []))

end Syntax

end FluentGen
