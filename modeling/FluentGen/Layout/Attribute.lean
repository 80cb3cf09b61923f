import FluentGen.Layout.Tokens
import FluentGen.Token.Literal

/-!
# Attributes and macro calls

How attributes are laid out: documentation becomes a comment again, everything else stands in
brackets. Macro calls are here too, since what is in their brackets has no structure either.
-/

namespace FluentGen.Layout

open Piece

/-! ## Comments -/

/-- Whether a text can stand in a comment that nests, with so many comments open. -/
def nests : Nat → List Char → Bool
  | depth, '/' :: '*' :: rest => nests (depth + 1) rest
  | 0, '*' :: '/' :: _ => false
  | depth + 1, '*' :: '/' :: rest => nests depth rest
  | depth, _ :: rest => nests depth rest
  | depth, [] => depth == 0

/-- Whether a text can stand between the marks of a comment. -/
def fitsComment (words : List Char) : Bool :=
  nests 0 words && words.getLast? ≠ some '/'

/-- A line without the spaces at its end. -/
def withoutEnd (line : List Char) : List Char :=
  (line.reverse.dropWhile (· == ' ')).reverse

/-- A text whose lines, except for the last one, have no spaces at their ends. -/
def withoutLineEnds (text : List Char) : List Char :=
  match (text.splitOn '\n').reverse with
  | [] => []
  | last :: before => ['\n'].intercalate ((last :: before.map withoutEnd).reverse)

/-- A comment of one line behind its mark. -/
def lineComment (mark : String) (words : List Char) : List Piece :=
  [text mark, text (String.ofList (withoutEnd words)), hard]

/-- A comment between its marks. -/
def blockComment (mark : String) (words : List Char) : List Piece :=
  [text mark, text (String.ofList (withoutLineEnds words)), text "*/", hard]

/-- Whether a text begins with one of the characters. -/
def beginsWith (marks : List Char) (words : List Char) : Bool :=
  words.head?.any (· ∈ marks)

/-- Documentation as a comment, if it can be one; `inner` says that it stands in what it is for. -/
def documentation? (inner : Bool) (words : List Char) : Option (List Piece) :=
  if !words.contains '\n' && (inner || !beginsWith ['/'] words) then
    some (lineComment (if inner then "//!" else "///") words)
  else if fitsComment words && (inner || !beginsWith ['*', '/'] words) then
    some (blockComment (if inner then "/*!" else "/**") words)
  else none

/-- A plain comment, if the text can be one. -/
def comment? (words : List Char) : Option (List Piece) :=
  if !words.contains '\n' then some (lineComment "//" words)
  else if fitsComment words && !beginsWith ['*', '!'] words then some (blockComment "/*" words)
  else none

/-! ## Attributes -/

/-- The text that an attribute of the given name has as its value. -/
def attributeText? (name : String) : Tree → Option (List Char)
  | .group _ [.node .setting [path, .symbol "=", .node (.expr .literal) [.literal literal]]] =>
    if path = .node .path [.node .segment [.word (.plain name)]] then
      (Literal.text? literal).map String.toList
    else none
  | _ => none

/-- An attribute as a comment, if it stands for one. -/
def asComment? (inner : Bool) (brackets : Tree) : Option (List Piece) :=
  match attributeText? "doc" brackets, attributeText? "comment" brackets with
  | some words, _ => documentation? inner words
  | none, some words => comment? words
  | none, none => none

/-- An attribute with all that is behind it. -/
def annotation (parts : List Laid) : List Piece :=
  let inner := parts.any (·.isSymbol "!")
  match parts.getLast?.bind fun brackets => asComment? inner brackets.tree with
  | some comment => comment
  | none => joined parts ++ [space]

/-- What an attribute with arguments or a value says. -/
def setting (parts : List Laid) : List Piece :=
  joinedBy (fun part => match part.tree with
    | .group delimiter [.verbatim tokens] => argumentList delimiter tokens
    | .symbol _ => [text " = "]
    | _ => part.plain) parts

/-! ## Macro calls -/

/-- The name of a macro that a call of this form gives rules to. -/
def ruledMacro? (parts : List Tree) : Option (Name × List Token) :=
  match parts with
  | [.node .path [.node .segment [.word path]], _, .word name, .group _ [.verbatim tokens]] =>
    if path = .plain "macro_rules" then some (name, tokens) else none
  | _ => none

/-- A macro call without a semicolon. -/
def macroCall (parts : List Laid) : List Piece :=
  match ruledMacro? (parts.map Laid.tree) with
  | some (name, tokens) => (macroRules? name.spelling tokens).getD []
  | none => joinedBy (fun part => match part.tree with
    | .group delimiter [.verbatim tokens] => macroBrackets delimiter tokens
    | .word name => [text (" " ++ name.spelling)]
    | _ => part.plain) parts

end FluentGen.Layout
