/-!
# Tokens

The tokens of source text as one flat list, in which every delimiter is a token of its own. A
punctuation character that is joint belongs together with the one after it, so `->` is a joint
`-` and then `>`; a lifetime is a joint quote and then its name.

The text of a token list puts one space between two tokens, except after a joint character and
next to parentheses and brackets on their inner side.
-/

namespace FluentGen

/-- An identifier, which may be written raw (`r#type`) so that it is never a keyword. -/
structure Name where
  raw : Bool
  text : String
deriving DecidableEq, Inhabited

namespace Name

/-- An identifier that is not raw. -/
def plain (text : String) : Name :=
  ⟨false, text⟩

/-- The identifier as it is written. -/
def spelling (name : Name) : String :=
  if name.raw then "r#" ++ name.text else name.text

end Name

/-- The three kinds of brackets. -/
inductive Delimiter where
  | paren
  | brace
  | bracket
deriving DecidableEq

namespace Delimiter

/-- The text of the opening bracket. -/
def opening : Delimiter → String
  | paren => "("
  | brace => "\x7b"
  | bracket => "["

/-- The text of the closing bracket. -/
def closing : Delimiter → String
  | paren => ")"
  | brace => "\x7d"
  | bracket => "]"

end Delimiter

/-- A token of source text. -/
inductive Token where
  | ident (name : Name)
  | punct (char : Char) (joint : Bool)
  | literal (text : String)
  | opening (delimiter : Delimiter)
  | closing (delimiter : Delimiter)
deriving DecidableEq

namespace Token

/-- The token as it is written. -/
def spelling : Token → String
  | ident name => name.spelling
  | punct char _ => char.toString
  | literal text => text
  | opening delimiter => delimiter.opening
  | closing delimiter => delimiter.closing

/-- Whether the text of two neighbouring tokens has a space between them. -/
def spaced : Token → Token → Bool
  | opening .brace, _ => true
  | opening _, _ => false
  | _, closing .brace => true
  | _, closing _ => false
  | punct _ joint, _ => !joint
  | _, _ => true

/-- The characters of a token list. -/
def chars : List Token → List Char
  | [] => []
  | [token] => token.spelling.toList
  | token :: next :: rest =>
    token.spelling.toList ++ (if token.spaced next then [' '] else []) ++ chars (next :: rest)

/-- The text of a token list. -/
def text (tokens : List Token) : String :=
  String.ofList (chars tokens)

/-- The tokens of an operator: every character but the last is joint. -/
def operatorChars : List Char → List Token
  | [] => []
  | [c] => [punct c false]
  | c :: rest => punct c true :: operatorChars rest

/-- The tokens of an operator of one or more characters. -/
def operator (text : String) : List Token :=
  operatorChars text.toList

/-- A word that is not raw. -/
def word (text : String) : Token :=
  ident (.plain text)

/-- The tokens of a lifetime. -/
def lifetime (name : Name) : List Token :=
  [punct '\'' true, ident name]

/-- Tokens between a pair of delimiters. -/
def group (delimiter : Delimiter) (tokens : List Token) : List Token :=
  opening delimiter :: tokens ++ [closing delimiter]

/-- The tokens of a path of names, as in `::core::option`. -/
def path (names : List String) : List Token :=
  names.flatMap fun name => operator "::" ++ [word name]

/--
How deep the brackets of a list are open after each token; used to find where a bracket closes.
The result is what follows the bracket that closes the innermost open one.
-/
def afterClosing : Nat → List Token → List Token
  | _, [] => []
  | depth, opening _ :: rest => afterClosing (depth + 1) rest
  | 0, closing _ :: rest => rest
  | depth + 1, closing _ :: rest => afterClosing depth rest
  | depth, _ :: rest => afterClosing depth rest

/-- The tokens before the bracket that closes the innermost open one. -/
def beforeClosing : Nat → List Token → List Token
  | _, [] => []
  | depth, opening d :: rest => opening d :: beforeClosing (depth + 1) rest
  | 0, closing _ :: _ => []
  | depth + 1, closing d :: rest => closing d :: beforeClosing depth rest
  | depth, token :: rest => token :: beforeClosing depth rest

end Token

end FluentGen
