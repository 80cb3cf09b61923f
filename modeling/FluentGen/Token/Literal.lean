import FluentGen.Token.Lexer

/-!
# String literals

The text that a string literal stands for. A raw literal stands for what is between its quotes; in
any other one the escapes are resolved first.
-/

namespace FluentGen.Literal

/-- Whether a character is passed over after a backslash at the end of a line. -/
def isFolded (c : Char) : Bool :=
  c == ' ' || c == '\t' || c == '\n' || c == '\r'

/-- The characters up to the closing quote, of which there are at most so many, without escapes. -/
def resolved : Nat → List Char → List Char
  | 0, _ => []
  | _ + 1, [] => []
  | _ + 1, '\x22' :: _ => []
  | count + 1, '\r' :: '\n' :: rest => '\n' :: resolved count rest
  | count + 1, '\\' :: 'n' :: rest => '\n' :: resolved count rest
  | count + 1, '\\' :: 'r' :: rest => '\r' :: resolved count rest
  | count + 1, '\\' :: 't' :: rest => '\t' :: resolved count rest
  | count + 1, '\\' :: '0' :: rest => '\x00' :: resolved count rest
  | count + 1, '\\' :: 'x' :: high :: low :: rest =>
    Char.ofNat (Lexer.hexValue high * 16 + Lexer.hexValue low) :: resolved count rest
  | count + 1, '\\' :: 'u' :: rest =>
    match Lexer.codePoint? 0 0 (rest.drop 1) with
    | some (c, rest) => c :: resolved count rest
    | none => []
  | count + 1, '\\' :: c :: rest =>
    if c = '\n' ∨ c = '\r' then resolved count (rest.dropWhile isFolded)
    else c :: resolved count rest
  | count + 1, c :: rest => c :: resolved count rest

/-- The characters up to the quote that so many number signs follow. -/
def rawChars (signs : List Char) : List Char → List Char
  | [] => []
  | c :: rest =>
    if c = '\x22' ∧ signs.isPrefixOf rest = true then [] else c :: rawChars signs rest

/-- The text of a string literal; other literals stand for none. -/
def text? (literal : String) : Option String :=
  match literal.toList with
  | '\x22' :: rest => some (String.ofList (resolved rest.length rest))
  | 'r' :: rest =>
    let signs := rest.takeWhile (· == '#')
    some (String.ofList (rawChars signs (rest.drop (signs.length + 1))))
  | _ => none

end FluentGen.Literal
