import FluentGen.Text.Printable

/-!
# Quoted text

Two ways to write a text between double quotes: the one of source code, which keeps printable
characters and escapes the others, and the one of JSON, which escapes quotes, backslashes and
control characters.
-/

namespace FluentGen.Text

/-- The digit of a value below sixteen, in lower case. -/
def hexDigit (value : Nat) : Char :=
  Nat.digitChar value

/-- The hexadecimal digits of a number, without leading zeros. -/
def hex (value : Nat) : List Char :=
  Nat.toDigits 16 value

/-- How a character reads inside a quoted text of source code. -/
def escaped (c : Char) : List Char :=
  match c with
  | '\x00' => ['\\', '0']
  | '\t' => ['\\', 't']
  | '\n' => ['\\', 'n']
  | '\r' => ['\\', 'r']
  | '\x22' => ['\\', '\x22']
  | '\\' => ['\\', '\\']
  | c =>
    if isPrintable c then [c]
    else ['\\', 'u', '\x7b'] ++ hex c.toNat ++ ['\x7d']

/-- The text between double quotes, as source code shows it. -/
def quoted (text : String) : String :=
  String.ofList ('\x22' :: text.toList.flatMap escaped ++ ['\x22'])

/--
The escaped characters of a string literal. A null character before an octal digit takes the long
form, so that it cannot be misread as an octal escape.
-/
def literalChars : List Char → List Char
  | [] => []
  | '\x00' :: rest =>
    match rest with
    | c :: _ => if '0' ≤ c ∧ c ≤ '7' then ['\\', 'x', '0', '0'] ++ literalChars rest
        else ['\\', '0'] ++ literalChars rest
    | [] => ['\\', '0']
  | c :: rest => escaped c ++ literalChars rest

/-- The string literal that denotes the text. -/
def stringLiteral (text : String) : String :=
  String.ofList ('\x22' :: literalChars text.toList ++ ['\x22'])

/-- How a character reads inside a JSON string. -/
def jsonEscaped (c : Char) : List Char :=
  match c with
  | '\x22' => ['\\', '\x22']
  | '\\' => ['\\', '\\']
  | '\x08' => ['\\', 'b']
  | '\x0c' => ['\\', 'f']
  | '\n' => ['\\', 'n']
  | '\r' => ['\\', 'r']
  | '\t' => ['\\', 't']
  | c =>
    if c.toNat < 0x20 then
      ['\\', 'u', '0', '0', hexDigit (c.toNat / 16), hexDigit (c.toNat % 16)]
    else [c]

/-- The JSON string that denotes the text. -/
def jsonString (text : String) : String :=
  String.ofList ('\x22' :: text.toList.flatMap jsonEscaped ++ ['\x22'])

end FluentGen.Text
