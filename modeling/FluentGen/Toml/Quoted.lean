import FluentGen.Toml.Blank

/-!
# Strings of a document

Strings stand between double quotes, with escapes, or between single quotes, as they are. Three
quotes make a string that may span lines.
-/

namespace FluentGen.Toml

open Reader

/-- A hexadecimal digit. -/
def isHexDigit (c : Char) : Bool :=
  c.isDigit || ('A' ≤ c && c ≤ 'F') || ('a' ≤ c && c ≤ 'f')

/-- The number that digits denote in a base. -/
def numeral (base : Nat) (digits : List Char) : Nat :=
  digits.foldl (fun value digit =>
    let weight :=
      if digit.isDigit then digit.toNat - 0x30
      else if 'a' ≤ digit then digit.toNat - 0x57
      else digit.toNat - 0x37
    base * value + weight) 0

namespace Quoted

/-- The character of an escape with so many hexadecimal digits. -/
def code (digits : Nat) : Reader Char :=
  check (fun value => if value.isValidChar then .ok (Char.ofNat value) else .error .outOfRange)
    (numeral 16 <$> takeExactly digits isHexDigit)

/-- The characters that can follow a backslash, as a message names them. -/
def escapes : List String :=
  ["`b`", "`f`", "`n`", "`r`", "`t`", "`u`", "`U`", "`\\`", "`\x22`"]

/-- An escape that does not exist. The fault is behind its character if that is a single byte. -/
def unknownEscape (c : Char) : Reader Char :=
  fun cursor =>
    let offset := if c.utf8Size = 1 then cursor.offset else cursor.offset - c.utf8Size
    .failed (((Fault.bare offset).label .escapeSequence).expecting escapes)

/-- An escape in a string. -/
def escape : Reader Char := do
  exactly ['\\']
  match ← char fun _ => true with
  | 'b' => pure '\x08'
  | 'f' => pure '\x0c'
  | 'n' => pure '\n'
  | 'r' => pure '\r'
  | 't' => pure '\t'
  | 'u' => label .shortCode (commit (code 4))
  | 'U' => label .longCode (commit (code 8))
  | '\\' => pure '\\'
  | '\x22' => pure '\x22'
  | c => unknownEscape c

/-- A character that stands for itself between double quotes. -/
def isPlain (c : Char) : Bool :=
  isVisible c && c ≠ '\x22' && c ≠ '\\'

/-- A character that stands for itself between single quotes. -/
def isLiteral (c : Char) : Bool :=
  isVisible c && c ≠ '\''

/-- A string between double quotes. -/
def basic : Reader (List Char) := do
  exactly ['\x22']
  let parts ← many (takeWhileOne isPlain <|> List.singleton <$> escape)
  label .basicString (commit (exactly ['\x22']))
  pure parts.flatten

/-- A string between single quotes. -/
def literal : Reader (List Char) :=
  label .literalString do
    exactly ['\'']
    let inside ← takeWhile isLiteral
    commit (exactly ['\''])
    pure inside

/-- A backslash at the end of a line, which takes away the blanks up to the next character. -/
def lineContinuation : Reader Unit := do
  exactly ['\\']
  blanks
  newline
  discard (many (discard (takeWhileOne isBlank) <|> newline))

/-- A part of a string between three double quotes. -/
def multilinePart : Reader (List Char) :=
  takeWhileOne isPlain <|> (do lineContinuation; pure []) <|> List.singleton <$> escape <|>
    (do newline; pure ['\n'])

/-- One or two quotes inside a string, in front of what tells that it goes on or ends. -/
def innerQuotes (quote : Char) (after : Reader Unit) : Reader (List Char) :=
  textOf (do exactly [quote, quote]; peek after) <|> textOf (do exactly [quote]; peek after)

/-- One or two quotes inside a string, in front of a character that is no quote. -/
def looseQuotes (quote : Char) : Reader (List Char) :=
  innerQuotes quote (discard (char (· ≠ quote)))

/--
The inside of a string between three quotes. The stretch between two places with quotes is read by
the given reader.
-/
def multilineInside (quote : Char) (part stretch : Reader (List Char)) : Reader (List Char) := do
  let start ← many part
  let middle ← many stretch
  let last ← optional (innerQuotes quote (exactly [quote, quote, quote]))
  pure (start.flatten ++ middle.flatten ++ last.getD [])

/-- Quotes with what follows them, if anything that may stand in the string does. -/
def looseStretch (quote : Char) (part : Reader (List Char)) : Reader (List Char) := do
  let quotes ← looseQuotes quote
  let rest ← many part
  pure (quotes ++ rest.flatten)

/-- Quotes with what has to follow them. -/
def firmStretch (quote : Char) (part : Reader (List Char)) : Reader (List Char) := do
  let quotes ← looseQuotes quote
  let first ← part
  let rest ← many part
  pure (quotes ++ first ++ rest.flatten)

/-- A string between three double quotes. -/
def multilineBasic : Reader (List Char) :=
  label .multilineBasicString do
    let quotes := exactly ['\x22', '\x22', '\x22']
    quotes
    discard (optional newline)
    let inside ← commit (multilineInside '\x22' multilinePart (looseStretch '\x22' multilinePart))
    commit quotes
    pure inside

/-- A string between three single quotes. -/
def multilineLiteral : Reader (List Char) :=
  label .multilineLiteralString do
    let quotes := exactly ['\'', '\'', '\'']
    quotes
    discard (optional newline)
    let part := takeWhileOne isLiteral <|> (do newline; pure ['\n'])
    let inside ← commit (multilineInside '\'' part (firmStretch '\'' part))
    commit quotes
    pure inside

end Quoted

/-- A string of any form. -/
def string : Reader String :=
  String.ofList <$> (Quoted.multilineBasic <|> Quoted.basic <|>
    Quoted.multilineLiteral <|> Quoted.literal)

end FluentGen.Toml
