import FluentGen.Text.Blank
import FluentGen.Text.Letter
import FluentGen.Text.Escape
import FluentGen.Token.Basic

/-!
# Lexer

Source text becomes a balanced token list. Blanks and comments separate tokens and vanish, except
for documentation comments, which become the attribute they stand for. A literal is tried first,
then a punctuation character, then an identifier; text that is none of these, and an unbalanced
bracket, make the whole text unreadable.

The readers of this module take the characters that are left and give back those after what they
read, or nothing if it is not there.
-/

namespace FluentGen.Lexer

open Text

/-- The characters after a fixed text, if they begin with it. -/
def after? : List Char → List Char → Option (List Char)
  | [], cs => some cs
  | _ :: _, [] => none
  | p :: ps, c :: cs => if p = c then after? ps cs else none

/-- Whether the characters begin with a fixed text. -/
def starts (text : String) (cs : List Char) : Bool :=
  (after? text.toList cs).isSome

/-- Blanks, and the two marks that set the direction of writing. -/
def isSpace (c : Char) : Bool :=
  isBlank c || c == '\u200e' || c == '\u200f'

/-! ## Identifiers -/

/-- An identifier that is not raw. -/
def plainIdent? : List Char → Option (List Char × List Char)
  | c :: cs => if startsIdent c then some (c :: cs.takeWhile continuesIdent,
      cs.dropWhile continuesIdent) else none
  | [] => none

/-- The words that cannot be raw. -/
def neverRaw : List String :=
  ["_", "super", "self", "Self", "crate"]

/-- An identifier, raw or not. -/
def anyIdent? (cs : List Char) : Option (Name × List Char) :=
  match after? ['r', '#'] cs with
  | some inner => do
    let (word, rest) ← plainIdent? inner
    let text := String.ofList word
    if text ∈ neverRaw then none else some (⟨true, text⟩, rest)
  | none => do
    let (word, rest) ← plainIdent? cs
    some (.plain (String.ofList word), rest)

/-- Beginnings that belong to a literal or to nothing, never to an identifier. -/
def literalStarts : List String :=
  ["r\x22", "r#\x22", "r##", "b\x22", "b\x27", "br\x22", "br#", "c\x22", "cr\x22", "cr#"]

/-- An identifier token. -/
def ident? (cs : List Char) : Option (Name × List Char) :=
  if literalStarts.any (starts · cs) then none else anyIdent? cs

/-! ## Literals -/

/-- What is left after the suffix of a literal, which may be missing. -/
def afterSuffix (cs : List Char) : List Char :=
  match plainIdent? cs with
  | some (_, rest) => rest
  | none => cs

/-- Holds of hexadecimal digits. -/
def isHex (c : Char) : Bool :=
  c.isDigit || ('a' ≤ c && c ≤ 'f') || ('A' ≤ c && c ≤ 'F')

/-- The value of a hexadecimal digit. -/
def hexValue (c : Char) : Nat :=
  if c.isDigit then c.toNat - '0'.toNat
  else if 'a' ≤ c then c.toNat - 'a'.toNat + 10
  else c.toNat - 'A'.toNat + 10

/-- The digits of a `\u` escape after its opening brace: one to six, underscores not counted. -/
def codePoint? : Nat → Nat → List Char → Option (Char × List Char)
  | _, _, [] => none
  | count, value, c :: cs =>
    if isHex c then
      if count = 6 then none else codePoint? (count + 1) (value * 16 + hexValue c) cs
    else if c = '_' ∧ 0 < count then codePoint? count value cs
    else if c = '\x7d' ∧ 0 < count then
      if value.isValidChar then some (Char.ofNat value, cs) else none
    else none

/-- The four families of quoted literals, which differ in the escapes they allow. -/
inductive Quoted where
  | text
  | bytes
  | cText
deriving DecidableEq

/-- Whether a character may stand in such a literal. -/
def Quoted.allows (family : Quoted) (c : Char) : Bool :=
  match family with
  | .text => true
  | .bytes => c.toNat < 0x80
  | .cText => c ≠ '\x00'

/-- Whether the digits may follow `\x` in such a literal. -/
def Quoted.allowsHex (family : Quoted) (high low : Char) : Bool :=
  isHex high && isHex low &&
    match family with
    | .text => high ≤ '7'
    | .bytes => true
    | .cText => !(high == '0' && low == '0')

/-- What is left after an escape, the backslash having been read. Line ends are not covered. -/
def afterEscape? (family : Quoted) : List Char → Option (List Char)
  | 'x' :: high :: low :: rest => if family.allowsHex high low then some rest else none
  | 'u' :: '\x7b' :: rest =>
    match family, codePoint? 0 0 rest with
    | .bytes, _ => none
    | .cText, some (c, rest) => if c = '\x00' then none else some rest
    | .text, some (_, rest) => some rest
    | _, none => none
  | '0' :: rest => if family = .cText then none else some rest
  | c :: rest => if c ∈ ['n', 'r', 't', '\\', '\'', '\x22'] then some rest else none
  | [] => none

/--
What is left after the blanks that follow a backslash at the end of a line, the last character
read being given. A carriage return must be followed by a line feed, and the text by something.
-/
def afterLineEnd? : Char → List Char → Option (List Char)
  | '\r', '\n' :: c :: rest =>
    if c ∈ [' ', '\t', '\n', '\r'] then afterLineEnd? c rest else some (c :: rest)
  | '\r', _ => none
  | _, c :: rest => if c ∈ [' ', '\t', '\n', '\r'] then afterLineEnd? c rest else some (c :: rest)
  | _, [] => none

/-- What is left after a quoted literal with escapes, its opening quote having been read. -/
def afterCooked? (family : Quoted) : Nat → List Char → Option (List Char)
  | 0, _ => none
  | fuel + 1, cs =>
    match cs with
    | '\x22' :: rest => some (afterSuffix rest)
    | '\r' :: '\n' :: rest => afterCooked? family fuel rest
    | '\r' :: _ => none
    | '\\' :: c :: rest =>
      if c = '\n' ∨ c = '\r' then
        (afterLineEnd? c rest).bind (afterCooked? family fuel)
      else (afterEscape? family (c :: rest)).bind (afterCooked? family fuel)
    | '\\' :: [] => none
    | c :: rest => if family.allows c then afterCooked? family fuel rest else none
    | [] => none

/-- What is left after the body of a raw literal, which ends at a quote and the given hashes. -/
def afterRawBody? (family : Quoted) (hashes : List Char) : List Char → Option (List Char)
  | [] => none
  | '\r' :: '\n' :: rest => afterRawBody? family hashes rest
  | '\r' :: _ => none
  | c :: rest =>
    match if c = '\x22' then after? hashes rest else none with
    | some rest => some (afterSuffix rest)
    | none => if family.allows c then afterRawBody? family hashes rest else none

/-- What is left after a raw literal, from its hashes on; at most 255 of them are allowed. -/
def afterRaw? (family : Quoted) (cs : List Char) : Option (List Char) :=
  let hashes := cs.takeWhile (· == '#')
  match cs.dropWhile (· == '#') with
  | '\x22' :: rest => if hashes.length ≤ 255 then afterRawBody? family hashes rest else none
  | _ => none

/-- What is left after a character or byte literal, its opening quote having been read. -/
def afterCharacter? (family : Quoted) (cs : List Char) : Option (List Char) := do
  let rest ← match cs with
    | '\\' :: rest => afterEscape? family rest
    | c :: rest => if family.allows c then some rest else none
    | [] => none
  match rest with
  | '\'' :: rest => some (afterSuffix rest)
  | _ => none

/-- What is left after a literal in quotes. -/
def afterQuoted? (cs : List Char) : Option (List Char) :=
  match cs with
  | '\x22' :: rest => afterCooked? .text (rest.length + 1) rest
  | 'r' :: rest => afterRaw? .text rest
  | 'b' :: '\x22' :: rest => afterCooked? .bytes (rest.length + 1) rest
  | 'b' :: 'r' :: rest => afterRaw? .bytes rest
  | 'b' :: '\'' :: rest => afterCharacter? .bytes rest
  | 'c' :: '\x22' :: rest => afterCooked? .cText (rest.length + 1) rest
  | 'c' :: 'r' :: rest => afterRaw? .cText rest
  | '\'' :: rest => afterCharacter? .text rest
  | _ => none

/-- What is left after the optional suffix of a number, after which no letter may stand. -/
def afterNumberSuffix? (cs : List Char) : Option (List Char) :=
  let rest := afterSuffix cs
  match rest with
  | c :: _ => if continuesIdent c then none else some rest
  | [] => some rest

/-- The digits and underscores of the exponent of a number, and whether there is a digit. -/
def exponentDigits (cs : List Char) : Bool × List Char :=
  let isMember (c : Char) := c.isDigit || c == '_'
  ((cs.takeWhile isMember).any Char.isDigit, cs.dropWhile isMember)

/--
What is left after the exponent of a number, its letter having been read. One sign may stand
anywhere before the first digit.
-/
def afterExponent? (cs : List Char) : Option (List Char) :=
  match cs.dropWhile (· == '_') with
  | c :: rest =>
    if c = '+' ∨ c = '-' then
      let (found, rest) := exponentDigits rest
      if found then some rest else none
    else
      let (found, rest) := exponentDigits (c :: rest)
      if found then some rest else none
  | [] => none

/-- What is left after the digits of a number with a fraction or an exponent. -/
def afterFloatDigits? (cs : List Char) : Option (List Char) :=
  let isMember (c : Char) := c.isDigit || c == '_'
  match cs with
  | [] => none
  | c :: _ =>
    if !c.isDigit then none else
    match cs.dropWhile isMember with
    | '.' :: rest =>
      let clash := match rest with
        | c :: _ => c == '.' || startsIdent c
        | [] => false
      if clash then none else
      match rest.dropWhile isMember with
      | e :: more =>
        if e = 'e' ∨ e = 'E' then some ((afterExponent? more).getD (e :: more))
        else some (e :: more)
      | [] => some []
    | e :: rest => if e = 'e' ∨ e = 'E' then afterExponent? rest else none
    | [] => none

/-- What is left after the digits of an integer in the given base. -/
def afterDigits? (base : Nat) : Bool → List Char → Option (List Char)
  | found, c :: rest =>
    if c.isDigit then
      if base ≤ hexValue c then none else afterDigits? base true rest
    else if isHex c then
      if base ≤ hexValue c then (if found then some (c :: rest) else none)
      else afterDigits? base true rest
    else if c = '_' then
      if !found && base == 10 then none else afterDigits? base found rest
    else if found then some (c :: rest) else none
  | found, [] => if found then some [] else none

/-- What is left after the digits of an integer, with the mark of its base. -/
def afterIntDigits? (cs : List Char) : Option (List Char) :=
  match cs with
  | '0' :: 'x' :: rest => afterDigits? 16 false rest
  | '0' :: 'o' :: rest => afterDigits? 8 false rest
  | '0' :: 'b' :: rest => afterDigits? 2 false rest
  | _ => afterDigits? 10 false cs

/-- What is left after a literal. -/
def afterLiteral? (cs : List Char) : Option (List Char) :=
  match afterQuoted? cs with
  | some rest => some rest
  | none =>
    match (afterFloatDigits? cs).bind afterNumberSuffix? with
    | some rest => some rest
    | none => (afterIntDigits? cs).bind afterNumberSuffix?

/-! ## Punctuation and comments -/

/-- The characters of operators; a quote begins a lifetime. -/
def punctChars : List Char :=
  "~!@#$%^&*-=+|;:,<.>/?'".toList

/-- A punctuation character that does not begin a comment. -/
def punctChar? (cs : List Char) : Option (Char × List Char) :=
  if starts "//" cs || starts "/*" cs then none else
  match cs with
  | c :: rest => if c ∈ punctChars then some (c, rest) else none
  | [] => none

/-- A punctuation token. A quote must begin a lifetime. -/
def punct? (cs : List Char) : Option (Token × List Char) := do
  let (c, rest) ← punctChar? cs
  if c = '\'' then
    let (_, next) ← anyIdent? rest
    let open_ := starts "'" next || (starts "#" next && !starts "r#" rest)
    if open_ then none else some (.punct '\'' true, rest)
  else some (.punct c (punctChar? rest).isSome, rest)

/-- The inside of a block comment and what is left after it; such comments nest. -/
def blockComment? : Nat → List Char → Option (List Char × List Char)
  | depth, '/' :: '*' :: rest =>
    (blockComment? (depth + 1) rest).map fun (inside, rest) => ('/' :: '*' :: inside, rest)
  | 0, '*' :: '/' :: rest => some ([], rest)
  | depth + 1, '*' :: '/' :: rest =>
    (blockComment? depth rest).map fun (inside, rest) => ('*' :: '/' :: inside, rest)
  | depth, c :: rest => (blockComment? depth rest).map fun (inside, rest) => (c :: inside, rest)
  | _, [] => none

/-- What is left after an ordinary comment. -/
def afterComment? (cs : List Char) : Option (List Char) :=
  match cs with
  | '/' :: '/' :: rest =>
    if starts "!" rest || (starts "/" rest && !starts "//" rest) then none
    else some (rest.dropWhile (· ≠ '\n'))
  | '/' :: '*' :: '*' :: '/' :: rest => some rest
  | '/' :: '*' :: rest =>
    if starts "!" rest || (starts "*" rest && !starts "**" rest) then none
    else (blockComment? 0 rest).map (·.2)
  | _ => none

/-- What is left after blanks and ordinary comments, in at most so many steps. -/
def skipBlanks : Nat → List Char → List Char
  | 0, cs => cs
  | _ + 1, [] => []
  | steps + 1, c :: cs =>
    match afterComment? (c :: cs) with
    | some rest => skipBlanks steps rest
    | none => if isSpace c then skipBlanks steps cs else c :: cs

/-- What is left after blanks and ordinary comments. -/
def afterBlanks (cs : List Char) : List Char :=
  skipBlanks cs.length cs

/-- The rest of a line, up to a line end of one or two characters. -/
def line : List Char → List Char × List Char
  | [] => ([], [])
  | '\n' :: rest => ([], '\n' :: rest)
  | '\r' :: '\n' :: rest => ([], '\n' :: rest)
  | c :: rest =>
    let (text, rest) := line rest
    (c :: text, rest)

/-- The text of a documentation comment, whether it documents what encloses it, and the rest. -/
def documentation? (cs : List Char) : Option (List Char × Bool × List Char) :=
  match cs with
  | '/' :: '/' :: '!' :: rest =>
    let (text, rest) := line rest
    some (text, true, rest)
  | '/' :: '*' :: '!' :: rest => (blockComment? 0 rest).map fun (text, rest) => (text, true, rest)
  | '/' :: '/' :: '/' :: rest =>
    let (text, after) := line rest
    if starts "/" rest then none else some (text, false, after)
  | '/' :: '*' :: '*' :: rest =>
    if starts "*" rest then none
    else (blockComment? 0 rest).map fun (text, rest) => (text, false, rest)
  | _ => none

/-- Whether every carriage return is followed by a line feed. -/
def pairedReturns : List Char → Bool
  | '\r' :: '\n' :: rest => pairedReturns rest
  | '\r' :: _ => false
  | _ :: rest => pairedReturns rest
  | [] => true

/-- The attribute that a documentation comment stands for. -/
def documentationTokens (text : List Char) (inner : Bool) : List Token :=
  [.punct '#' false] ++ (if inner then [.punct '!' false] else []) ++
    Token.group .bracket
      [.word "doc", .punct '=' false, .literal (stringLiteral (String.ofList text))]

/-! ## The token list -/

/-- The one literal that is not made of quotes or digits: the mark of an erroneous expression. -/
def errorMark : String :=
  "(/*ERROR*/)"

/-- A token that is not a bracket. -/
def leaf? (cs : List Char) : Option (Token × List Char) :=
  match afterLiteral? cs with
  | some rest => some (.literal (String.ofList (cs.take (cs.length - rest.length))), rest)
  | none =>
    match punct? cs with
    | some found => some found
    | none =>
      match ident? cs with
      | some (name, rest) => some (.ident name, rest)
      | none => (after? errorMark.toList cs).map fun rest => (.literal errorMark, rest)

/-- The bracket that a character is, and whether it opens. -/
def bracket? : Char → Option (Delimiter × Bool)
  | '(' => some (.paren, true)
  | '[' => some (.bracket, true)
  | '\x7b' => some (.brace, true)
  | ')' => some (.paren, false)
  | ']' => some (.bracket, false)
  | '\x7d' => some (.brace, false)
  | _ => none

/--
The tokens of the characters, the brackets that are open being given, innermost first. Every step
takes a character at least, so a step more than there are characters is enough.
-/
def scan : Nat → List Delimiter → List Char → Option (List Token)
  | 0, _, _ => none
  | _ + 1, [], [] => some []
  | _ + 1, _ :: _, [] => none
  | fuel + 1, stack, c :: cs =>
    match afterComment? (c :: cs) with
    | some rest => scan fuel stack rest
    | none =>
    if isSpace c then scan fuel stack cs else
    match documentation? (c :: cs) with
    | some (text, inner, rest) =>
      if pairedReturns text then
        (scan fuel stack rest).map (documentationTokens text inner ++ ·)
      else none
    | none =>
    match if starts errorMark (c :: cs) then none else bracket? c with
    | some (delimiter, true) =>
      (scan fuel (delimiter :: stack) cs).map (.opening delimiter :: ·)
    | some (delimiter, false) =>
      match stack with
      | innermost :: stack =>
        if innermost = delimiter then (scan fuel stack cs).map (.closing delimiter :: ·) else none
      | [] => none
    | none =>
      match leaf? (c :: cs) with
      | some (token, rest) => (scan fuel stack rest).map (token :: ·)
      | none => none

/-- A mark at the very beginning of a text that says how it is encoded. -/
def byteOrderMark : Char :=
  '\ufeff'

/-- The text without the byte order mark that it may begin with. -/
def withoutMark : List Char → List Char
  | c :: cs => if c = byteOrderMark then cs else c :: cs
  | [] => []

end FluentGen.Lexer

namespace FluentGen

/-- The tokens of a text, if it is readable. -/
def Token.ofText? (text : String) : Option (List Token) :=
  let chars := Lexer.withoutMark text.toList
  Lexer.scan (chars.length + 1) [] chars

end FluentGen
