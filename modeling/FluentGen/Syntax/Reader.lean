import FluentGen.Syntax.Fault
import FluentGen.Syntax.Tree

/-!
# Readers

A reader takes trees off the front of a token list or finds a fault. Readers in a row are joined
by `++`, so a grammar rule reads like its grammar. A reader that stands inside brackets sees the
closing bracket as the end of its input; tokens left over before it are passed over and only
reported, as the first such bracket, when the whole text has been read.

A `Sight` is a test of the next tokens together with the name that an expectation gives it.
-/

namespace FluentGen

/-- What is left to read. -/
structure Scan where
  rest : List Token
  /-- The first bracket that something was left over in. -/
  stray : Option Delimiter
  /-- How many tokens the whole text has, which no repetition goes beyond. -/
  size : Nat

namespace Scan

/-- The beginning of a text. -/
def start (tokens : List Token) : Scan :=
  ⟨tokens, none, tokens.length⟩

/-- Whether the text, or the innermost open bracket, has nothing left. -/
def atEnd (scan : Scan) : Bool :=
  match scan.rest with
  | [] => true
  | .closing _ :: _ => true
  | _ => false

/-- The fault that something else was expected here. -/
def fault (scan : Scan) (message : String) : Fault :=
  if scan.atEnd then .ended message else .refused message

end Scan

/-- The tokens without the first one; a bracket with all inside it, and a lifetime, count as one. -/
def Token.skip? : List Token → Option (List Token)
  | [] => none
  | .closing _ :: _ => none
  | .opening _ :: rest => some (Token.afterClosing 0 rest)
  | .punct '\'' _ :: .ident _ :: rest => some rest
  | _ :: rest => some rest

/-- A test of the tokens that come next. -/
structure Sight where
  /-- How an expectation names what is tested for. -/
  label : String
  test : List Token → Bool

namespace Sight

/-- The tokens after an operator, which may be the beginning of a longer one. -/
def afterOperator? : List Char → List Token → Option (List Token)
  | [], tokens => some tokens
  | [c], .punct d _ :: rest => if c = d ∧ c ≠ '\'' then some rest else none
  | c :: cs, .punct d joint :: rest =>
    if c = d ∧ joint = true then afterOperator? cs rest else none
  | _ :: _, _ => none

/-- An operator, which may be the beginning of a longer one. -/
def symbol (text : String) : Sight :=
  ⟨s!"`{text}`", fun tokens => (afterOperator? text.toList tokens).isSome⟩

/-- A word that is not raw. -/
def word (text : String) : Sight :=
  ⟨s!"`{text}`", fun tokens =>
    match tokens with
    | .ident name :: _ => name == .plain text
    | _ => false⟩

/-- The words that are no identifiers unless they are raw. -/
def keywords : List String :=
  ["_", "abstract", "as", "async", "await", "become", "box", "break", "const", "continue", "crate",
    "do", "dyn", "else", "enum", "extern", "false", "final", "fn", "for", "if", "impl", "in", "let",
    "loop", "macro", "match", "mod", "move", "mut", "override", "priv", "pub", "ref", "return",
    "Self", "self", "static", "struct", "super", "trait", "true", "try", "type", "typeof", "unsafe",
    "unsized", "use", "virtual", "where", "while", "yield"]

/-- Whether a name can be used as an identifier as it is written. -/
def isIdent (name : Name) : Bool :=
  name.raw || name.text ∉ keywords

/-- An identifier. -/
def ident : Sight :=
  ⟨"identifier", fun tokens =>
    match tokens with
    | .ident name :: _ => isIdent name
    | _ => false⟩

/-- A word of any sort. -/
def anyWord : Sight :=
  ⟨"ident", fun tokens =>
    match tokens with
    | .ident _ :: _ => true
    | _ => false⟩

/-- A lifetime. -/
def lifetime : Sight :=
  ⟨"lifetime", fun tokens =>
    match tokens with
    | .punct '\'' _ :: .ident _ :: _ => true
    | _ => false⟩

/-- A bracketed part. -/
def group (delimiter : Delimiter) : Sight :=
  ⟨match delimiter with
    | .paren => "parentheses"
    | .brace => "curly braces"
    | .bracket => "square brackets", fun tokens =>
    match tokens with
    | .opening found :: _ => found == delimiter
    | _ => false⟩

/-- Whether a literal is a number. -/
def isNumber (text : String) : Bool :=
  text.toList.head?.any (·.isDigit)

/-- Whether a literal is a text, neither of bytes nor for C. -/
def isText (text : String) : Bool :=
  text.toList.head?.any fun c => c == '\x22' || c == 'r'

/-- A literal: one token, a truth value, or a number with a minus sign. -/
def literal : Sight :=
  ⟨"literal", fun tokens =>
    match tokens with
    | .literal _ :: _ => true
    | .ident name :: _ => name == .plain "true" || name == .plain "false"
    | .punct '-' _ :: .literal text :: _ => isNumber text
    | _ => false⟩

/-- A literal that is a text. -/
def text : Sight :=
  ⟨"string literal", fun tokens =>
    match tokens with
    | .literal text :: _ => isText text
    | _ => false⟩

/-- Whether a number has a fraction or an exponent. -/
def isFloat (text : String) : Bool :=
  let chars := text.toList
  let hasBase := ["0x", "0o", "0b"].contains (String.ofList (chars.take 2))
  !hasBase && match chars.dropWhile fun c => c.isDigit || c == '_' with
    | '.' :: _ => true
    | c :: more => (c == 'e' || c == 'E') &&
      (more.dropWhile (· == '_')).head?.any fun c => c.isDigit || c == '+' || c == '-'
    | [] => false

end Sight

namespace Scan

/-- Whether a sight comes next. -/
def sees (scan : Scan) (sight : Sight) : Bool :=
  sight.test scan.rest

/-- Whether a sight comes after the next token. -/
def sees2 (scan : Scan) (sight : Sight) : Bool :=
  (Token.skip? scan.rest).any sight.test

/-- Whether a sight comes after the next two tokens. -/
def sees3 (scan : Scan) (sight : Sight) : Bool :=
  ((Token.skip? scan.rest).bind Token.skip?).any sight.test

/-- Whether one of several sights comes next. -/
def seesAny (scan : Scan) (sights : List Sight) : Bool :=
  sights.any scan.sees

end Scan

/-- Takes trees off the front of what is left to read. -/
def Reader : Type :=
  Scan → Except Fault (List Tree × Scan)

namespace Reader

/-- Reads nothing. -/
def pass : Reader := fun scan =>
  .ok ([], scan)

/-- Reads nothing and gives the trees. -/
def give (trees : List Tree) : Reader := fun scan =>
  .ok (trees, scan)

/-- Fails, with a message that may be preceded by a note on an early end. -/
def fail (message : String) : Reader := fun scan =>
  .error (scan.fault message)

/-- Fails with the message as it is. -/
def refuse (message : String) : Reader := fun _ =>
  .error (.refused message)

/-- Reads with the first reader and then with the second. -/
def append (first second : Reader) : Reader := fun scan =>
  match first scan with
  | .ok (before, scan) =>
    match second scan with
    | .ok (after, scan) => .ok (before ++ after, scan)
    | .error fault => .error fault
  | .error fault => .error fault

instance : Append Reader := ⟨append⟩

/-- Reads with the first reader, and goes on with what the trees it read ask for. -/
def bind (first : Reader) (next : List Tree → Reader) : Reader := fun scan =>
  match first scan with
  | .ok (trees, scan) => next trees scan
  | .error fault => .error fault

/-- Reads and then changes the trees that were read. -/
def map (change : List Tree → List Tree) (reader : Reader) : Reader :=
  reader.bind fun trees => give (change trees)

/-- Makes one node of what is read. -/
def node (kind : Kind) (reader : Reader) : Reader :=
  reader.map fun parts => [.node kind parts]

/-- Reads, and keeps nothing of it. -/
def dropped (reader : Reader) : Reader :=
  reader.map fun _ => []

/-- Reads a node; if its kind passes the test, it keeps its tokens exactly as they are written. -/
def asText (test : Kind → Bool) (reader : Reader) : Reader := fun before =>
  match reader before with
  | .ok ([.node kind parts], after) =>
    if test kind then
      let taken := before.rest.take (before.rest.length - after.rest.length)
      .ok ([.node kind [.verbatim taken]], after)
    else .ok ([.node kind parts], after)
  | other => other

/-- Makes one node of what is read, with the tokens exactly as they are written. -/
def asWritten (kind : Kind) (reader : Reader) : Reader :=
  asText (fun _ => true) (node kind reader)

/-- Chooses a reader by a test of what comes next. -/
def choose (test : Scan → Bool) (yes no : Reader) : Reader := fun scan =>
  if test scan then yes scan else no scan

/-- Reads with the reader only if the sight comes next. -/
def ifSees (sight : Sight) (reader : Reader) : Reader :=
  choose (·.sees sight) reader pass

/-- Reads with the first reader if it finds no fault, else with the second. -/
def orElse (first second : Reader) : Reader := fun scan =>
  match first scan with
  | .ok found => .ok found
  | .error _ => second scan

/-- An operator. -/
def symbol (text : String) : Reader := fun scan =>
  match Sight.afterOperator? text.toList scan.rest with
  | some rest => .ok ([.symbol text], { scan with rest })
  | none => .error (.refused s!"expected `{text}`")

/-- A word that is not raw. -/
def word (text : String) : Reader := fun scan =>
  match scan.rest with
  | .ident name :: rest =>
    if name = .plain text then .ok ([.word name], { scan with rest })
    else .error (scan.fault s!"expected `{text}`")
  | _ => .error (scan.fault s!"expected `{text}`")

/-- An identifier. -/
def ident : Reader := fun scan =>
  match scan.rest with
  | .ident name :: rest =>
    if Sight.isIdent name then .ok ([.word name], { scan with rest })
    else .error (scan.fault s!"expected identifier, found keyword `{name.text}`")
  | _ => .error (scan.fault "expected identifier")

/-- A word of any sort. -/
def anyWord : Reader := fun scan =>
  match scan.rest with
  | .ident name :: rest => .ok ([.word name], { scan with rest })
  | _ => .error (scan.fault "expected ident")

/-- A lifetime. -/
def lifetime : Reader := fun scan =>
  match scan.rest with
  | .punct '\'' _ :: .ident name :: rest => .ok ([.lifetime name], { scan with rest })
  | _ => .error (scan.fault "expected lifetime")

/-- A literal: one token, a truth value, or a number with a minus sign. -/
def literal : Reader := fun scan =>
  match scan.rest with
  | .literal text :: rest => .ok ([.literal text], { scan with rest })
  | .ident name :: rest =>
    if name = .plain "true" ∨ name = .plain "false" then .ok ([.word name], { scan with rest })
    else .error (scan.fault "expected literal")
  | .punct '-' _ :: .literal text :: rest =>
    if Sight.isNumber text then .ok ([.literal ("-" ++ text)], { scan with rest })
    else .error (scan.fault "expected literal")
  | _ => .error (scan.fault "expected literal")

/-- A bracketed part whose inside is read by the given reader. -/
def within (delimiter : Delimiter) (inside : Reader) : Reader := fun scan =>
  match scan.rest with
  | .opening found :: rest =>
    if found = delimiter then
      match inside { scan with rest } with
      | .ok (parts, after) =>
        match after.rest with
        | .closing _ :: rest => .ok ([.group delimiter parts], { after with rest })
        | left =>
          let stray := after.stray.or (some delimiter)
          .ok ([.group delimiter parts], { after with rest := Token.afterClosing 0 left, stray })
      | .error fault => .error fault
    else .error (scan.fault ("expected " ++ (Sight.group delimiter).label))
  | _ => .error (scan.fault ("expected " ++ (Sight.group delimiter).label))

/-- A bracketed part of any kind whose tokens are kept as they are. -/
def anyGroup : Reader := fun scan =>
  match scan.rest with
  | .opening delimiter :: rest =>
    .ok ([.group delimiter [.verbatim (Token.beforeClosing 0 rest)]],
      { scan with rest := Token.afterClosing 0 rest })
  | _ => .error (scan.fault "expected delimiter")

/-- All that is left in the innermost bracket, as it is written. -/
def remainder : Reader := fun scan =>
  let taken := Token.beforeClosing 0 scan.rest
  .ok ([.verbatim taken], { scan with rest := scan.rest.drop taken.length })

/-- Reads again and again, at most so many times, until the test holds. -/
def repeatTimes : Nat → (Scan → Bool) → Reader → Reader
  | 0, _, _ => pass
  | times + 1, done, reader => choose done pass (reader ++ repeatTimes times done reader)

/-- A reader that is given as many steps as the text has tokens, and one more. -/
def stepped (reader : Nat → Reader) : Reader := fun scan =>
  reader (scan.size + 1) scan

/-- Reads again and again until the test holds. -/
def repeatUntil (done : Scan → Bool) (reader : Reader) : Reader :=
  stepped fun times => repeatTimes times done reader

/-- Reads as long as the test holds. -/
def repeatWhile (more : Scan → Bool) (reader : Reader) : Reader :=
  repeatUntil (fun scan => !more scan) reader

/-- Items with a separator between them, as long as the test does not say that they are over. -/
def separated (done : Scan → Bool) (separator item : Reader) : Reader :=
  repeatUntil done (item ++ choose done pass separator)

/-- Items with plus signs between them; an item follows a plus sign only if the test says so. -/
def sumTimes : Nat → (Scan → Bool) → Reader → Reader
  | 0, _, _ => pass
  | times + 1, more, item =>
    item ++ ifSees (.symbol "+") (symbol "+" ++ choose more (sumTimes times more item) pass)

/-- Items with plus signs between all of them, until the test says that they are over. -/
def strictSum (done : Scan → Bool) (item : Reader) : Reader :=
  separated done (symbol "+") item

/-- Items with plus signs between them; an item follows a plus sign only if the test says so. -/
def sum (more : Scan → Bool) (item : Reader) : Reader :=
  stepped fun times => sumTimes times more item

/-- Items with commas between them up to the end of the innermost bracket. -/
def commas (item : Reader) : Reader :=
  separated (·.atEnd) (symbol ",") item

/-- One of the alternatives that an expectation can name. -/
structure Choice where
  sight : Sight
  /-- What must hold besides the sight. -/
  also : Scan → Bool
  reader : Reader

/-- The alternative that is taken whenever its sight comes next. -/
def Choice.of (sight : Sight) (reader : Reader) : Choice :=
  ⟨sight, fun _ => true, reader⟩

/--
The reader of the first alternative that is possible where the scan looks. If there is none, the
fault names all those whose sight is not there, after the ones given.
-/
def pick : List String → List Choice → Scan → Reader
  | missed, [], look => fun _ => .error (look.fault (Fault.expectation missed))
  | missed, choice :: choices, look =>
    if look.sees choice.sight then
      if choice.also look then choice.reader else pick missed choices look
    else pick (missed ++ [choice.sight.label]) choices look

/-- The reader of the first alternative that is possible, when others have been missed already. -/
def oneOfAfter (missed : List String) (choices : List Choice) : Reader := fun scan =>
  pick missed choices scan scan

/-- The reader of the first alternative that is possible. -/
def oneOf (choices : List Choice) : Reader :=
  oneOfAfter [] choices

/-- Looks behind what the first reader would take, and chooses by it how to read from here. -/
def ahead (skipped : Reader) (next : Scan → Reader) : Reader := fun scan =>
  match skipped scan with
  | .ok (_, look) => next look scan
  | .error fault => .error fault

/-- Reads a whole text, of which nothing may be left. -/
def readAll (reader : Reader) (tokens : List Token) : Except Fault (List Tree) :=
  match reader (Scan.start tokens) with
  | .error fault => .error fault
  | .ok (trees, scan) =>
    match scan.stray with
    | some delimiter => .error (.leftoverIn delimiter)
    | none => if scan.rest.isEmpty then .ok trees else .error .leftover

end Reader

end FluentGen
