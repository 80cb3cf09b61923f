import FluentGen.Layout.Laid

/-!
# Tokens without a meaning

How the tokens of macro calls and of the arguments of attributes are laid out. Since nothing is
known about what they mean, only the neighbours of a token say whether a space stands before it.
-/

namespace FluentGen.Layout

open Piece

/-! ## Macro calls -/

/-- What the last token was, as far as it decides on the space before the next one. -/
inductive Neighbour where
  | start
  | dollar
  | dollarCrate
  | dollarWord
  | dollarWordColon
  | dollarParen
  | dollarParenSeparator
  | pound
  | poundBang
  | dot
  | colon
  | colons
  | word
  | wordBang
  | brackets
  | other
deriving DecidableEq

/-- The words that are set off by spaces from punctuation. -/
def spacedWords : List String :=
  ["as", "async", "await", "box", "break", "const", "continue", "crate", "dyn", "else", "enum",
    "extern", "fn", "for", "if", "impl", "in", "let", "loop", "macro", "match", "mod", "move",
    "mut", "pub", "ref", "return", "static", "struct", "trait", "type", "unsafe", "use", "where",
    "while", "yield"]

/-- Whether a space stands before a token by itself, and what the token is for the next one. -/
def loneSpacing (matcher : Bool) (before : Neighbour) (token : Token) : Bool × Neighbour :=
  match token with
  | .opening .brace => (true, .other)
  | .opening _ => (true, .brackets)
  | .ident name =>
    if name.raw || name.text ∉ spacedWords then (before ≠ .dot && before ≠ .colons, .word)
    else (true, .other)
  | .literal words =>
    (before ≠ .dot, if words.toList.getLast? = some '.' then .other else .word)
  | .punct ',' _ => (false, .other)
  | .punct ';' _ => (false, .other)
  | .punct '.' _ =>
    if matcher then (true, .other) else
    (before ≠ .word && before ≠ .brackets, .dot)
  | .punct ':' true => (before ≠ .word && before ≠ .dollarCrate, .colon)
  | .punct '$' _ => (true, .dollar)
  | .punct '#' _ => (true, .pound)
  | _ => (true, .other)

/--
Whether a space stands before a token, and what the token is for the next one; `matcher` says
whether the tokens are the pattern of a macro.
-/
def spacing (matcher : Bool) (before : Neighbour) (token : Token) : Bool × Neighbour :=
  match before, token with
  | .dollar, .ident name =>
    (false, if matcher then .dollarWord else if name = .plain "crate" then .dollarCrate else .other)
  | .dollarWord, .punct ':' false => (false, .dollarWordColon)
  | .dollarWordColon, .ident _ => (false, .other)
  | .dollarParen, .punct c joint =>
    if (c = '+' ∨ c = '*' ∨ c = '?') ∧ joint = false then (false, .other)
    else (false, if joint then .dollarParen else .dollarParenSeparator)
  | .dollarParen, .ident _ => (false, .dollarParenSeparator)
  | .dollarParen, .literal _ => (false, .dollarParenSeparator)
  | .dollarParenSeparator, .punct '+' _ => (false, .other)
  | .dollarParenSeparator, .punct '*' _ => (false, .other)
  | .pound, .punct '!' _ => (false, .poundBang)
  | .dollar, .opening .paren => (false, .dollarParen)
  | .pound, .opening .bracket => (false, .other)
  | .poundBang, .opening .bracket => (false, .other)
  | .word, .opening .paren => (false, .brackets)
  | .word, .opening .bracket => (false, .brackets)
  | .word, .punct '!' false => (false, .wordBang)
  | .wordBang, .opening .paren => (false, .other)
  | .wordBang, .opening .bracket => (false, .other)
  | .colon, .punct ':' _ => (false, .colons)
  | before, token => loneSpacing matcher before token

/-- Whether the next token stands close to this one whatever it is. -/
def staysClose : Token → Bool
  | .punct c joint => joint || c == '$'
  | _ => false

/--
The tokens of a macro call. The neighbours around the open brackets are given, innermost first;
after a bracket closes, the text goes on as it would have after the bracket opened.
-/
def macroTokens (matcher : Bool) :
    List Neighbour → Neighbour → Bool → List Token → List Piece
  | _, _, _, [] => []
  | stack, before, close, token :: rest =>
    match token with
    | .closing delimiter =>
      let gap := if delimiter = .brace ∧ before ≠ .start then [space] else []
      gap ++ text delimiter.closing ::
        macroTokens matcher stack.tail (stack.headD .other) false rest
    | .opening delimiter =>
      let (spaced, next) := spacing matcher before token
      let gap := if !close && spaced then [space] else []
      let inner := match delimiter, rest with
        | .brace, .closing _ :: _ => []
        | .brace, _ => [space]
        | _, _ => []
      gap ++ text delimiter.opening :: inner ++
        macroTokens matcher (next :: stack) .start true rest
    | token =>
      let (spaced, next) := spacing matcher before token
      let gap := if close then [] else if spaced then [space] else match token with
        | .punct '.' _ => [zero]
        | _ => []
      gap ++ text token.spelling :: macroTokens matcher stack next (staysClose token) rest

/-- Tokens inside brackets, which stand on lines of their own if `edge` ends the line. -/
def tokenBox (matcher : Bool) (edge : Piece) (tokens : List Token) : List Piece :=
  if tokens.isEmpty then []
  else inset (edge :: inconsistent 0 (macroTokens matcher [] .start true tokens) ++ [edge])

/-- The brackets of a macro call with its tokens. -/
def macroBrackets (delimiter : Delimiter) (tokens : List Token) : List Piece :=
  match delimiter with
  | .brace => [text " \x7b"] ++ tokenBox false hard tokens ++ [text "\x7d"]
  | delimiter =>
    [text delimiter.opening] ++ tokenBox false zero tokens ++ [text delimiter.closing]

/-! ## Macros by example -/

/-- What comes next in a macro that is given by rules. -/
inductive RulePart where
  | pattern
  | arrow
  | expansion
  | separator
deriving DecidableEq

/-- The rules of a macro, or nothing if they are none; there are at most so many parts. -/
def ruleLines? : Nat → RulePart → List Token → Option (List Piece)
  | 0, _, _ => none
  | _ + 1, .pattern, [] => some []
  | _ + 1, .separator, [] => some [text ";", hard]
  | _ + 1, _, [] => some [hard]
  | count + 1, .pattern, .opening delimiter :: rest => do
    let lines ← ruleLines? count .arrow (Token.afterClosing 0 rest)
    pure ([text delimiter.opening] ++ tokenBox true zero (Token.beforeClosing 0 rest) ++
      [text delimiter.closing] ++ lines)
  | count + 1, .arrow, .punct '=' true :: .punct '>' false :: rest => do
    let lines ← ruleLines? count .expansion rest
    pure ([text " =", text ">"] ++ lines)
  | count + 1, .expansion, .opening _ :: rest => do
    let lines ← ruleLines? count .separator (Token.afterClosing 0 rest)
    pure ([text " \x7b", never] ++ tokenBox false hard (Token.beforeClosing 0 rest) ++
      [text "\x7d"] ++ lines)
  | count + 1, .separator, .punct ';' false :: rest => do
    let lines ← ruleLines? count .pattern rest
    pure ([text ";", hard] ++ lines)
  | _ + 1, _, _ => none

/-- A macro that is given by rules, if they are such. -/
def macroRules? (name : String) (tokens : List Token) : Option (List Piece) := do
  let lines ← ruleLines? (tokens.length + 1) .pattern tokens
  pure ([text "macro_rules! ", text name, text " \x7b"] ++
    consistent indent (outdent (hardIfMore :: lines)) ++ [text "\x7d"])

/-! ## Arguments of attributes -/

/-- What the last token in an attribute was. -/
inductive ArgumentEnd where
  | word
  | sign
  | lastComma
deriving DecidableEq

/-- A pair of brackets in an attribute around what is inside; a parenthesis may break the line. -/
def argumentBrackets (delimiter : Delimiter) (inside : List Piece) (last : ArgumentEnd) :
    List Piece :=
  let inside := if delimiter = .paren then
      let edge := if last = .lastComma then [] else [zero]
      consistent indent (outdent (zero :: inside ++ edge))
    else inside
  [text delimiter.opening] ++ inside ++ [text delimiter.closing]

/--
The arguments of an attribute up to the end of the innermost bracket, in at most so many steps, the
last token there, and what follows the bracket.
-/
def arguments : Nat → ArgumentEnd → List Token → List Piece × ArgumentEnd × List Token
  | 0, before, tokens => ([], before, tokens)
  | _ + 1, before, [] => ([], before, [])
  | _ + 1, before, .closing _ :: rest => ([], before, rest)
  | count + 1, _, .opening delimiter :: rest =>
    let (inside, last, rest) := arguments count .sign rest
    let (more, outcome, rest) := arguments count .sign rest
    (argumentBrackets delimiter inside last ++ more, outcome, rest)
  | count + 1, before, .punct c joint :: rest =>
    let isLast := rest.isEmpty || rest.head?.any fun token => match token with
      | .closing _ => true
      | _ => false
    let front := if before = .word ∧ c = '=' then [text " "] else []
    if c = ',' ∧ isLast = true then
      let (more, last, rest) := arguments count .lastComma rest
      (front ++ comma :: more, last, rest)
    else
      let behind := if c = '=' then [text " "] else if c = ',' then [space] else []
      let (more, last, rest) := arguments count .sign rest
      (front ++ text (Token.punct c joint).spelling :: behind ++ more, last, rest)
  | count + 1, before, token :: rest =>
    let front := if before = .word then [space] else []
    let (more, last, rest) := arguments count .word rest
    (front ++ text token.spelling :: more, last, rest)

/-- The brackets of an attribute with its arguments. -/
def argumentList (delimiter : Delimiter) (tokens : List Token) : List Piece :=
  let (inside, last, _) := arguments (tokens.length + 1) .sign tokens
  argumentBrackets delimiter inside last

end FluentGen.Layout
