import FluentGen.Token.Basic

/-!
# Faults

Why a text is not what a reader expects, and the message that says so.
-/

namespace FluentGen

/-- The reason why reading fails. -/
inductive Fault where
  /-- The text has no tokens: a literal, a comment or a bracket is open, or a character is stray. -/
  | unreadable
  /-- Something is left after all that was expected. -/
  | leftover
  /-- Something is left before a closing bracket. -/
  | leftoverIn (delimiter : Delimiter)
  /-- The text or a bracket ends too early. -/
  | ended (message : String)
  /-- What stands there is not what the message asks for. -/
  | refused (message : String)
deriving DecidableEq

namespace Fault

/-- The wording of a fault. -/
def message : Fault → String
  | unreadable => "cannot parse string into token stream"
  | leftover => "unexpected token"
  | leftoverIn delimiter => s!"unexpected token, expected `{delimiter.closing}`"
  | ended message =>
    if message = "" then "unexpected end of input" else "unexpected end of input, " ++ message
  | refused message => if message = "" then "unexpected token" else message

/-- What is expected if it is one of several things. -/
def expectation : List String → String
  | [] => ""
  | [one] => "expected " ++ one
  | [one, other] => s!"expected {one} or {other}"
  | many => "expected one of: " ++ ", ".intercalate many

end Fault

end FluentGen
