import FluentGen.Toml.Reader

/-!
# Blanks and comments of a document

What may stand between the values of a document, and where a line ends.
-/

namespace FluentGen.Toml

open Reader

/-- Blanks inside a line. -/
def isBlank (c : Char) : Bool :=
  c = ' ' || c = '\t'

/-- Characters that may stand in a line. -/
def isVisible (c : Char) : Bool :=
  c = '\t' || (c.toNat ≥ 0x20 && c.toNat ≠ 0x7f)

/-- Blanks inside a line, if any. -/
def blanks : Reader Unit :=
  discard (takeWhile isBlank)

/-- The end of a line. Where there is none, reading stops behind the first character. -/
def newline : Reader Unit := do
  match ← char fun _ => true with
  | '\n' => pure ()
  | '\r' => exactly ['\n']
  | _ => decline

/-- A comment, up to the end of its line. -/
def comment : Reader Unit := do
  exactly ['#']
  discard (takeWhile isVisible)

/-- The end of a line or of the document. -/
def lineEnd : Reader Unit :=
  newline <|> atEnd

/-- What may stand behind a value or a header. -/
def lineRest : Reader Unit := do
  blanks
  discard (optional comment)
  lineEnd

/-- A line with nothing but blanks and a comment, up to what stands on a later line. -/
def emptyLines : Nat → Reader Unit
  | 0 => pure ()
  | times + 1 => do
    blanks
    match ← next? with
    | some '#' => do
      comment
      newline
      emptyLines times
    | some '\n' | some '\r' => do
      newline
      emptyLines times
    | _ => pure ()

/-- Blanks, ends of lines and comments, if any. A line that is begun here has to end. -/
def space : Reader Unit := fun cursor =>
  emptyLines (cursor.rest.length + 1) cursor

end FluentGen.Toml
