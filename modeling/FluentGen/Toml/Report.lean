import FluentGen.Toml.Fault

/-!
# Reports about a document

A report shows the line that a message is about and marks the place in it.
-/

namespace FluentGen.Toml

namespace Report

/-- The characters before a place, which is counted in bytes, and the ones after it. -/
def splitBytes : Nat → List Char → List Char × List Char
  | 0, text => ([], text)
  | _, [] => ([], [])
  | n + 1, c :: rest =>
    let (before, after) := splitBytes (n + 1 - c.utf8Size) rest
    (c :: before, after)

/-- The lines of a text. -/
def lines : List Char → List (List Char)
  | [] => [[]]
  | '\n' :: rest => [] :: lines rest
  | c :: rest =>
    match lines rest with
    | line :: others => (c :: line) :: others
    | [] => [[c]]

/--
The line and the column of a place, both from zero. The column counts characters, but in front of a
character of several bytes it counts bytes. The end of a text belongs to the line of its last
character.
-/
def position (before after : List Char) : Nat × Nat :=
  match after with
  | c :: _ =>
    let number := (lines before).length - 1
    let line := (lines before).getLast?.getD []
    (number, if c.utf8Size = 1 then line.length else byteLength line)
  | [] =>
    let line := (lines before.dropLast).getLast?.getD []
    ((lines before.dropLast).length - 1, if before.isEmpty then 0 else line.length + 1)

end Report

open Report

/-- A message about a stretch of a document. -/
def report (document : String) (span : Span) (message : String) : String :=
  let text := document.toList
  let (before, after) := splitBytes span.start text
  let (line, column) := position before after
  let content := (lines text)[line]?.getD []
  let number := toString (line + 1)
  let margin := "".pushn ' ' (number.length + 1) ++ "|"
  let shown := min (span.stop - span.start) (byteLength content - column)
  let marks := "".pushn ' ' (column + 1) ++ "".pushn '^' (max shown 1)
  "\n".intercalate
    [s!"TOML parse error at line {line + 1}, column {column + 1}", margin,
      number ++ " | " ++ String.ofList content, margin ++ marks, message, ""]

/-- The stretch that a fault is about: the character at its place. -/
def Fault.span (document : String) (fault : Fault) : Span :=
  let (_, after) := splitBytes fault.offset document.toList
  ⟨fault.offset, fault.offset + byteLength (after.take 1)⟩

end FluentGen.Toml
