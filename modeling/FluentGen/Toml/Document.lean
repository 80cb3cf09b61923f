import FluentGen.Text.Escape
import FluentGen.Toml.Grammar

/-!
# Documents

A document is a list of lines. A line opens a table, or puts a value into the table that was opened
last. Tables keep the order in which their keys come first, but a table that gets a header after
the ones inside it moves behind the other keys.
-/

namespace FluentGen.Toml

open Reader

/-- What has been read of a document, and the path of the table that is open. -/
structure Document where
  root : Table Node
  here : List Key

namespace Document

/-- A document in which nothing has been read. -/
def start : Document :=
  ⟨.empty .header none, []⟩

/-- Whether a key has to be quoted. -/
def isQuoted (key : String) : Bool :=
  key.isEmpty || !key.toList.all isBare

/-- How a character reads between double quotes. -/
def escaped (c : Char) : List Char :=
  match c with
  | '\x08' => ['\\', 'b']
  | '\t' => ['\\', 't']
  | '\n' => ['\\', 'n']
  | '\x0c' => ['\\', 'f']
  | '\r' => ['\\', 'r']
  | '\x22' => ['\\', '\x22']
  | '\\' => ['\\', '\\']
  | c =>
    if Quoted.isPlain c then [c]
    else
      let digits := (Text.hex c.toNat).map Char.toUpper
      ['\\', 'u'] ++ List.replicate (4 - digits.length) '0' ++ digits

/-- A key as a header shows it, with the quotes that need the fewest escapes. -/
def shown (key : String) : String :=
  let inside := key.toList
  if !isQuoted key then key
  else if inside.all Quoted.isPlain || !inside.all Quoted.isLiteral then
    String.ofList ('\x22' :: inside.flatMap escaped ++ ['\x22'])
  else String.ofList ('\'' :: inside ++ ['\''])

/-- The fault that a header repeats a key. -/
def repeated (path : List Key) (key : Key) : Cause :=
  .duplicateKey (shown key.text) (some (path.map Key.text))

/-- Opens the table of a header. A table that another header implied may get a header once. -/
def openTable (path : List Key) (key : Key) (span : Span) (document : Document) :
    Except Cause Document := do
  let root ← Table.descend .header (fun parent =>
    match parent.get? key.text with
    | none => .ok (parent.put key (.table (.empty .header (some span))))
    | some (.table content) =>
      if content.origin = .implied then
        .ok ((parent.erase key.text).put key
          (.table { content with origin := .header, span := some span }))
      else .error (repeated path key)
    | some _ => .error (repeated path key)) [] path document.root
  pure ⟨root, path ++ [key]⟩

/-- Opens a new table in an array of tables. -/
def openElement (path : List Key) (key : Key) (span : Span) (document : Document) :
    Except Cause Document := do
  let element := Table.empty .header (some span)
  let root ← Table.descend .header (fun parent =>
    match parent.get? key.text with
    | none => .ok (parent.put key (.tables [element]))
    | some (.tables elements) => .ok (parent.put key (.tables (elements ++ [element])))
    | some _ => .error (repeated path key)) [] path document.root
  pure ⟨root, path ++ [key]⟩

/-- Puts a value into the open table, which then reaches to the end of the value. -/
def bind (path : List Key) (key : Key) (node : Node) (document : Document) :
    Except Cause Document := do
  let root ← Table.descend .header (fun content =>
    let span := content.span.map fun span =>
      { span with stop := (node.span?.map Span.stop).getD span.stop }
    { content with span }.add .line (some (document.here.map Key.text)) path key node)
    [] document.here document.root
  pure { document with root }

/-- The rest of a line behind a value or a header. -/
def lineRest : Reader Unit :=
  expecting ["newline", "`#`"] Toml.lineRest

/-- A header between the given brackets. -/
def headerBetween (opening closing : List Char) : Reader ((List Key × Key) × Span) := do
  let header ← withSpan do
    exactly opening
    let path ← commit Key.path
    expecting ["`.`", "`" ++ String.ofList closing ++ "`"] (commit (exactly closing))
    pure path
  commit lineRest
  pure header

/-- A line that opens a table. -/
def header (document : Document) : Reader Document :=
  label .tableHeader do
    match ← peek (takeExactly 2 fun _ => true) with
    | ['[', '['] =>
      check (fun ((path, key), span) => document.openElement path key span)
        (headerBetween ['[', '['] [']', ']'])
    | _ =>
      check (fun ((path, key), span) => document.openTable path key span)
        (headerBetween ['['] [']'])

/-- A line that puts a value into a table. -/
def assignment (document : Document) : Reader Document :=
  check (fun (path, key, node) => document.bind path key node) (binding value lineRest)

/-- A line, with the blanks in front of the next one. -/
def line (document : Document) : Reader Document := do
  let document ← match ← next? with
    | none => decline
    | some '#' => commit do
      comment
      lineEnd
      pure document
    | some '[' => commit (header document)
    | some '\n' | some '\r' => do
      newline
      pure document
    | some _ => commit (assignment document)
  blanks
  pure document

/-- A whole document, behind a mark of its byte order if there is one. -/
def reader : Reader Document := do
  discard (optional (exactly ['\ufeff']))
  blanks
  let document ← iterate line start
  atEnd
  pure document

/-- The table that a text denotes. -/
def ofText (text : String) : Except Fault (Table Node) :=
  match reader ⟨0, text.toList⟩ with
  | .accepted document _ => .ok document.root
  | .declined fault => .error fault
  | .failed fault => .error fault

end Document

end FluentGen.Toml
