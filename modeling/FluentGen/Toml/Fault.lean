/-!
# Faults of a document

Why a TOML document cannot be read. A fault names the innermost construct that it is in, what was
expected there, and a cause if the text was well formed but its meaning was not acceptable.
-/

namespace FluentGen.Toml

/-- A stretch of a document, in bytes. -/
structure Span where
  start : Nat
  stop : Nat
deriving DecidableEq

/-- The length of a text in bytes. -/
def byteLength : List Char → Nat
  | [] => 0
  | c :: rest => c.utf8Size + byteLength rest

/-- A part of a document that a message can name. -/
inductive Construct where
  | key
  | tableHeader
  | string
  | basicString
  | literalString
  | multilineBasicString
  | multilineLiteralString
  | escapeSequence
  | shortCode
  | longCode
  | integer
  | hexadecimal
  | octal
  | binary
  | float
  | dateTime
  | time
  | timeOffset
  | array
  | inlineTable
deriving DecidableEq

/-- The name of a construct. -/
def Construct.label : Construct → String
  | key => "key"
  | tableHeader => "table header"
  | string => "string"
  | basicString => "basic string"
  | literalString => "literal string"
  | multilineBasicString => "multiline basic string"
  | multilineLiteralString => "multiline literal string"
  | escapeSequence => "escape sequence"
  | shortCode => "unicode 4-digit hex code"
  | longCode => "unicode 8-digit hex code"
  | integer => "integer"
  | hexadecimal => "hexadecimal integer"
  | octal => "octal integer"
  | binary => "binary integer"
  | float => "floating-point number"
  | dateTime => "date-time"
  | time => "time"
  | timeOffset => "time offset"
  | array => "array"
  | inlineTable => "inline table"

/-- Why a well-formed part of a document is not acceptable. -/
inductive Cause where
  /-- A key is there already, in the table that is named, if one is. -/
  | duplicateKey (key : String) (table : Option (List String))
  /-- A path leads through something that is no table. -/
  | notATable (path : List String) (kind : String)
  | outOfRange
  | tooDeep
  | tooLarge
  | tooSmall
deriving DecidableEq

/-- The wording of a cause. -/
def Cause.message : Cause → String
  | duplicateKey key none => s!"duplicate key `{key}`"
  | duplicateKey key (some []) => s!"duplicate key `{key}` in document root"
  | duplicateKey key (some table) =>
    let path := ".".intercalate table
    s!"duplicate key `{key}` in table `{path}`"
  | notATable path kind =>
    let path := ".".intercalate path
    s!"dotted key `{path}` attempted to extend non-table type ({kind})"
  | outOfRange => "value is out of range"
  | tooDeep => "recursion limit exceeded"
  | tooLarge => "number too large to fit in target type"
  | tooSmall => "number too small to fit in target type"

/-- A fault at a place of a document, counted in bytes. -/
structure Fault where
  offset : Nat
  construct : Option Construct
  expected : List String
  cause : Option Cause
deriving DecidableEq

namespace Fault

/-- A fault about which nothing is known but its place. -/
def bare (offset : Nat) : Fault :=
  ⟨offset, none, [], none⟩

/-- A fault with a cause. -/
def ofCause (offset : Nat) (cause : Cause) : Fault :=
  ⟨offset, none, [], some cause⟩

/-- Says which construct a fault is in, unless an inner one is known. -/
def label (construct : Construct) (fault : Fault) : Fault :=
  { fault with construct := fault.construct.or (some construct) }

/-- Adds to what was expected. -/
def expecting (expected : List String) (fault : Fault) : Fault :=
  { fault with expected := fault.expected ++ expected }

/-- Moves a fault to another place. -/
def moveTo (offset : Nat) (fault : Fault) : Fault :=
  { fault with offset }

/-- The wording of a fault, one line for each thing that is known about it. -/
def message (fault : Fault) : String :=
  let invalid := fault.construct.toList.map ("invalid " ++ ·.label)
  let expected := if fault.expected.isEmpty then []
    else ["expected " ++ ", ".intercalate fault.expected]
  let cause := fault.cause.toList.map Cause.message
  "\n".intercalate (invalid ++ expected ++ cause)

end Fault

end FluentGen.Toml
