import FluentGen.Decimal.Binary64
import FluentGen.Toml.Fault

/-!
# Values and tables of a document

A table remembers how it was opened, since that decides which later keys may add to it.
-/

namespace FluentGen.Toml

/-- A value without parts. -/
inductive Scalar where
  | string (text : String)
  | integer (value : Int)
  | float (value : Binary64)
  | boolean (value : Bool)
  | dateTime (text : String)
deriving DecidableEq

/-- What a message calls a value. -/
def Scalar.kind : Scalar → String
  | string _ => "string"
  | integer _ => "integer"
  | float _ => "float"
  | boolean _ => "boolean"
  | dateTime _ => "datetime"

/-- A key of a table. -/
structure Key where
  text : String
  span : Span
deriving DecidableEq

/-- What opened a table. -/
inductive Origin where
  /-- A header of its own, or the document itself. -/
  | header
  /-- The header of a table inside it. -/
  | implied
  /-- A key with dots. -/
  | dotted
  /-- Braces. -/
  | braces
deriving DecidableEq

/-- A table of values of a type. -/
structure Table (ν : Type) where
  origin : Origin
  entries : List (Key × ν)
  /-- Where it stands, if it is written down anywhere. -/
  span : Option Span

/-- A value of a document. -/
inductive Node where
  | scalar (value : Scalar) (span : Span)
  | array (elements : List Node) (span : Span)
  | table (content : Table Node)
  /-- The tables under headers with double brackets. -/
  | tables (elements : List (Table Node))

/-- The stretch from the first table to the last one. -/
def Table.spanOf {ν : Type} (elements : List (Table ν)) : Option Span := do
  let first ← elements.head?.bind Table.span
  let last ← elements.getLast?.bind Table.span
  pure ⟨first.start, last.stop⟩

namespace Node

/-- Where a value stands. -/
def span? : Node → Option Span
  | scalar _ span => some span
  | array _ span => some span
  | table content => content.span
  | tables elements => Table.spanOf elements

/-- What a message calls a value. -/
def kind : Node → String
  | scalar value _ => value.kind
  | array .. => "array"
  | table content => if content.origin = .braces then "inline table" else "table"
  | tables _ => "array of tables"

end Node

namespace Table

variable {ν : Type}

/-- A table with nothing in it. -/
def empty (origin : Origin) (span : Option Span) : Table ν :=
  ⟨origin, [], span⟩

/-- The value under a key. -/
def get? (content : Table ν) (key : String) : Option ν :=
  (content.entries.find? fun entry => entry.1.text = key).map Prod.snd

/-- Puts a value under a key, behind the other ones if the key is new. -/
def put (content : Table ν) (key : Key) (value : ν) : Table ν :=
  let entries :=
    if (content.get? key.text).isSome then
      content.entries.map fun entry =>
        if entry.1.text = key.text then (entry.1, value) else entry
    else content.entries ++ [(key, value)]
  { content with entries }

/-- Takes a key away. -/
def erase (content : Table ν) (key : String) : Table ν :=
  { content with entries := content.entries.filter fun entry => entry.1.text ≠ key }

end Table

/-- How a path of keys comes to lead through tables. -/
inductive Route where
  /-- The path of a header. -/
  | header
  /-- The dots of a key in a line. -/
  | line
  /-- The dots of a key between braces. -/
  | braces
deriving DecidableEq

/-- What opens the tables on the way that are not there yet. -/
def Route.origin : Route → Origin
  | header => .implied
  | line => .dotted
  | braces => .dotted

namespace Node

/--
Changes the table that a path has come to. A key with dots must not add to a table that has been
written down as a whole, and nothing outside braces adds to a table in braces.
-/
def enter (route : Route) (path : List String)
    (change : Table Node → Except Cause (Table Node)) : Node → Except Cause Node
  | table content =>
    match route, content.origin with
    | .header, .braces | .line, .braces => .error (.notATable path "inline table")
    | .line, .header | .braces, .braces =>
      .error (.duplicateKey (path.getLast?.getD "") none)
    | _, _ => table <$> change content
  | tables elements =>
    match elements.getLast? with
    | some last => (fun changed => tables (elements.dropLast ++ [changed])) <$> change last
    | none => .error (.notATable path "array of tables")
  | node => .error (.notATable path node.kind)

end Node

namespace Table

/-- Changes the table at the end of a path and opens the tables on the way. -/
def descend (route : Route) (change : Table Node → Except Cause (Table Node)) :
    List String → List Key → Table Node → Except Cause (Table Node)
  | _, [], content => change content
  | before, key :: rest, content => do
    let path := before ++ [key.text]
    let further := descend route change path rest
    match content.get? key.text with
    | some node => content.put key <$> node.enter route path further
    | none => (fun opened => content.put key (.table opened)) <$>
        further (empty route.origin none)

/--
Adds a value under a path. Keys with dots and keys without them must not be mixed in the table that
the value comes to stand in; a repeated key is reported with the given table.
-/
def add (route : Route) (reported : Option (List String)) (path : List Key) (key : Key)
    (value : Node) (content : Table Node) : Except Cause (Table Node) :=
  descend route (fun target =>
    if (target.origin == .dotted) == path.isEmpty then .error (.duplicateKey key.text none)
    else if (target.get? key.text).isSome then .error (.duplicateKey key.text reported)
    else .ok (target.put key value)) [] path content

end Table

end FluentGen.Toml
