import FluentGen.Toml.Number
import FluentGen.Toml.Value

/-!
# Keys and values of a document

The first character of a value decides what it can be. Values nest only to a limited depth.
-/

namespace FluentGen.Toml

open Reader

/-- A character of a key without quotes. -/
def isBare (c : Char) : Bool :=
  c.isAlphanum || c = '-' || c = '_'

/-- The depth at which neither keys nor values may nest any more. -/
def depthLimit : Nat :=
  80

namespace Key

/-- A part of a key between dots. -/
def part : Reader Key := do
  blanks
  let (text, span) ← withSpan (Quoted.basic <|> Quoted.literal <|> takeWhileOne isBare)
  blanks
  pure ⟨String.ofList text, span⟩

/-- The parts of a key, the last of which names the value. -/
def path : Reader (List Key × Key) :=
  check (fun parts =>
    match parts.getLast? with
    | some last => if parts.length < depthLimit then .ok (parts.dropLast, last) else .error .tooDeep
    | none => .error .tooDeep)
    (label .key (separatedOne (exactly ['.']) part))

end Key

/-- What a message expects in place of an unknown value. -/
def quotes : List String :=
  ["`\x22`", "`'`"]

/-- A word that is a value. A word that is not quite it may be a string without its quotes. -/
def word {α : Type} (reader : Reader α) : Reader α :=
  expecting quotes (label .string reader)

/-- A key with its value, up to what follows the value. -/
def binding {α : Type} (value : Reader Node) (after : Reader α) :
    Reader (List Key × Key × Node) := do
  let (path, key) ← Key.path
  commit do
    expecting ["`.`", "`=`"] (exactly ['='])
    blanks
    let node ← value
    discard after
    pure (path, key, node)

/-- An array of values. -/
def array (value : Reader Node) : Reader Node := do
  let (elements, span) ← withSpan do
    exactly ['[']
    let elements ← commit do
      let elements ← separated (exactly [',']) do
        space
        let node ← value
        space
        pure node
      unless elements.isEmpty do
        discard (optional (exactly [',']))
      space
      pure elements
    expecting ["`]`"] (label .array (commit (exactly [']'])))
    pure elements
  pure (.array elements span)

/-- A table in braces. -/
def inlineTable (value : Reader Node) : Reader Node := do
  let (content, span) ← withSpan do
    exactly ['\x7b']
    let content ← commit (check
      (fun bindings => bindings.foldlM (fun content (path, key, node) =>
        content.add .braces none path key node) (Table.empty .braces none))
      (do
        let bindings ← separated (exactly [',']) (binding value blanks)
        blanks
        pure bindings))
    expecting ["`\x7d`"] (label .inlineTable (commit (exactly ['\x7d'])))
    pure content
  pure (.table { content with span })

/-- A value without parts. -/
def scalar (reader : Reader Scalar) : Reader Node :=
  (fun (value, span) => .scalar value span) <$> withSpan reader

/-- A number, a date or a time. -/
def numeric : Reader Scalar :=
  Scalar.dateTime <$> dateTime <|> Scalar.float <$> float <|> Scalar.integer <$> integer

/-- A value that contains others, unless nothing may nest at this depth. -/
def nested (container : Reader Node → Reader Node) : Option (Reader Node) → Reader Node
  | some value => container value
  | none => fun cursor => .failed (.ofCause cursor.offset .tooDeep)

/-- A value with the given reader for values inside it. -/
def valueAround (inside : Option (Reader Node)) : Reader Node := do
  match ← next? with
  | none => decline
  | some c =>
    if c = '\x22' ∨ c = '\'' then scalar (.string <$> string)
    else if c = '[' then nested array inside
    else if c = '\x7b' then nested inlineTable inside
    else if c = '+' ∨ c = '-' ∨ isDigit c then scalar numeric
    else if c = '_' then expecting ["leading digit"] (scalar (.integer <$> integer))
    else if c = '.' then expecting ["leading digit"] (scalar (.float <$> float))
    else if c = 't' then
      scalar (word (commit do exactly ['t', 'r', 'u', 'e']; pure (.boolean true)))
    else if c = 'f' then
      scalar (word (commit do exactly ['f', 'a', 'l', 's', 'e']; pure (.boolean false)))
    else if c = 'i' then scalar (word (.float <$> Float.infinite false))
    else if c = 'n' then scalar (word (.float <$> Float.notANumber))
    else word decline

/-- A value at most so many levels deep. -/
def valueWithin : Nat → Reader Node
  | 0 => valueAround none
  | depth + 1 => valueAround (some (valueWithin depth))

/-- A value. -/
def value : Reader Node :=
  valueWithin (depthLimit - 1)

end FluentGen.Toml
