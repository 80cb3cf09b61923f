import FluentGen.Toml.Fault

/-!
# Readers of a document

A reader takes characters off the front of a text. It accepts, or it declines and something else
may be tried, or it fails for good. A fault stays where reading stopped, which is not always where
the reader began.
-/

namespace FluentGen.Toml

/-- A place in a document, counted in bytes, with all that follows it. -/
structure Cursor where
  offset : Nat
  rest : List Char

/-- What a reader says about a text. -/
inductive Outcome (α : Type) where
  | accepted (value : α) (next : Cursor)
  | declined (fault : Fault)
  | failed (fault : Fault)

/-- A reader of values. -/
def Reader (α : Type) : Type :=
  Cursor → Outcome α

namespace Reader

variable {α β σ : Type}

instance : Monad Reader where
  pure value := fun cursor => .accepted value cursor
  bind first next := fun cursor =>
    match first cursor with
    | .accepted value after => next value after
    | .declined fault => .declined fault
    | .failed fault => .failed fault

/-- Declines everything. -/
def decline : Reader α :=
  fun cursor => .declined (.bare cursor.offset)

/-- Tries the second reader if the first one declines. -/
def orElse (first : Reader α) (second : Unit → Reader α) : Reader α :=
  fun cursor =>
    match first cursor with
    | .declined _ => second () cursor
    | outcome => outcome

instance : OrElse (Reader α) where
  orElse := orElse

/-- Changes the fault of a reader. -/
def mapFault (change : Fault → Fault) (reader : Reader α) : Reader α :=
  fun cursor =>
    match reader cursor with
    | .accepted value after => .accepted value after
    | .declined fault => .declined (change fault)
    | .failed fault => .failed (change fault)

/-- Names the construct that a reader reads. -/
def label (construct : Construct) (reader : Reader α) : Reader α :=
  reader.mapFault (Fault.label construct)

/-- Says what a reader expects. -/
def expecting (expected : List String) (reader : Reader α) : Reader α :=
  reader.mapFault (Fault.expecting expected)

/-- Fails where a reader declines. -/
def commit (reader : Reader α) : Reader α :=
  fun cursor =>
    match reader cursor with
    | .declined fault => .failed fault
    | outcome => outcome

/-- Reads without going on. Its faults are at the place where it begins. -/
def peek (reader : Reader α) : Reader α :=
  fun cursor =>
    match reader cursor with
    | .accepted value _ => .accepted value cursor
    | .declined fault => .declined (fault.moveTo cursor.offset)
    | .failed fault => .failed (fault.moveTo cursor.offset)

/-- Reads something that may be missing. -/
def optional (reader : Reader α) : Reader (Option α) :=
  fun cursor =>
    match reader cursor with
    | .accepted value after => .accepted (some value) after
    | .declined _ => .accepted none cursor
    | .failed fault => .failed fault

/-- Declines, where the reader began, a value that is not acceptable. -/
def check (accept : α → Except Cause β) (reader : Reader α) : Reader β :=
  fun cursor =>
    match reader cursor with
    | .accepted value after =>
      match accept value with
      | .ok result => .accepted result after
      | .error cause => .declined (.ofCause cursor.offset cause)
    | .declined fault => .declined fault
    | .failed fault => .failed fault

/-- Fails, where the reader began, on a value that is not acceptable. -/
def demand (accept : α → Except Cause β) (reader : Reader α) : Reader β :=
  fun cursor =>
    match reader cursor with
    | .accepted value after =>
      match accept value with
      | .ok result => .accepted result after
      | .error cause => .failed (.ofCause cursor.offset cause)
    | .declined fault => .declined fault
    | .failed fault => .failed fault

/-- The next character, which is not taken. -/
def next? : Reader (Option Char) :=
  fun cursor => .accepted cursor.rest.head? cursor

/-- One character of a class. -/
def char (accept : Char → Bool) : Reader Char :=
  fun cursor =>
    match cursor.rest with
    | c :: rest =>
      if accept c then .accepted c ⟨cursor.offset + c.utf8Size, rest⟩
      else .declined (.bare cursor.offset)
    | [] => .declined (.bare cursor.offset)

/-- The given characters. -/
def exactly (text : List Char) : Reader Unit :=
  fun cursor =>
    if text.isPrefixOf cursor.rest then
      .accepted () ⟨cursor.offset + byteLength text, cursor.rest.drop text.length⟩
    else .declined (.bare cursor.offset)

/-- As many characters of a class as there are. -/
def takeWhile (accept : Char → Bool) : Reader (List Char) :=
  fun cursor =>
    let taken := cursor.rest.takeWhile accept
    .accepted taken ⟨cursor.offset + byteLength taken, cursor.rest.drop taken.length⟩

/-- At least one character of a class. -/
def takeWhileOne (accept : Char → Bool) : Reader (List Char) :=
  fun cursor =>
    if cursor.rest.head?.any accept then takeWhile accept cursor
    else .declined (.bare cursor.offset)

/-- The given number of characters of a class. -/
def takeExactly (count : Nat) (accept : Char → Bool) : Reader (List Char) :=
  fun cursor =>
    let taken := (cursor.rest.take count).takeWhile accept
    if taken.length = count then
      .accepted taken ⟨cursor.offset + byteLength taken, cursor.rest.drop taken.length⟩
    else .declined (.bare cursor.offset)

/-- Nothing, at the end of the document. -/
def atEnd : Reader Unit :=
  fun cursor =>
    match cursor.rest with
    | [] => .accepted () cursor
    | _ => .declined (.bare cursor.offset)

/-- Takes a step again and again until it declines or takes nothing. -/
def iterate (step : σ → Reader σ) (state : σ) : Reader σ :=
  fun cursor =>
    match step state cursor with
    | .accepted state after =>
      if after.rest.length < cursor.rest.length then iterate step state after
      else .accepted state after
    | .declined _ => .accepted state cursor
    | .failed fault => .failed fault
termination_by cursor => cursor.rest.length

/-- As many values as there are. -/
def many (reader : Reader α) : Reader (List α) :=
  List.reverse <$> iterate (fun values => do pure ((← reader) :: values)) []

/-- At least one value, with separators between them. -/
def separatedOne (separator : Reader Unit) (reader : Reader α) : Reader (List α) := do
  let first ← reader
  let rest ← many (do separator; reader)
  pure (first :: rest)

/-- Any number of values with separators between them. -/
def separated (separator : Reader Unit) (reader : Reader α) : Reader (List α) := do
  pure ((← optional (separatedOne separator reader)).getD [])

/-- A value with the characters that it is read from. -/
def withText (reader : Reader α) : Reader (α × List Char) :=
  fun cursor =>
    match reader cursor with
    | .accepted value after =>
      .accepted (value, cursor.rest.take (cursor.rest.length - after.rest.length)) after
    | .declined fault => .declined fault
    | .failed fault => .failed fault

/-- The characters that a reader takes. -/
def textOf (reader : Reader α) : Reader (List Char) :=
  Prod.snd <$> reader.withText

/-- A value with the stretch that it is read from. -/
def withSpan (reader : Reader α) : Reader (α × Span) :=
  fun cursor =>
    match reader cursor with
    | .accepted value after => .accepted (value, ⟨cursor.offset, after.offset⟩) after
    | .declined fault => .declined fault
    | .failed fault => .failed fault

end Reader

end FluentGen.Toml
