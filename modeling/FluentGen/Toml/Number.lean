import FluentGen.Decimal.Binary64
import FluentGen.Toml.Quoted

/-!
# Numbers and dates of a document

Digits may be grouped by underscores, one at a time and between digits only. Integers have 64 bits;
floating-point numbers are rounded to the nearest one.
-/

namespace FluentGen.Toml

open Reader

/-- A decimal digit. -/
def isDigit (c : Char) : Bool :=
  c.isDigit

/-- Digits of a class after the first one, with underscores between them. -/
def moreDigits (accept : Char → Bool) : Reader Unit :=
  discard (many (char accept <|> do
    exactly ['_']
    expecting ["digit"] (commit (char accept))))

/-- Digits of a class, with underscores between them. -/
def digits (accept : Char → Bool) : Reader Unit := do
  discard (char accept)
  moreDigits accept

/-- A sign, if there is one. -/
def optionalSign : Reader (Option Char) :=
  optional (char fun c => c = '+' || c = '-')

/-- The number that digits with underscores denote. -/
def grouped (base : Nat) (text : List Char) : Nat :=
  numeral base (text.filter (· ≠ '_'))

namespace Integer

/-- An integer that fits into 64 bits. -/
def fit (value : Int) : Except Cause Int :=
  if 9223372036854775807 < value then .error .tooLarge
  else if value < -9223372036854775808 then .error .tooSmall
  else .ok value

/-- The characters of a decimal integer, which has no leading zeros. -/
def decimalText : Reader (List Char) :=
  label .integer (textOf do
    discard optionalSign
    (do discard (char fun c => isDigit c && c ≠ '0'); moreDigits isDigit) <|>
      discard (char isDigit))

/-- The value of a decimal integer. -/
def ofText (text : List Char) : Int :=
  match text with
  | '-' :: digits => -(grouped 10 digits : Int)
  | '+' :: digits => grouped 10 digits
  | digits => grouped 10 digits

/-- An integer in another base, behind its mark. -/
def based (mark : Char) (construct : Construct) (base : Nat) (accept : Char → Bool) :
    Reader Int :=
  demand (fun text => fit (grouped base text)) (label construct do
    exactly ['0', mark]
    commit (textOf (digits accept)))

end Integer

/-- An integer. -/
def integer : Reader Int := do
  match ← optional (peek (takeExactly 2 fun _ => true)) with
  | some ['0', 'x'] => Integer.based 'x' .hexadecimal 16 isHexDigit
  | some ['0', 'o'] => Integer.based 'o' .octal 8 fun c => '0' ≤ c && c ≤ '7'
  | some ['0', 'b'] => Integer.based 'b' .binary 2 fun c => c = '0' || c = '1'
  | _ => demand (fun text => Integer.fit (Integer.ofText text)) Integer.decimalText

namespace Float

/-- A floating-point number as it is written. -/
structure Parts where
  /-- The digits before the point, with a sign in front. -/
  whole : List Char
  decimals : List Char
  exponent : List Char

/-- The exponent of a floating-point number, with its sign. -/
def exponent : Reader (List Char) := do
  discard (char fun c => c = 'e' || c = 'E')
  textOf do
    discard optionalSign
    commit (digits isDigit)

/-- The digits behind the point. -/
def decimals : Reader (List Char) := do
  exactly ['.']
  expecting ["digit"] (commit (textOf (digits isDigit)))

/-- A number with a point, an exponent or both. -/
def parts : Reader Parts := do
  let whole ← Integer.decimalText
  (do pure ⟨whole, [], ← exponent⟩) <|> do
    let decimals ← decimals
    pure ⟨whole, decimals, (← optional exponent).getD []⟩

/-- The value of a floating-point number. -/
def Parts.value (parts : Parts) : Binary64 :=
  let decimals := parts.decimals.filter (· ≠ '_')
  let unsigned := parts.whole.filter isDigit
  Binary64.ofDecimal (parts.whole.head? = some '-') (numeral 10 (unsigned ++ decimals))
    (Integer.ofText parts.exponent - decimals.length)

/-- A number that is written with digits and is not too large. -/
def finite : Reader Binary64 :=
  fun cursor =>
    match parts cursor with
    | .accepted parts next =>
      if parts.value = .infinite false then .failed (.bare cursor.offset)
      else .accepted parts.value next
    | .declined fault => .declined fault
    | .failed fault => .failed fault

/-- The word for an infinite number. -/
def infinite (negative : Bool) : Reader Binary64 := do
  exactly ['i', 'n', 'f']
  pure (.infinite negative)

/-- The word for what is not a number. -/
def notANumber : Reader Binary64 := do
  exactly ['n', 'a', 'n']
  pure .notANumber

/-- A number that is written as a word. -/
def special : Reader Binary64 := do
  let sign ← optionalSign
  infinite (sign = some '-') <|> notANumber

end Float

/-- A floating-point number. -/
def float : Reader Binary64 :=
  label .float (Float.finite <|> Float.special)

namespace DateTime

/-- Two digits whose value lies in a range. -/
def twoDigits (low high : Nat) : Reader Nat :=
  check (fun value => if low ≤ value ∧ value ≤ high then .ok value else .error .outOfRange)
    (numeral 10 <$> takeExactly 2 isDigit)

/-- The number of days of a month. -/
def daysInMonth (year month : Nat) : Nat :=
  let leap := year % 4 = 0 ∧ (year % 100 ≠ 0 ∨ year % 400 = 0)
  if month = 2 then (if leap then 29 else 28)
  else if month ∈ [4, 6, 9, 11] then 30
  else 31

/-- A day of a month. -/
def day (year month : Nat) : Reader Nat :=
  check (fun day => if day ≤ daysInMonth year month then .ok day else .error .outOfRange)
    (twoDigits 1 31)

/-- A date. -/
def date : Reader Unit := do
  let year ← numeral 10 <$> takeExactly 4 isDigit
  exactly ['-']
  let month ← commit (twoDigits 1 12)
  commit (exactly ['-'])
  discard (commit (day year month))

/-- A time of day. -/
def time : Reader Unit := do
  discard (twoDigits 0 23)
  exactly [':']
  commit do
    discard (twoDigits 0 59)
    exactly [':']
    discard (twoDigits 0 60)
    discard (optional do exactly ['.']; takeWhileOne isDigit)

/-- The distance of a time from universal time. -/
def zone : Reader Unit :=
  label .timeOffset (discard (char fun c => c = 'Z' || c = 'z') <|> do
    discard (char fun c => c = '+' || c = '-')
    commit do
      discard (twoDigits 0 23)
      exactly [':']
      discard (twoDigits 0 59))

/-- A date with the time that may follow it. -/
def dateAndTime : Reader Unit := do
  date
  discard (optional do
    discard (char fun c => c = 'T' || c = 't' || c = ' ')
    time
    optional zone)

end DateTime

/-- A date, a time or both, as it is written. -/
def dateTime : Reader String :=
  String.ofList <$> textOf (label .dateTime DateTime.dateAndTime <|> label .time DateTime.time)

end FluentGen.Toml
