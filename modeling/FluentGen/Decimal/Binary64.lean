/-!
# Binary floating-point numbers of 64 bits

A decimal number is read as the nearest binary one, and a binary number is written with the fewest
decimal digits that read back as it. Both are exact computations with whole numbers.
-/

namespace FluentGen

/-- A quotient of natural numbers, not necessarily in lowest terms. -/
structure Fraction where
  num : Nat
  den : Nat
deriving DecidableEq

namespace Fraction

/-- A natural number as a fraction. -/
def ofNat (n : Nat) : Fraction :=
  ⟨n, 1⟩

/-- A fraction times a power of a base. -/
def scale (base : Nat) (power : Int) (x : Fraction) : Fraction :=
  match power with
  | .ofNat n => ⟨x.num * Nat.pow base n, x.den⟩
  | .negSucc n => ⟨x.num, x.den * Nat.pow base (n + 1)⟩

/-- The number of digits of a natural number. -/
def digitCount (base n : Nat) : Nat :=
  (Nat.toDigits base n).length

/-- The largest power of the base that is not above a positive fraction. -/
def order (base : Nat) (x : Fraction) : Int :=
  let estimate : Int := digitCount base x.num - digitCount base x.den
  let unit := x.scale base (-estimate)
  if unit.num < unit.den then estimate - 1 else estimate

/-- The whole part of a fraction. -/
def floor (x : Fraction) : Nat :=
  x.num / x.den

/-- The nearest whole number; halfway between two, the even one. -/
def round (x : Fraction) : Nat :=
  let twice := 2 * (x.num % x.den)
  if twice < x.den then x.floor
  else if x.den < twice then x.floor + 1
  else x.floor + x.floor % 2

/-- Whether one fraction is below another. -/
def below (x y : Fraction) : Bool :=
  x.num * y.den < y.num * x.den

end Fraction

/-- A floating-point number. -/
inductive Binary64 where
  | notANumber
  | infinite (negative : Bool)
  /-- The number is `significand * 2 ^ exponent`, up to its sign. -/
  | finite (negative : Bool) (significand : Nat) (exponent : Int)
deriving DecidableEq

namespace Binary64

/-- The number of significand values that need fewer than 53 bits. -/
def half : Nat :=
  Nat.pow 2 52

/-- The exponent of the smallest numbers. -/
def leastExponent : Int :=
  -1074

/-- The exponent of the largest numbers. -/
def greatestExponent : Int :=
  971

/-- The nearest number to a positive fraction. -/
def nearest (negative : Bool) (x : Fraction) : Binary64 :=
  let spread := x.order 2 - 52
  let exponent := if spread < leastExponent then leastExponent else spread
  let significand := (x.scale 2 (-exponent)).round
  let (significand, exponent) :=
    if significand = 2 * half then (half, exponent + 1) else (significand, exponent)
  if greatestExponent < exponent then infinite negative
  else finite negative significand exponent

/--
The nearest number to `digits * 10 ^ exponent`. Decimal numbers far outside the range are told
apart by their order of magnitude.
-/
def ofDecimal (negative : Bool) (digits : Nat) (exponent : Int) : Binary64 :=
  let magnitude : Int := Fraction.digitCount 10 digits + exponent
  if digits = 0 ∨ magnitude < -330 then finite negative 0 leastExponent
  else if 310 < magnitude then infinite negative
  else nearest negative ((Fraction.ofNat digits).scale 10 exponent)

/--
Whether `digits * 10 ^ power` reads back as the number. The numbers around it are twice as dense
below a power of two, and halfway between two numbers the one with the even significand is read.
-/
def readsBack (significand : Nat) (exponent : Int) (digits : Nat) (power : Int) : Bool :=
  let quarters := ((Fraction.ofNat digits).scale 10 power).scale 2 (2 - exponent)
  let gap := if significand = half ∧ exponent ≠ leastExponent then 1 else 2
  let low := Fraction.ofNat (4 * significand - gap)
  let high := Fraction.ofNat (4 * significand + 2)
  if significand % 2 = 0 then !quarters.below low && !high.below quarters
  else low.below quarters && quarters.below high

/--
The decimal number with so many digits that reads back as the number and is nearest to it, of two
equally near ones the larger.
-/
def onGrid? (significand : Nat) (exponent : Int) (digits : Nat) : Option (Nat × Int) :=
  let x := (Fraction.ofNat significand).scale 2 exponent
  let power := x.order 10 - digits + 1
  let steps := x.scale 10 (-power)
  let lower := steps.floor
  let candidates :=
    if 2 * (steps.num % steps.den) < steps.den then [lower, lower + 1] else [lower + 1, lower]
  (candidates.find? (readsBack significand exponent · power)).map (·, power)

/--
The fewest digits that read back as a positive number, with the power of ten they count. One digit
more than is asked for can come only from rounding up, and is then a zero.
-/
def shortest (significand : Nat) (exponent : Int) : Nat × Int :=
  let (digits, power) :=
    ((List.range 17).findSome? fun n => onGrid? significand exponent (n + 1)).getD (0, 0)
  if digits % 10 = 0 then (digits / 10, power + 1) else (digits, power)

/-- A decimal number written without an exponent. -/
def positional (digits : Nat) (power : Int) : List Char :=
  let written := Nat.toDigits 10 digits
  match power with
  | .ofNat n => written ++ List.replicate n '0'
  | .negSucc n =>
    let padded := List.replicate (n + 2 - written.length) '0' ++ written
    padded.take (padded.length - (n + 1)) ++ '.' :: padded.drop (padded.length - (n + 1))

/-- The sign in front of a number. -/
def sign (negative : Bool) : List Char :=
  if negative then ['-'] else []

/-- A number with as few digits as possible, without an exponent and always with a point. -/
def text : Binary64 → String
  | notANumber => "NaN"
  | infinite negative => String.ofList (sign negative ++ ['i', 'n', 'f'])
  | finite negative significand exponent =>
    let magnitude := if significand = 0 then ['0'] else
      let (digits, power) := shortest significand exponent
      positional digits power
    let point := if magnitude.contains '.' then [] else ['.', '0']
    String.ofList (sign negative ++ magnitude ++ point)

end Binary64

end FluentGen
