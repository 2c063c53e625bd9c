import Mathlib.Algebra.Order.Ring.Int
import Mathlib.Algebra.Order.Ring.Nat
import Mathlib.Tactic.Common

/-! The shortest texts of floats. -/

section Texts

/-- An exponent has an optional sign and at least one digit. -/
def isExponent : List Char → Bool
  | 'e' :: sign :: more =>
      if sign = '-' ∨ sign = '+' then !more.isEmpty && more.all Char.isDigit
      else (sign :: more).all Char.isDigit
  | _ => false

/-- A fraction has at least one digit and may have an exponent. -/
def isFraction (text : List Char) : Bool :=
  !(text.takeWhile Char.isDigit).isEmpty &&
    ((text.dropWhile Char.isDigit).isEmpty || isExponent (text.dropWhile Char.isDigit))

def unsigned (text : List Char) : List Char := if text.head? = some '-' then text.tail else text

/-- The text of a float has digits and then a fraction or an exponent. -/
def isFloatText (text : List Char) : Bool :=
  !((unsigned text).takeWhile Char.isDigit).isEmpty &&
    match (unsigned text).dropWhile Char.isDigit with
    | '.' :: fraction => isFraction fraction
    | rest => isExponent rest

end Texts

/-- A decimal stands for `digits * 10 ^ exponent`. -/
structure Decimal where
  digits : Nat
  exponent : Int

/-- A double stands for `significand * 2 ^ place`. -/
structure Double where
  significand : Nat
  place : Int
deriving DecidableEq

namespace Decimal

section Rounding

/-- A fraction is rounded to an integer, and a tie to the even one. -/
def roundEven (numerator denominator : Nat) : Nat :=
  let quotient := numerator / denominator
  let twice := 2 * (numerator % denominator)
  if twice < denominator ∨ (twice = denominator ∧ quotient % 2 = 0) then quotient
  else quotient + 1

def numerator (decimal : Decimal) : Nat := decimal.digits * 10 ^ decimal.exponent.toNat

def denominator (decimal : Decimal) : Nat := 10 ^ (-decimal.exponent).toNat

/-- The binary logarithm of a decimal that is not zero, rounded down. -/
def magnitude (decimal : Decimal) : Int :=
  let guess : Int := decimal.numerator.log2 - decimal.denominator.log2
  if decimal.numerator * 2 ^ (-guess).toNat < decimal.denominator * 2 ^ guess.toNat then guess - 1
  else guess

/-- The double that a decimal is read as; the doubles have 53 bits and places from -1074 to 971. -/
def nearest (decimal : Decimal) : Option Double :=
  let place := if decimal.magnitude < -1022 then -1074 else decimal.magnitude - 52
  let significand := roundEven (decimal.numerator * 2 ^ (-place).toNat)
    (decimal.denominator * 2 ^ place.toNat)
  let double : Double :=
    if significand = 2 ^ 53 then ⟨2 ^ 52, place + 1⟩ else ⟨significand, place⟩
  if double.place ≤ 971 then some double else none

/-- The distance of a decimal from a double, in units that depend on their exponents alone. -/
def distance (decimal : Decimal) (double : Double) : Nat :=
  let first := decimal.numerator * 2 ^ (-double.place).toNat
  let second := double.significand * 2 ^ double.place.toNat * decimal.denominator
  (first - second) + (second - first)

end Rounding

section Shortest

def dropZeros : Nat → Decimal → Decimal
  | 0, decimal => decimal
  | count + 1, decimal =>
      if decimal.digits % 10 = 0 then dropZeros count ⟨decimal.digits / 10, decimal.exponent + 1⟩
      else decimal

/-- No decimal with fewer digits is read as the same double, and none with as many is closer to it.
The neighbours on either side are the only candidates. -/
def isShortest (decimal : Decimal) : Bool :=
  match decimal.nearest with
  | none => false
  | some double =>
      double.significand ≠ 0 &&
        (decimal.digits < 10 ||
          [decimal.digits / 10, decimal.digits / 10 + 1].all fun fewer =>
            nearest ⟨fewer, decimal.exponent + 1⟩ ≠ some double) &&
        [decimal.digits - 1, decimal.digits + 1].all fun other =>
          nearest ⟨other, decimal.exponent⟩ ≠ some double ||
            decimal.distance double ≤ distance ⟨other, decimal.exponent⟩ double

end Shortest

section Reading

def readExponent : List Char → Int
  | 'e' :: '-' :: digits => -(Nat.ofDigitChars 10 digits 0)
  | 'e' :: '+' :: digits => Nat.ofDigitChars 10 digits 0
  | 'e' :: digits => Nat.ofDigitChars 10 digits 0
  | _ => 0

/-- The digits before the point, the digits after it and the exponent. -/
def parts (text : List Char) : List Char × List Char × Int :=
  let whole := (unsigned text).takeWhile Char.isDigit
  match (unsigned text).dropWhile Char.isDigit with
  | '.' :: fraction =>
      (whole, fraction.takeWhile Char.isDigit, readExponent (fraction.dropWhile Char.isDigit))
  | rest => (whole, [], readExponent rest)

def ofText (text : List Char) : Decimal :=
  let (whole, fraction, exponent) := parts text
  ⟨Nat.ofDigitChars 10 (whole ++ fraction) 0, exponent - fraction.length⟩

end Reading

end Decimal

/-- A zero is written with one digit on either side of the point. Another float has the digits of
the shortest decimal that is read as it, without superfluous zeros. -/
def isShortestText (text : List Char) : Bool :=
  let (whole, fraction, _) := Decimal.parts text
  let decimal := Decimal.ofText text
  if decimal.digits = 0 then unsigned text = ['0', '.', '0']
  else
    (whole = ['0'] || whole.head? ≠ some '0') &&
      (fraction = ['0'] || fraction.getLast? ≠ some '0') &&
      (decimal.dropZeros (whole ++ fraction).length).isShortest

example : isShortestText ['0', '.', '3'] = true := by decide +kernel

example : isShortestText "0.30000000000000001".toList = false := by decide +kernel

/-- A finite float is represented by a shortest text that determines it. -/
structure FloatText where
  text : List Char
  float : isFloatText text = true
  shortest : isShortestText text = true
deriving DecidableEq
