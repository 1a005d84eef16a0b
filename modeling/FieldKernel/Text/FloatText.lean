import FieldKernel.Number.Decimal
import FieldKernel.Text.Numeral

/-!
# Floating-point numbers as text

A number is written with the fewest digits that read back as the same double: positionally where
its first digit stands between the fourth place behind the point and the sixteenth before it, and
with a power of ten elsewhere. A table of rounded results uses a fixed count of places instead.
-/

namespace FieldKernel.FloatText

/-- Where the text of a number changes from positional to scientific form. -/
structure Layout where
  /-- The least power of ten of a first digit that is written positionally. -/
  least : Int
  /-- The greatest such power. -/
  greatest : Int

/-- The layout of every number in messages, listings and printed lines. -/
def layout : Layout := ⟨-4, 15⟩

/-- An exponent with its sign and at least two digits. -/
def exponent (power : Int) : String :=
  let digits := toString power.natAbs
  let padded := if digits.length < 2 then "0" ++ digits else digits
  (if power < 0 then "e-" else "e+") ++ padded

/-- Digits with the point behind the first `point` of them, zeros filling both sides. -/
def positional (digits : String) (point : Int) : String :=
  if point ≤ 0 then
    "0." ++ String.ofList (List.replicate (-point).toNat '0') ++ digits
  else
    let before := point.toNat
    let characters := digits.toList
    let whole := characters.take before ++ List.replicate (before - characters.length) '0'
    let rest := characters.drop before
    String.ofList (whole ++ '.' :: if rest.isEmpty then ['0'] else rest)

/-- One digit, a point with the further digits if there are any, and the power of ten. -/
def scientificForm (digits : String) (power : Int) : String :=
  match digits.toList with
  | [] => ""
  | [digit] => String.ofList [digit] ++ exponent power
  | digit :: rest => String.ofList (digit :: '.' :: rest) ++ exponent power

/-- A magnitude in its shortest form. -/
def ofDecimal (decimal : Decimal) : String :=
  let digits := toString decimal.digits
  let power := decimal.point - 1
  if layout.least ≤ power ∧ power ≤ layout.greatest then positional digits decimal.point
  else scientificForm digits power

/-- The sign of a number that is negative or a negative zero. -/
def sign (negative : Bool) : String :=
  if negative then "-" else ""

/-- The shortest text that reads back as the same number. -/
def shortest (number : Float) : String :=
  match FloatValue.ofFloat number with
  | .nan => "nan"
  | .infinite negative => sign negative ++ "inf"
  | .finite value =>
    sign value.negative ++
      if value.isZero then "0.0"
      else ofDecimal (Decimal.shortest value.significand value.exponent)

/-- The text with one digit before the point and `places` behind it. -/
def scientific (places : Nat) (number : Float) : String :=
  match FloatValue.ofFloat number with
  | .nan => "nan"
  | .infinite negative => sign negative ++ "inf"
  | .finite value =>
    sign value.negative ++
      if value.isZero then
        scientificForm (String.ofList (List.replicate (places + 1) '0')) 0
      else
        let (numerator, denominator) := value.magnitude
        let decimal := Decimal.round numerator denominator (places + 1)
        scientificForm (toString decimal.digits) (decimal.point - 1)

/-- A row of decimal digits as a number. -/
def digits? (characters : List Char) : Option Nat :=
  if characters.all Char.isDigit then
    some (characters.foldl (fun number digit => 10 * number + (digit.toNat - '0'.toNat)) 0)
  else none

/-- A number with a sign in front of it, or without one. -/
def signed? (characters : List Char) : Option Int :=
  match characters with
  | '-' :: rest => if rest.isEmpty then none else (digits? rest).map (fun number => -(number : Int))
  | '+' :: rest => if rest.isEmpty then none else (digits? rest).map Int.ofNat
  | rest => if rest.isEmpty then none else (digits? rest).map Int.ofNat

/-- The nearest double to `digits * 10 ^ power`; far beyond the range of doubles it is not
computed. -/
def nearest (digits : Nat) (power : Int) : Float :=
  let size := power + Decimal.digitCount digits
  if digits = 0 ∨ size < -400 then 0.0
  else if 400 < size then 1.0 / 0.0
  else Float.ofScientific digits (power < 0) power.natAbs

/-- Reads an unsigned number: digits with at most one point, then perhaps a power of ten. -/
def unsigned? (characters : List Char) : Option Float := do
  let isMark (character : Char) : Bool := character = 'e' ∨ character = 'E'
  let mantissa := characters.takeWhile (fun character => !isMark character)
  let power ←
    match characters.dropWhile (fun character => !isMark character) with
    | [] => some 0
    | _ :: rest => signed? rest
  let whole := mantissa.takeWhile (· ≠ '.')
  let fraction := (mantissa.dropWhile (· ≠ '.')).drop 1
  let digits ← digits? (whole ++ fraction)
  if whole.isEmpty ∧ fraction.isEmpty then none
  else some (nearest digits (power - fraction.length))

/-- Reads the text of a number: the names of the infinities and of the missing number included. -/
def parse? (text : String) : Option Float := do
  let characters ← Text.plainNumeral? (Text.trimBy Text.isNumeralBlank text.toList)
  let (negative, magnitude) :=
    match characters with
    | '-' :: rest => (true, rest)
    | '+' :: rest => (false, rest)
    | rest => (false, rest)
  let number ←
    match (String.ofList magnitude).toLower with
    | "nan" => some (0.0 / 0.0)
    | "inf" | "infinity" => some (1.0 / 0.0)
    | _ => unsigned? magnitude
  return if negative then -number else number

end FieldKernel.FloatText
