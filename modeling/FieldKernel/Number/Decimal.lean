import FieldKernel.Number.Dyadic

/-!
# Decimal forms of floating-point numbers

A decimal form is a row of digits with the place of the point. Two forms are computed from the
exact value of a double: the shortest one that reads back as the same double, and the one rounded
to a given count of digits. How the digits are laid out in text is not decided here.
-/

namespace FieldKernel

/-- The number `0.digits * 10 ^ point`, where `digits` is a natural number without sign. -/
structure Decimal where
  digits : Nat
  point : Int
  deriving DecidableEq, Repr

namespace Decimal

/-- How many decimal digits a number has; zero has one. -/
def digitCount (number : Nat) : Nat :=
  (Nat.toDigits 10 number).length

/-- The least exponent of ten above a positive quotient. -/
def pointOf (numerator denominator : Nat) : Int :=
  if denominator ≤ numerator then
    digitCount (numerator / denominator)
  else
    let places := digitCount (denominator / numerator)
    -- The quotient is at most `10 ^ (1 - places)`, and it may be just that.
    if denominator ≤ numerator * Nat.pow 10 (places - 1) then 2 - places else 1 - places

/-- Drops zeros from the end of a digit row, which do not change the number it stands for. -/
def dropZeros : Nat → Nat → Nat
  | 0, digits => digits
  | fuel + 1, digits =>
    if digits ≠ 0 ∧ digits % 10 = 0 then dropZeros fuel (digits / 10) else digits

/-- The digits `digits`, of which `count` stand before the place `point`, in their normal form. -/
def normalize (digits count : Nat) (point : Int) : Decimal :=
  let carry := digitCount digits - count
  ⟨dropZeros (digitCount digits) digits, point + carry⟩

/-- The factors that bring a quotient to units of the grid with `count` digits: the numerator is
multiplied by the first and the denominator by the second. -/
def gridFactors (count : Nat) (point : Int) : Nat × Nat :=
  (Nat.pow 10 (count - point).toNat, Nat.pow 10 (point - count).toNat)

/-- The quotient rounded to `count` digits, a tie going to the even neighbour. -/
def round (numerator denominator count : Nat) : Decimal :=
  let point := pointOf numerator denominator
  let (up, down) := gridFactors count point
  let scaled := numerator * up
  let unit := denominator * down
  let below := scaled / unit
  let twice := 2 * (scaled - below * unit)
  let nearest :=
    if twice < unit then below
    else if unit < twice then below + 1
    else if below % 2 = 0 then below else below + 1
  if count < digitCount nearest then ⟨nearest / 10, point + 1⟩ else ⟨nearest, point⟩

/-- A significand, and the sizes of the steps to its neighbours, in quarters of a unit. -/
structure Neighbourhood where
  lower : Nat
  value : Nat
  upper : Nat
  /-- Whether the end points themselves round to the value. -/
  closed : Bool
  deriving Repr

/-- The numbers that round to a double: half a unit to both sides, but a quarter below a power of
two, where the numbers beneath lie twice as dense. -/
def neighbourhood (significand : Nat) (exponent : Int) : Neighbourhood where
  lower := if significand = Nat.pow 2 52 ∧ exponent ≠ -1074 then 4 * significand - 1
    else 4 * significand - 2
  value := 4 * significand
  upper := 4 * significand + 2
  closed := significand % 2 = 0

/-- The shortest of the forms with `count` digits or more that lie in the neighbourhood, of which
the numbers are given in units of `units / denominator`; of two such forms the nearer, and of two
that are equally near the even one. Without fuel, the grid point below the value. -/
def shortestFrom (around : Neighbourhood) (units denominator : Nat) (point : Int) :
    Nat → Nat → Decimal
  | 0, count =>
    let (up, down) := gridFactors count point
    normalize (around.value * units * up / (denominator * down)) count point
  | fuel + 1, count =>
    let (up, down) := gridFactors count point
    let value := around.value * units * up
    let low := around.lower * units * up
    let high := around.upper * units * up
    let unit := denominator * down
    let inside (candidate : Nat) : Bool :=
      if around.closed then low ≤ candidate * unit ∧ candidate * unit ≤ high
      else low < candidate * unit ∧ candidate * unit < high
    let below := value / unit
    let above := below + 1
    match inside below, inside above with
    | true, true =>
      let left := value - below * unit
      let right := above * unit - value
      if left < right then normalize below count point
      else if right < left then normalize above count point
      else if below % 2 = 0 then normalize below count point
      else normalize above count point
    | true, false => normalize below count point
    | false, true => normalize above count point
    | false, false => shortestFrom around units denominator point fuel (count + 1)

/-- The form with the fewest digits that reads back as the double `significand * 2 ^ exponent`, and
among those the nearest. Seventeen digits always suffice. -/
def shortest (significand : Nat) (exponent : Int) : Decimal :=
  let around := neighbourhood significand exponent
  let units := Nat.pow 2 (exponent - 2).toNat
  let denominator := Nat.pow 2 (2 - exponent).toNat
  shortestFrom around units denominator (pointOf (around.value * units) denominator) 17 1

end Decimal

end FieldKernel
