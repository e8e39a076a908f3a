/-!
# Shortest decimals

A number of double precision is a significand of at most 53 bits times a power
of two.  It is written with the fewest decimal digits that still stand for it,
that is, that are rounded to it: of several such decimals the nearest.
-/

namespace TableAtlas.Decimal

/-- A number `significand * 2 ^ exponent` of double precision. -/
structure Double where
  significand : Nat
  exponent : Int
deriving DecidableEq, Repr

/-- A decimal `digits * 10 ^ exponent`. -/
structure Numeral where
  digits : Nat
  exponent : Int
deriving DecidableEq, Repr

/-- The quotient rounded to the nearest integer, the even one of two. -/
def roundQuotient (dividend divisor : Nat) : Nat :=
  let quotient := dividend / divisor
  let rest := 2 * (dividend % divisor)
  if rest < divisor then quotient
  else if rest > divisor then quotient + 1
  else if quotient % 2 = 0 then quotient
  else quotient + 1

namespace Double

/-- The number of double precision nearest to an integer. -/
def ofNat (value : Nat) : Double :=
  let dropped := value.log2 - 52
  let significand := roundQuotient value (Nat.pow 2 dropped)
  if significand = Nat.pow 2 53 then ⟨Nat.pow 2 52, dropped + 1⟩ else ⟨significand, dropped⟩

def leastExponent : Int := -1074

/-- Compares `4 * significand + quarters`, in quarters of the last place of a
number, with the decimal `digits * 10 ^ place`. -/
def compareQuarters (number : Double) (quarters : Int) (digits : Nat) (place : Int) : Ordering :=
  let binary := number.exponent - 2
  let scaled := (4 * (number.significand : Int) + quarters) * Nat.pow 2 binary.toNat *
    Nat.pow 10 (-place).toNat
  compare scaled ((digits : Int) * Nat.pow 10 place.toNat * Nat.pow 2 (-binary).toNat)

/-- How far below a number, in quarters of its last place, decimals stand for it.
Below a power of two the numbers are twice as dense. -/
def reachBelow (number : Double) : Int :=
  if number.significand = Nat.pow 2 52 ∧ leastExponent < number.exponent then 1 else 2

/-- Whether a decimal stands for a number.  The ends of the interval of such
decimals belong to it if the significand is even. -/
def isWrittenAs (number : Double) (decimal : Numeral) : Bool :=
  let low := number.compareQuarters (-number.reachBelow) decimal.digits decimal.exponent
  let high := number.compareQuarters 2 decimal.digits decimal.exponent
  if number.significand % 2 = 0 then low != .gt && high != .lt
  else low == .lt && high == .gt

/-- The greatest multiple of `10 ^ place` that is not above a number, in such units. -/
def floorAt (number : Double) (place : Int) : Nat :=
  number.significand * Nat.pow 2 number.exponent.toNat * Nat.pow 10 (-place).toNat /
    (Nat.pow 10 place.toNat * Nat.pow 2 (-number.exponent).toNat)

/-- Whether the decimal below a number is nearer to it than the one above, both
in units of `10 ^ place`; of two equally near the even one. -/
def prefersLower (number : Double) (place : Int) (lower : Nat) : Bool :=
  -- the middle of both is `(2 * lower + 1) / 2` units
  let middle : Double := ⟨2 * number.significand, number.exponent⟩
  match middle.compareQuarters 0 (2 * lower + 1) place with
  | .lt => true
  | .gt => false
  | .eq => lower % 2 = 0

/-- The decimal with units of `10 ^ place` that stands for a number, if there is one. -/
def decimalAt? (number : Double) (place : Int) : Option Numeral :=
  let lower := number.floorAt place
  let below : Numeral := ⟨lower, place⟩
  let above : Numeral := ⟨lower + 1, place⟩
  match number.isWrittenAs below, number.isWrittenAs above with
  | true, true => some (if number.prefersLower place lower then below else above)
  | true, false => some below
  | false, true => some above
  | false, false => none

/-- The first decimal that stands for a number as the unit shrinks from
`10 ^ place` in the given number of steps. -/
def shortestFrom (number : Double) (place : Int) : Nat → Numeral
  | 0 => ⟨number.floorAt place, place⟩
  | steps + 1 =>
      match number.decimalAt? place with
      | some decimal => decimal
      | none => number.shortestFrom (place - 1) steps

/-- The shortest decimal of a number that is not zero. -/
def shortest (number : Double) : Numeral :=
  number.shortestFrom 309 700

end Double

/-- An integer as it is written in double precision: one below `10 ^ 15` is
exact, and a greater one is filled up with zeros. -/
def roundedNat (value : Nat) : Nat :=
  if value < Nat.pow 10 15 then value
  else
    let decimal := (Double.ofNat value).shortest
    decimal.digits * Nat.pow 10 decimal.exponent.toNat

end TableAtlas.Decimal
