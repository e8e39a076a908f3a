import TableAtlas.Decimal.Shortest

/-!
# Written numbers

A number of double precision is written with its shortest digits.  Numbers of
moderate size have a decimal point with at least one digit on either side, and
others have one digit before the point and an exponent.
-/

namespace TableAtlas.Decimal

/-- The number that a finite float stands for, without its sign. -/
def Double.ofFloat (value : Float) : Double :=
  let bits := value.toBits.toNat
  let stored : Nat := bits / Nat.pow 2 52 % Nat.pow 2 11
  let fraction : Nat := bits % Nat.pow 2 52
  if stored = 0 then ⟨fraction, leastExponent⟩ else ⟨Nat.pow 2 52 + fraction, stored - 1075⟩

/-- Whether a float carries a minus sign. -/
def isNegative (value : Float) : Bool :=
  decide (Nat.pow 2 63 ≤ value.toBits.toNat)

namespace Numeral

/-- The exponent of the first digit below which a number is written with an exponent. -/
def leastPlain : Int := -5

/-- The exponent of the first digit up to which a number is written without an exponent. -/
def greatestPlain : Int := 15

def write (decimal : Numeral) : List Char :=
  let digits := Nat.toDigits 10 decimal.digits
  let leading : Int := (digits.length : Int) - 1 + decimal.exponent
  if leastPlain ≤ leading ∧ leading ≤ greatestPlain then
    if 0 ≤ decimal.exponent then
      digits ++ List.replicate decimal.exponent.toNat '0' ++ ['.', '0']
    else if 0 ≤ leading then
      digits.take (leading.toNat + 1) ++ '.' :: digits.drop (leading.toNat + 1)
    else
      '0' :: '.' :: List.replicate (-leading - 1).toNat '0' ++ digits
  else
    let significand :=
      match digits with
      | first :: second :: others => first :: '.' :: second :: others
      | single => single
    significand ++ 'e' :: (if leading < 0 then '-' else '+') :: Nat.toDigits 10 leading.natAbs

end Numeral

def writeFloat (value : Float) : String :=
  let number := Double.ofFloat value
  let unsigned := if number.significand = 0 then ['0', '.', '0'] else number.shortest.write
  String.ofList (if isNegative value then '-' :: unsigned else unsigned)

end TableAtlas.Decimal
