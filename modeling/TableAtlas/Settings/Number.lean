import TableAtlas.Decimal.Written
import TableAtlas.Settings.Failure

/-!
# Numbers in place of texts

No setting is a number.  A number that stands where something else is expected
is read all the same, because the message about it shows its value: an integer
of 64 bits exactly, and any other number in double precision.
-/

namespace TableAtlas.Settings

open TableAtlas.Decimal

def digitValue (c : Char) : Nat :=
  c.toNat - '0'.toNat

/-- Appends digits to a significand of 64 bits for as long as they fit, and
counts those that are left. -/
def appendDigits (significand : Nat) : List Char → Nat × Nat
  | [] => (significand, 0)
  | c :: rest =>
      let longer := significand * 10 + digitValue c
      if longer < Nat.pow 2 64 then appendDigits longer rest else (significand, rest.length + 1)

/-- Divides a number by a power of ten. -/
def dividePower (value : Float) (power : Nat) : Float :=
  if power ≤ 308 then value / Float.ofScientific 1 false power
  else if value == 0 then value
  else dividePower (value / Float.ofScientific 1 false 308) (power - 308)
termination_by power

/-- The number `significand * 10 ^ exponent` in double precision, unless it is too large. -/
def scaled? (significand : Nat) (exponent : Int) : Option Float :=
  let value := significand.toUInt64.toFloat
  if exponent < 0 then some (dividePower value exponent.natAbs)
  else if exponent ≤ 308 then
    let product := value * Float.ofScientific 1 false exponent.toNat
    if product.isInf then none else some product
  else if value == 0 then some value
  else none

def realLabel (value : Float) : String :=
  "floating point \x60" ++ writeFloat value ++ "\x60"

/-- How a message shows a number without fraction and exponent. -/
def integerLabel (negative : Bool) (significand : Nat) : String :=
  if !negative then "integer \x60" ++ toString significand ++ "\x60"
  else if 0 < significand ∧ significand ≤ Nat.pow 2 63 then
    "integer \x60-" ++ toString significand ++ "\x60"
  else realLabel (-significand.toUInt64.toFloat)

namespace Cursor

/-- The digits at the cursor, and the cursor behind them. -/
def takeDigits (cursor : Cursor) : List Char × Cursor :=
  (cursor.rest.takeWhile Char.isDigit, passWhile Char.isDigit cursor.position cursor.rest)

def isNext (cursor : Cursor) (accepted : List Char) : Bool :=
  match cursor.rest with
  | [] => false
  | c :: _ => accepted.contains c

def failDigit {α : Type} (cursor : Cursor) : Except Failure α :=
  match cursor.rest with
  | [] => cursor.failHere (.endOfInput .value)
  | _ :: _ => cursor.failNext .invalidNumber

/-- The label of a number with a fraction or exponent that has been read. -/
def realNumber (cursor : Cursor) (negative : Bool) (significand : Nat) (exponent : Int) :
    Except Failure (String × Cursor) :=
  match scaled? significand exponent with
  | some value => .ok (realLabel (if negative then -value else value), cursor)
  | none => cursor.failHere .numberOutOfRange

/-- The greatest exponent that is taken into account. -/
def exponentLimit : Nat := Nat.pow 2 31 - 1

/-- Reads the digits of an exponent.  Past the greatest exponent the number is
too large, or else zero. -/
def readExponentDigits (negative : Bool) (significand : Nat) (base : Int) (isDown : Bool)
    (exponent : Nat) (position : Position) : List Char → Except Failure (String × Cursor)
  | [] =>
      realNumber ⟨[], position⟩ negative significand
        (if isDown then base - exponent else base + exponent)
  | c :: rest =>
      if c.isDigit then
        let longer := exponent * 10 + digitValue c
        if longer ≤ exponentLimit then
          readExponentDigits negative significand base isDown longer (position.past c) rest
        else if significand ≠ 0 ∧ !isDown then .error ⟨.numberOutOfRange, position.past c⟩
        else
          .ok (realLabel (if negative then -0.0 else 0.0),
            passWhile Char.isDigit position (c :: rest))
      else
        realNumber ⟨c :: rest, position⟩ negative significand
          (if isDown then base - exponent else base + exponent)

def readExponent (cursor : Cursor) (negative : Bool) (significand : Nat) (base : Int) :
    Except Failure (String × Cursor) :=
  let behindMark := cursor.skipOne
  let isDown := behindMark.isNext ['-']
  let behindSign := if behindMark.isNext ['+', '-'] then behindMark.skipOne else behindMark
  if behindSign.takeDigits.1.isEmpty then behindSign.failDigit
  else
    readExponentDigits negative significand base isDown 0 behindSign.position behindSign.rest

def readBehindInteger (cursor : Cursor) (negative : Bool) (significand left : Nat) :
    Except Failure (String × Cursor) :=
  if cursor.isNext ['.'] then
    let (digits, behindDigits) := cursor.skipOne.takeDigits
    if digits.isEmpty then cursor.skipOne.failDigit
    else
      let (longer, ignored) := appendDigits significand digits
      let exponent : Int := (left : Int) - ((digits.length - ignored : Nat) : Int)
      if behindDigits.isNext ['e', 'E'] then
        behindDigits.readExponent negative longer exponent
      else behindDigits.realNumber negative longer exponent
  else if cursor.isNext ['e', 'E'] then cursor.readExponent negative significand left
  else if left = 0 then .ok (integerLabel negative significand, cursor)
  else cursor.realNumber negative significand left

/-- Reads a number and returns how a message shows it. -/
def readNumber (cursor : Cursor) : Except Failure (String × Cursor) :=
  let negative := cursor.isNext ['-']
  let unsigned := if negative then cursor.skipOne else cursor
  let (digits, behindDigits) := unsigned.takeDigits
  match digits with
  | [] => unsigned.failDigit
  | '0' :: _ =>
      if unsigned.skipOne.takeDigits.1.isEmpty then
        unsigned.skipOne.readBehindInteger negative 0 0
      else unsigned.skipOne.failNext .invalidNumber
  | digits =>
      let (significand, left) := appendDigits 0 digits
      behindDigits.readBehindInteger negative significand left

end Cursor

end TableAtlas.Settings
