import Grading.Decimal.Binary64

namespace Grading.Decimal

/-! The shortest decimal that reads back as a given double. For one digit, two digits and so on, the
value's two neighbours with that many digits are tried; the first count with a hit wins, and of two
hits the nearer. -/

/-- `digits * 10 ^ exponent`. -/
structure Scaled where
  digits : Nat
  exponent : Int
  deriving DecidableEq, Repr

namespace Scaled

def normalize : (fuel : Nat) → Scaled → Scaled
  | 0, decimal => decimal
  | fuel + 1, decimal =>
      if decimal.digits ≠ 0 ∧ decimal.digits % 10 = 0 then
        normalize fuel ⟨decimal.digits / 10, decimal.exponent + 1⟩
      else decimal

def numerator (decimal : Scaled) : Nat := decimal.digits * Nat.pow 10 decimal.exponent.toNat

def denominator (decimal : Scaled) : Nat := Nat.pow 10 (-decimal.exponent).toNat

end Scaled

/-- How often `denominator` fits into `numerator` in powers of ten. -/
private def powersAbove (numerator denominator : Nat) : (fuel : Nat) → Nat
  | 0 => 0
  | fuel + 1 =>
      if numerator < 10 * denominator then 0
      else 1 + powersAbove numerator (10 * denominator) fuel

/-- How many powers of ten `numerator` lacks to reach `denominator`. -/
private def powersBelow (numerator denominator : Nat) : (fuel : Nat) → Nat
  | 0 => 0
  | fuel + 1 =>
      if denominator ≤ numerator then 0
      else 1 + powersBelow (10 * numerator) denominator fuel

namespace Binary64

/-- The exponent of the largest power of ten that is not above the value. Doubles stay within
`10 ^ 309` and `10 ^ -324`, so four hundred steps reach it. -/
def magnitude (value : Binary64) : Int :=
  if value.denominator ≤ value.numerator then
    powersAbove value.numerator value.denominator 400
  else -(powersBelow value.numerator value.denominator 400 : Int)

def neighbours (value : Binary64) (exponent : Int) : Scaled × Scaled :=
  let scaled := value.numerator * Nat.pow 10 (-exponent).toNat
  let unit := value.denominator * Nat.pow 10 exponent.toNat
  (⟨scaled / unit, exponent⟩, ⟨scaled / unit + 1, exponent⟩)

def isReadFromDecimal (value : Binary64) (decimal : Scaled) : Bool :=
  value.isReadFrom decimal.numerator decimal.denominator

/-- Whether the smaller neighbour is at most as far away as the larger one. -/
def isNearerBelow (value : Binary64) (below above : Scaled) : Bool :=
  2 * value.numerator * below.denominator ≤
    (below.numerator + above.numerator) * value.denominator

/-- The best decimal with this exponent, if one reads back. -/
def onGrid? (value : Binary64) (exponent : Int) : Option Scaled :=
  let (below, above) := value.neighbours exponent
  let belowReads := below.digits ≠ 0 && value.isReadFromDecimal below
  let aboveReads := value.isReadFromDecimal above
  if belowReads && (!aboveReads || value.isNearerBelow below above) then some below
  else if aboveReads then some above
  else none

private def fromCount (value : Binary64) (count : Nat) : (fuel : Nat) → Scaled
  | 0 => ⟨value.mantissa, 0⟩
  | fuel + 1 =>
      match value.onGrid? (value.magnitude - count + 1) with
      | some decimal => decimal
      | none => fromCount value (count + 1) fuel

/-- The shortest decimal that reads back. Seventeen digits always suffice. -/
def shortest (value : Binary64) : Scaled :=
  (value.fromCount 1 17).normalize 400

example : (ofBits? 0x3FB999999999999A).map shortest = some ⟨1, -1⟩ := by decide +kernel

example : (ofBits? 1).map shortest = some ⟨5, -324⟩ := by decide +kernel

end Binary64

end Grading.Decimal
