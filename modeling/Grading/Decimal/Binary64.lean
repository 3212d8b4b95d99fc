namespace Grading.Decimal

/-! Finite doubles as exact values. A finite double is `mantissa * 2 ^ exponent` up to its sign; the
reals that round to it form an interval around it. -/

/-- A positive finite double, `mantissa * 2 ^ exponent` with a positive mantissa. `narrow` holds at
a power of two, where the next smaller double is only half as far away as the next larger one. -/
structure Binary64 where
  mantissa : Nat
  exponent : Int
  narrow : Bool
  deriving DecidableEq, Repr

namespace Binary64

/-- The magnitude of the double with these bits: `none` for zeros, infinities and what is not a
number. -/
def ofBits? (bits : Nat) : Option Binary64 :=
  let fraction : Nat := bits % Nat.pow 2 52
  let biased : Nat := bits / Nat.pow 2 52 % Nat.pow 2 11
  if biased = 2047 then none
  else if biased = 0 then
    if fraction = 0 then none else some ⟨fraction, -1074, false⟩
  else some ⟨Nat.pow 2 52 + fraction, (biased : Int) - 1075, fraction = 0 && biased != 1⟩

def numerator (value : Binary64) : Nat := value.mantissa * Nat.pow 2 value.exponent.toNat

def denominator (value : Binary64) : Nat := Nat.pow 2 (-value.exponent).toNat

/-- Whether `fraction / whole` rounds to the double. In quarters of the last place the interval
reaches from two below (one, where it is narrow) to two above; its ends belong to an even
mantissa. -/
def isReadFrom (value : Binary64) (fraction whole : Nat) : Bool :=
  let candidate := 4 * fraction * value.denominator
  let unit := Nat.pow 2 value.exponent.toNat * whole
  let low := (4 * value.mantissa - (if value.narrow then 1 else 2)) * unit
  let high := (4 * value.mantissa + 2) * unit
  if value.mantissa % 2 = 0 then low ≤ candidate && candidate ≤ high
  else low < candidate && candidate < high

example : ofBits? 0x3FF8000000000000 = some ⟨6755399441055744, -52, false⟩ := by decide

end Binary64

end Grading.Decimal
