namespace Grading.Text

/-! Sets of code points as lists of ranges, and maps that shift whole ranges. The tables of letters,
words and cases are values of these types. -/

def covers (ranges : List (Nat × Nat)) (code : Nat) : Bool :=
  ranges.any fun (first, last) => first ≤ code && code ≤ last

/-- The code points `first`, `first + step`, and so on up to `last`. -/
structure CodeRange where
  first : Nat
  last : Nat
  step : Nat
  deriving DecidableEq, Repr

namespace CodeRange

def contains (range : CodeRange) (code : Nat) : Bool :=
  range.first ≤ code && code ≤ range.last && (code - range.first) % range.step == 0

end CodeRange

/-- Every code point of a range moved by the same distance. -/
structure CodeShift where
  first : Nat
  last : Nat
  step : Nat
  distance : Int
  deriving DecidableEq, Repr

namespace CodeShift

def range (shift : CodeShift) : CodeRange := ⟨shift.first, shift.last, shift.step⟩

def target? (shift : CodeShift) (code : Nat) : Option Nat :=
  if shift.range.contains code then some (code + shift.distance).toNat else none

/-- The code point that the shift takes to this one, if there is one. -/
def origin? (shift : CodeShift) (code : Nat) : Option Nat :=
  let origin := ((code : Int) - shift.distance).toNat
  if shift.range.contains origin && shift.target? origin == some code then some origin else none

end CodeShift

def shiftBy (shifts : List CodeShift) (code : Nat) : Nat :=
  (shifts.findSome? fun shift => shift.target? code).getD code

example : shiftBy [⟨0x41, 0x5A, 1, 32⟩] 0x42 = 0x62 := by decide

end Grading.Text
