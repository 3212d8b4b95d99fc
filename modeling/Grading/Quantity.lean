namespace Grading

/-! The numbers that scores are made of. Scores are doubles; the same definitions over the rationals
give the exact score. -/

class Quantity (α : Type) extends Add α, Sub α, Mul α, Div α where
  ofCount : Nat → α
  isBelow : α → α → Bool
  isAtMost : α → α → Bool
  emptySum : α
  /-- What is closer to one than this counts as one. -/
  tolerance : α

/-- A sum of doubles starts from negative zero, which every other double absorbs. -/
instance : Quantity Float where
  ofCount count := count.toUInt64.toFloat
  isBelow left right := left < right
  isAtMost left right := left ≤ right
  emptySum := -0.0
  tolerance := Float.ofBits 0x3CB0000000000000

instance : Quantity Rat where
  ofCount count := count
  isBelow left right := left < right
  isAtMost left right := left ≤ right
  emptySum := 0
  tolerance := 1 / Nat.pow 2 52

namespace Quantity

variable {α : Type} [Quantity α]

def positivePart (value : α) : α :=
  if isBelow (ofCount 0) value then value else ofCount 0

def atMostOne (value : α) : α :=
  if isBelow value (ofCount 1) then value else ofCount 1

def clampToUnit (value : α) : α :=
  if isBelow value (ofCount 0) then ofCount 0
  else if isBelow (ofCount 1) value then ofCount 1
  else value

/-- The part of `whole` that `part` makes up, within the unit interval. Of nothing it is nothing. -/
def share (part whole : α) : α :=
  if isAtMost whole (ofCount 0) then ofCount 0
  else atMostOne (positivePart part / whole)

/-- The part of `count` that did not fail, within the unit interval. -/
def passingShare (count failed : Nat) : α :=
  if count = 0 then ofCount 0
  else clampToUnit ((ofCount count - ofCount failed) / ofCount count)

def isOne (value : α) : Bool :=
  isBelow (value - ofCount 1) tolerance && isBelow (ofCount 1 - value) tolerance

def sum (values : List α) : α :=
  values.foldl (· + ·) emptySum

example : (passingShare 4 1 : Rat) = 3 / 4 := by decide +kernel

end Quantity

end Grading
