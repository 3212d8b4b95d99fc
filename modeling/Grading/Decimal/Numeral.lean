import Grading.Text.Numeral

namespace Grading.Decimal

/-! Decimal numerals and the doubles nearest to them. -/

def isExponentMark (character : Char) : Bool := character == 'e' || character == 'E'

/-- The exponent behind its mark, with or without a sign. No exponent is zero. -/
def exponent? (text : List Char) : Option Int :=
  match text with
  | '-' :: rest => (Text.digitsValue? 0 rest).map fun magnitude => -(magnitude : Int)
  | '+' :: rest => (Text.digitsValue? 0 rest).map Int.ofNat
  | rest => (Text.digitsValue? 0 rest).map Int.ofNat

/-- The double nearest to ASCII digits with at most one point among them and perhaps an
exponent. -/
def magnitude? (text : List Char) : Option Float := do
  let significand := text.takeWhile (!isExponentMark ·)
  let exponent ← exponent? ((text.dropWhile (!isExponentMark ·)).drop 1)
  let whole := significand.takeWhile (· != '.')
  let places := (significand.dropWhile (· != '.')).drop 1
  let digits ← if (whole ++ places).isEmpty then none else Text.digitsValue? 0 (whole ++ places)
  let power := exponent - places.length
  return Float.ofScientific digits (power < 0) power.natAbs

def real? (text : List Char) : Option Float :=
  match text with
  | '-' :: rest => (magnitude? rest).map (- ·)
  | '+' :: rest => magnitude? rest
  | rest => magnitude? rest

end Grading.Decimal
