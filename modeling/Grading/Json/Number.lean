import Grading.Decimal.Shortest
import Grading.Text.Numeral

namespace Grading.Json

/-! Numbers of a document: whole numbers of 64 bits are kept exactly, all others become doubles. -/

inductive Number
  /-- A whole number below `2 ^ 64`. -/
  | natural (value : Nat)
  /-- A whole number below zero and not below `-2 ^ 63`, by its magnitude. -/
  | negative (magnitude : Nat)
  | real (value : Float)

namespace Number

/-- A number as it is written. Digits are values from zero to nine. -/
structure Literal where
  negative : Bool
  whole : List Nat
  fraction : List Nat
  /-- Sign and digits of the exponent. -/
  exponent : Option (Bool × List Nat)

/-! ## Value

A literal with a fraction or an exponent, or too large for 64 bits, is read as the leading digits
that fit 64 bits, times a power of ten, both rounded to doubles. -/

/-- One more digit, unless the number would outgrow 64 bits. -/
def appendDigit? (significand digit : Nat) : Option Nat :=
  let value := 10 * significand + digit
  if value < Nat.pow 2 64 then some value else none

/-- The leading digits that fit, and how many digits were left out. -/
def leading (significand : Nat) : List Nat → Nat × Nat
  | [] => (significand, 0)
  | digit :: rest =>
      match appendDigit? significand digit with
      | some value => leading value rest
      | none => (significand, rest.length + 1)

/-- The fraction digits that fit, and how many of them were taken. -/
def trailing (significand taken : Nat) : List Nat → Nat × Nat
  | [] => (significand, taken)
  | digit :: rest =>
      match appendDigit? significand digit with
      | some value => trailing value (taken + 1) rest
      | none => (significand, taken)

/-- `value * 10 ^ power`, or nothing if that is no finite double. -/
def scaleUp? (value : Float) (power : Nat) : Option Float :=
  if power ≤ 308 then
    let scaled := value * Float.ofScientific 1 false power
    if scaled.isInf then none else some scaled
  else if value == 0 then some value
  else none

/-- `value / 10 ^ power`, in steps that are doubles. -/
def scaleDown (value : Float) (power : Nat) : Float :=
  if power ≤ 308 then value / Float.ofScientific 1 false power
  else if value == 0 then value
  else scaleDown (value / Float.ofScientific 1 false 308) (power - 308)
termination_by power

def scale? (significand : Nat) (exponent : Int) : Option Float :=
  let value := significand.toUInt64.toFloat
  if 0 ≤ exponent then scaleUp? value exponent.toNat
  else some (scaleDown value (-exponent).toNat)

def exponentLimit : Nat := Nat.pow 2 31

def magnitude? (literal : Literal) : Option Float :=
  let (significand, skipped) := leading 0 literal.whole
  let (significand, taken) := trailing significand 0 literal.fraction
  let shift : Int := skipped - taken
  match literal.exponent with
  | none => scale? significand shift
  | some (below, digits) =>
      let exponent := digits.foldl (fun value digit => 10 * value + digit) 0
      if exponent < exponentLimit then
        scale? significand (if below then shift - exponent else shift + exponent)
      else if significand = 0 || below then some 0
      else none

def ofLiteral? (literal : Literal) : Option Number :=
  let (significand, skipped) := leading 0 literal.whole
  let isWhole := literal.fraction.isEmpty && literal.exponent.isNone && skipped == 0
  if isWhole && !literal.negative then some (.natural significand)
  else if isWhole && 0 < significand && significand ≤ Nat.pow 2 63 then some (.negative significand)
  else (magnitude? literal).map fun magnitude =>
    .real (if literal.negative then -magnitude else magnitude)

/-! ## Text -/

/-- How doubles are written: positionally with at least one digit on either side of the point from
`10 ^ -5` up to `10 ^ 16`, otherwise with an exponent after one leading digit. -/
structure RealFormat where
  /-- Least power of ten, exclusive, of the point's place in a positional text. -/
  smallest : Int
  /-- Greatest power of ten, inclusive. -/
  largest : Int

def realFormat : RealFormat := ⟨-5, 16⟩

def decimalText (format : RealFormat) (decimal : Decimal.Scaled) : String :=
  let digits := (toString decimal.digits).toList
  let count := digits.length
  let point : Int := count + decimal.exponent
  let zeros (length : Int) := List.replicate length.toNat '0'
  if 0 ≤ decimal.exponent ∧ point ≤ format.largest then
    String.ofList (digits ++ zeros decimal.exponent ++ ['.', '0'])
  else if 0 < point ∧ point ≤ format.largest then
    String.ofList (digits.take point.toNat ++ '.' :: digits.drop point.toNat)
  else if format.smallest < point ∧ point ≤ 0 then
    String.ofList ('0' :: '.' :: zeros (-point) ++ digits)
  else
    let exponent := 'e' :: (toString (point - 1)).toList
    match digits with
    | [digit] => String.ofList (digit :: exponent)
    | first :: rest => String.ofList (first :: '.' :: rest ++ exponent)
    | [] => ""

/-- The text of a double. What is not finite has no text of its own and is written as `null`. -/
def realText (value : Float) : String :=
  let bits := value.toBits.toNat
  let sign := if Nat.pow 2 63 ≤ bits then "-" else ""
  match Decimal.Binary64.ofBits? bits with
  | some magnitude => sign ++ decimalText realFormat magnitude.shortest
  | none => if value == 0 then sign ++ "0.0" else "null"

def text : Number → String
  | natural value => toString value
  | negative magnitude => "-" ++ toString magnitude
  | real value => realText value

example : decimalText realFormat ⟨1, 15⟩ = "1000000000000000.0" := by decide +kernel
example : decimalText realFormat ⟨1, 16⟩ = "1e16" := by decide +kernel
example : decimalText realFormat ⟨125, -2⟩ = "1.25" := by decide +kernel
example : decimalText realFormat ⟨125, -7⟩ = "0.0000125" := by decide +kernel
example : decimalText realFormat ⟨125, -8⟩ = "1.25e-6" := by decide +kernel

end Number

end Grading.Json
