namespace Grading.Text

/-! Reading ASCII numerals. -/

def digit? (character : Char) : Option Nat :=
  if character.isDigit then some (character.toNat - '0'.toNat) else none

/-- The value of ASCII digits read from the left, after `value`. -/
def digitsValue? (value : Nat) : List Char → Option Nat
  | [] => some value
  | character :: rest =>
      match digit? character with
      | some digit => digitsValue? (10 * value + digit) rest
      | none => none

/-- A numeral below `bound`: at least one ASCII digit, after an optional plus sign. -/
def naturalBelow? (bound : Nat) (text : List Char) : Option Nat :=
  let digits := match text with
    | '+' :: rest => rest
    | _ => text
  if digits.isEmpty then none
  else (digitsValue? 0 digits).filter (· < bound)

example : naturalBelow? 256 "+0255".toList = some 255 := by decide
example : naturalBelow? 256 "256".toList = none := by decide
example : naturalBelow? 256 "".toList = none := by decide

def hexDigit? (character : Char) : Option Nat :=
  if character.isDigit then some (character.toNat - '0'.toNat)
  else if 'a' ≤ character ∧ character ≤ 'f' then some (character.toNat - 'a'.toNat + 10)
  else if 'A' ≤ character ∧ character ≤ 'F' then some (character.toNat - 'A'.toNat + 10)
  else none

def hexDigit (value : Nat) : Char :=
  if value < 10 then Char.ofNat ('0'.toNat + value) else Char.ofNat ('a'.toNat + (value - 10))

def hexValue? (text : List Char) : Option Nat :=
  text.foldl (fun value character => do return 16 * (← value) + (← hexDigit? character)) (some 0)

end Grading.Text
