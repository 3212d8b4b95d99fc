import Grading.Text.CaseTable
import Grading.Text.LetterTable
import Grading.Text.WordTable

namespace Grading.Text

/-! Character classes and case. ASCII is decided without the tables, so statements about ASCII text
reduce without them. -/

def isAscii (character : Char) : Bool :=
  character.toNat < 0x80

def isLetter (character : Char) : Bool :=
  if isAscii character then character.isAlpha else covers letterRanges character.toNat

def isDecimalDigit (character : Char) : Bool :=
  if isAscii character then character.isDigit else covers digitRanges character.toNat

/-- Digits and all other numerals. -/
def isNumeral (character : Char) : Bool :=
  isDecimalDigit character || (!isAscii character && covers numeralRanges character.toNat)

/-- Letters, marks, decimal digits, connecting punctuation and joiners. -/
def isWordCharacter (character : Char) : Bool :=
  if isAscii character then character.isAlphanum || character == '_'
  else covers letterRanges character.toNat || covers wordMarkRanges character.toNat

/-- White space: the six ASCII blanks and the blanks of other scripts. -/
def isBlank (character : Char) : Bool :=
  let code := character.toNat
  (9 ≤ code && code ≤ 13) || code == 0x20 || code == 0x85 || code == 0xA0 || code == 0x1680 ||
    (0x2000 ≤ code && code ≤ 0x200A) || code == 0x2028 || code == 0x2029 || code == 0x202F ||
    code == 0x205F || code == 0x3000

/-- Every blank that core knows is a blank here. -/
theorem isBlank_of_isWhitespace {character : Char} (blank : character.isWhitespace = true) :
    isBlank character = true := by
  simp only [Char.isWhitespace, Bool.or_eq_true, decide_eq_true_eq] at blank
  rcases blank with ((equal | equal) | equal) | equal <;> subst equal <;> decide

def isUppercase (character : Char) : Bool :=
  if isAscii character then character.isUpper
  else uppercaseRanges.any fun range => range.contains character.toNat

def isLowercase (character : Char) : Bool :=
  if isAscii character then character.isLower
  else lowercaseRanges.any fun range => range.contains character.toNat

/-- The capital form, which can be several characters. -/
def uppercase (character : Char) : List Char :=
  if isAscii character then [character.toUpper]
  else match uppercaseExpansions.lookup character.toNat with
    | some codes => codes.map Char.ofNat
    | none => [Char.ofNat (shiftBy toUppercaseShifts character.toNat)]

/-- The small form, which can be several characters. -/
def lowercase (character : Char) : List Char :=
  if isAscii character then [character.toLower]
  else match lowercaseExpansions.lookup character.toNat with
    | some codes => codes.map Char.ofNat
    | none => [Char.ofNat (shiftBy toLowercaseShifts character.toNat)]

example : uppercase 'ß' = ['S', 'S'] := by decide +kernel
example : lowercase 'Ä' = ['ä'] := by decide +kernel

/-! ## Case classes -/

/-- The representative of all characters that differ only in case. -/
def foldCase (character : Char) : Char :=
  Char.ofNat (shiftBy foldShifts character.toNat)

def caseClass (character : Char) : List Char :=
  let representative := foldCase character
  representative :: foldShifts.filterMap fun shift =>
    (shift.origin? representative.toNat).map Char.ofNat

/-- The letter K shares its class with its small form and the Kelvin sign. -/
example : caseClass 'K' = ['k', 'K', '\u212A'] := by decide +kernel

end Grading.Text
