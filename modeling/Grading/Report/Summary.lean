import Grading.Pattern.Basic
import Grading.Text.Line
import Grading.Text.Numeral

namespace Grading.Report

/-! What reports have in common: numbers in summary lines, and the parts of the patterns that find
them. -/

def numberBound : Nat := Nat.pow 2 32

/-- The first group of the last match as a number. Summary lines can be printed more than once, and
the last one counts. -/
def lastNumber (pattern : Pattern) (text : List Char) : Option Nat := do
  let found ← (pattern.findAll text).getLast?
  let digits ← found.group? text 1
  Text.naturalBelow? numberBound digits

/-! ## Parts of patterns -/

open Pattern (CharSet Expression)

def literal (text : String) : Expression := .literal text

/-- One of the set, any number of times, as often as possible. -/
def many (set : CharSet) : Expression := .loop (.one set) 0 none true

def oneOrMore (set : CharSet) : Expression := .loop (.one set) 1 none true

/-- One of the set, any number of times, as seldom as possible. -/
def few (set : CharSet) : Expression := .loop (.one set) 0 none false

def perhaps (expression : Expression) : Expression := .loop expression 0 (some 1) true

def allBut (character : Char) : CharSet := .complement (.single character)

@[simp] theorem contains_allBut (excluded character : Char) :
    (allBut excluded).contains character = true ↔ character ≠ excluded := by
  rw [allBut, CharSet.contains_complement, Bool.not_eq_true', ← Bool.not_eq_true,
    CharSet.contains_single]

def inLine : CharSet := allBut '\n'

def sequence (parts : List Expression) : Pattern :=
  .ofExpression (.concatAll parts) []

/-- A number that follows `opening` and precedes `closing`. -/
def numberBetween (opening closing : String) : Pattern :=
  sequence [literal opening, .group 1 (oneOrMore .digit), literal closing]

end Grading.Report
