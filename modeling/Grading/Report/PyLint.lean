import Grading.Decimal.Numeral
import Grading.Execution
import Grading.Report.Summary
import Grading.Searching

namespace Grading.Report.PyLint

/-! Reports of PyLint, which are printed to the standard output: a line for each diagnostic, and a
rating. -/

open Pattern (CharSet Expression)

/-! ## Rating -/

/-- Digits with at most one point behind the first of them. -/
def decimal : Expression :=
  .concatAll [oneOrMore .digit, perhaps (literal "."), many .digit]

def ratingPattern : Pattern :=
  sequence [literal "Your code has been rated at ",
    .group 1 (.concat (perhaps (literal "-")) decimal), literal "/", .group 2 decimal]

def rating? (text : List Char) : Option Rating := do
  let found ← ratingPattern.find? text
  let achieved ← Decimal.real? (← found.group? text 1)
  let maximum ← Decimal.real? (← found.group? text 2)
  return ⟨achieved, maximum⟩

/-- The whole part as a count. What is not above zero counts as zero. -/
def wholePart (value : Float) : Nat :=
  value.toUInt32.toNat

/-- A rating in counts: the scale, the points that were reached, and those that are missing. -/
def counts (rating : Rating) : Nat × Nat × Nat :=
  let reached := Quantity.positivePart rating.achieved
  let missing := Quantity.positivePart (rating.maximum - reached)
  (wholePart rating.maximum, wholePart reached, wholePart missing)

/-! ## Diagnostics -/

def inField : CharSet := allBut ','

/-- The file, the line, the severity, the code, the name, the scope and the text of a diagnostic,
as groups in this order. -/
def diagnosticPattern : Pattern :=
  sequence [.condition (.lineStart false), .group 1 (.concat (few inLine) (literal ".py")),
    literal ":", .group 2 (oneOrMore .digit), literal ":", .group 3 (few inLine), literal "(",
    .group 4 (few inField), literal ", ", .group 5 (few inField), literal ",",
    .group 6 (few inField), literal ") ", .group 7 (few inLine), .condition (.lineEnd false)]

/-- The diagnostic with these seven fields, unless its line is no count. -/
def diagnosticOf? (field : Nat → List Char) : Option Diagnostic := do
  let line ← Text.naturalBelow? numberBound (field 2)
  return { fileName := String.ofList (field 1)
           line
           severity := String.ofList (field 3)
           code := String.ofList (field 4)
           name := String.ofList (field 5)
           scope := if (field 6).isEmpty then none else some (String.ofList (field 6))
           text := String.ofList (field 7) }

def diagnostics (text : List Char) : List Diagnostic :=
  (diagnosticPattern.findAll text).filterMap fun found =>
    diagnosticOf? fun index => Text.trim (found.groupText text index)

/-! ## Whole reports -/

def resultOf (rating : Option Rating) (diagnostics : List Diagnostic) : TestResult :=
  let (count, passed, failed) := (rating.map counts).getD (0, 0, 0)
  { count, passed, failed
    errorMessages := diagnostics.map Diagnostic.message
    diagnostics := some diagnostics
    rating }

def read (output : CapturedOutput) (searching : Searching := .unhurried) : TestResult :=
  let text := output.stdout.toList
  resultOf (searching.find (.rating text) (rating? text)).join
    ((searching.find (.diagnostics text) (diagnostics text)).getD [])

theorem read_unhurried (output : CapturedOutput) :
    read output = resultOf (rating? output.stdout.toList) (diagnostics output.stdout.toList) := rfl

end Grading.Report.PyLint
