import Grading.Json.Value
import Grading.Quantity

namespace Grading

/-! What the output of a test or lint tool says, in one form for all tools, and the score it is
worth. -/

open Json (Value)

/-- A rating such as 7.5 of 10. -/
structure Rating where
  achieved : Float
  maximum : Float

namespace Rating

/-- The rating within the unit interval. Below zero it counts as zero. -/
def fraction (rating : Rating) : Float :=
  Quantity.share rating.achieved rating.maximum

def toValue (rating : Rating) : Value :=
  .object [("achieved", .real rating.achieved), ("maximum", .real rating.maximum)]

end Rating

structure Diagnostic where
  fileName : String
  line : Nat
  severity : String
  code : String
  name : String
  /-- The function or class the remark refers to. -/
  scope : Option String
  text : String
  deriving DecidableEq, Repr

namespace Diagnostic

def message (diagnostic : Diagnostic) : String :=
  diagnostic.name ++ ": " ++ diagnostic.text

def toValue (diagnostic : Diagnostic) : Value :=
  .object [("file_name", .text diagnostic.fileName), ("line", .natural diagnostic.line),
    ("severity", .text diagnostic.severity), ("code", .text diagnostic.code),
    ("name", .text diagnostic.name), ("scope", .optional .text diagnostic.scope),
    ("result", .text diagnostic.text)]

end Diagnostic

/-- Counts stop here. -/
def countLimit : Nat := Nat.pow 2 32 - 1

def addCounts (left right : Nat) : Nat := min (left + right) countLimit

theorem addCounts_le (left right : Nat) : addCounts left right ≤ countLimit :=
  Nat.min_le_right _ _

structure TestResult where
  count : Nat
  passed : Nat
  failed : Nat
  errorMessages : List String
  diagnostics : Option (List Diagnostic) := none
  rating : Option Rating := none

namespace TestResult

/-- A result whose passed tests are those that did not fail. -/
def ofCounts (count failed : Nat) (errorMessages : List String) : TestResult :=
  { count, passed := count - failed, failed, errorMessages }

def allPassed (count : Nat) : TestResult := ofCounts count 0 []

def empty : TestResult := ofCounts 0 0 []

/-- A score from zero to one. A rating wins over counts; without tests there is no score. -/
def score (result : TestResult) : Float :=
  if result.count = 0 then 0
  else match result.rating with
    | some rating => rating.fraction
    | none => Quantity.passingShare result.count result.failed

/-- The score as an exact fraction, where counts decide. -/
def exactScore (result : TestResult) : Rat :=
  Quantity.passingShare result.count result.failed

def members (result : TestResult) : List (String × Value) :=
  [("count", .natural result.count), ("passed", .natural result.passed),
    ("failed", .natural result.failed),
    ("error_messages", .array (result.errorMessages.map .text))] ++
  (result.diagnostics.map fun diagnostics =>
    ("detailed_diagnostics", Value.array (diagnostics.map Diagnostic.toValue))).toList ++
  (result.rating.map fun rating => ("rating", rating.toValue)).toList

def toValue (result : TestResult) : Value := .object result.members

end TestResult

structure Assessment where
  result : TestResult
  score : Float

namespace Assessment

/-- All tests passed, and there was something to pass. -/
def passed (assessment : Assessment) : Bool :=
  assessment.result.passed == assessment.result.count && assessment.score > 0

def toValue (assessment : Assessment) : Value :=
  .object (assessment.result.members ++ [("score", .real assessment.score)])

end Assessment

end Grading
