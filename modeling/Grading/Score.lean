import Grading.Execution
import Grading.Submission
import Grading.TestResult

namespace Grading

/-! Scores of single files and of a whole submission, and what learners see of them. -/

open Json (Value)

structure OutputDetails where
  fileName : String
  message : String
  output : CapturedOutput
  result : TestResult

namespace OutputDetails

def members (details : OutputDetails) : List (String × Value) :=
  [("filename", .text details.fileName), ("message", .text details.message),
    ("stdout", .text details.output.stdout), ("stderr", .text details.output.stderr)] ++
  details.result.members

end OutputDetails

structure ScoredOutput (α : Type) where
  role : FileRole
  status : ExecutionStatus
  score : α
  weight : α
  executionTime : Option Duration
  waitingTime : Duration
  details : Option OutputDetails

namespace ScoredOutput

variable {α : Type}

def contribution [Quantity α] (output : ScoredOutput α) : α := output.score * output.weight

def withoutDetails (output : ScoredOutput α) : ScoredOutput α := { output with details := none }

def toValue (output : ScoredOutput Float) : Value :=
  .object ([("file_role", .text output.role.name), ("status", .text output.status.name),
    ("score", .real output.score), ("weight", .real output.weight),
    ("container_execution_time", .optional Duration.toValue output.executionTime),
    ("waiting_for_container_time", output.waitingTime.toValue)] ++
    (output.details.map OutputDetails.members).getD [])

end ScoredOutput

/-- The weighted sum of the scores. Files without an output add nothing. -/
def totalScore {α : Type} [Quantity α] (outputs : List (Option (ScoredOutput α))) : α :=
  Quantity.sum ((outputs.filterMap id).map ScoredOutput.contribution)

namespace Visibility

variable {α : Type}

def shows (visibility : Visibility) (output : ScoredOutput α) : Bool :=
  visibility.showLinter || output.role != .teacherDefinedLinter

def view (visibility : Visibility) (output : ScoredOutput α) : ScoredOutput α :=
  if visibility.hideTestResults then output.withoutDetails else output

def redact (visibility : Visibility) (outputs : List (ScoredOutput α)) :
    List (ScoredOutput α) :=
  (outputs.filter visibility.shows).map visibility.view

end Visibility

structure SubmissionScore (α : Type) where
  total : α
  maximum : α
  outputs : List (ScoredOutput α)

namespace SubmissionScore

variable {α : Type} [Quantity α]

/-- The score of all outputs, hidden ones included, with what learners see of them. -/
def ofOutputs (maximum : α) (visibility : Visibility)
    (outputs : List (Option (ScoredOutput α))) : SubmissionScore α :=
  ⟨totalScore outputs, maximum, visibility.redact (outputs.filterMap id)⟩

def normalized (score : SubmissionScore α) : α :=
  if Quantity.isBelow (Quantity.ofCount 0) score.maximum then score.total / score.maximum
  else Quantity.ofCount 0

/-- Whether the maximum was reached, up to rounding. -/
def isFull (score : SubmissionScore α) : Bool :=
  Quantity.isBelow (Quantity.ofCount 0) score.maximum && Quantity.isOne score.normalized

/-- The nearest whole percentage, not below zero. -/
def percentage (score : SubmissionScore Float) : Nat :=
  (score.normalized * 100).round.toUInt32.toNat

def members (score : SubmissionScore Float) : List (String × Value) :=
  [("total_score", .real score.total), ("maximum_score", .real score.maximum),
    ("per_file", .array (score.outputs.map ScoredOutput.toValue))]

def toValue (score : SubmissionScore Float) : Value := .object score.members

end SubmissionScore

end Grading
