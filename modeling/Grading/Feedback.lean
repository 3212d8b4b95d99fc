import Grading.Submission

namespace Grading

/-! What learners are told beside a score. -/

open Json (Field Reader Value)

/-- Texts that stand in for those of the files. -/
structure Feedback where
  allPassed : String
  nothingFound : String
  /-- The name of lint files without weight. -/
  notGraded : String
  deriving DecidableEq, Repr

namespace Feedback

def default : Feedback :=
  ⟨"Well done. All tests have been passed.", "Well done. The linter found no issues.",
    "(not graded)"⟩

def fields : List Field :=
  [.of "default_test_feedback" .text, .of "default_linter_feedback" .text,
    .of "not_graded" .text]

def read : Reader Feedback :=
  Reader.record fields 3 fun given => do
    return { allPassed := ← given.required "default_test_feedback" Reader.text
             nothingFound := ← given.required "default_linter_feedback" Reader.text
             notGraded := ← given.required "not_graded" Reader.text }

def toValue (feedback : Feedback) : Value :=
  .object [("default_test_feedback", .text feedback.allPassed),
    ("default_linter_feedback", .text feedback.nothingFound),
    ("not_graded", .text feedback.notGraded)]

/-- The name of a file in a score. Lint files without weight are not called by their paths. -/
def displayName (feedback : Feedback) (file : SubmissionFile) : String :=
  if file.role = .teacherDefinedLinter ∧ file.weight == 0 then feedback.notGraded
  else file.filepath

/-- The message beside the score of a file: praise if the score is full, else the file's own. -/
def message (feedback : Feedback) (file : SubmissionFile) (isFull : Bool) : String :=
  match file.role, isFull with
  | .teacherDefinedTest, true => feedback.allPassed
  | .teacherDefinedLinter, true => feedback.nothingFound
  | _, _ => file.feedbackMessage.getD ""

end Feedback

end Grading
