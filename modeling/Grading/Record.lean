import Grading.Classifier
import Grading.Execution
import Grading.Identifier

namespace Grading

/-! The records that are kept of every execution. -/

open Json (Value)

inductive Cause
  | assess
  | run
  deriving DecidableEq, Repr

namespace Cause

def name : Cause → String
  | assess => "assess"
  | run => "run"

end Cause

structure Testrun where
  submissionId : Identifier
  cause : Cause
  file : String
  passed : Bool
  /-- Status and output, where they are of interest. -/
  log : Option String
  status : ExecutionStatus
  exitCode : Option Int32
  executionTime : Duration
  waitingTime : Duration
  deriving DecidableEq

namespace Testrun

def toValue (testrun : Testrun) : Value :=
  .object [("submission_id", .text testrun.submissionId.text), ("cause", .text testrun.cause.name),
    ("file", .text testrun.file), ("passed", .boolean testrun.passed),
    ("output", .optional .text testrun.log), ("status", .text testrun.status.name),
    ("exit_code", .optional (fun code => .integer code.toInt) testrun.exitCode),
    ("container_execution_time", testrun.executionTime.toValue),
    ("waiting_for_container_time", testrun.waitingTime.toValue)]

end Testrun

structure RecordedError where
  submissionId : Identifier
  error : StructuredError
  deriving DecidableEq

namespace RecordedError

def toValue (recorded : RecordedError) : Value :=
  .object (("submission_id", .text recorded.submissionId.text) :: recorded.error.members)

end RecordedError

/-- All records, in the order in which they were made. -/
structure Records where
  testruns : List Testrun
  errors : List RecordedError

namespace Records

def empty : Records := ⟨[], []⟩

def members (records : Records) : List (String × Value) :=
  [("testruns", .array (records.testruns.map Testrun.toValue)),
    ("structured_errors", .array (records.errors.map RecordedError.toValue))]

def toValue (records : Records) : Value := .object records.members

end Records

/-- Why records are not kept or nobody is notified. -/
inductive ServiceError
  | storeUnavailable (reason : String)
  | notNotified (reason : String)
  deriving DecidableEq, Repr

namespace ServiceError

def message : ServiceError → String
  | storeUnavailable reason => "testrun store unavailable: " ++ reason
  | notNotified reason => "feedback threads could not be updated: " ++ reason

end ServiceError

inductive GradingError
  | setup (cause : SetupError)
  | acquisition (source : RunnerError) (waiting : Duration)
  | unknownFile (name : String)
  | execution (file : String) (source : ExecutionError) (waiting : Duration)
  deriving DecidableEq, Repr

namespace GradingError

def message : GradingError → String
  | setup cause => cause.message
  | acquisition source waiting =>
      "could not acquire a runner after waiting " ++ waiting.text ++ ": " ++ source.message
  | unknownFile name => "file " ++ name ++ " is not part of the submission"
  | execution file source waiting =>
      "execution of " ++ file ++ " failed after waiting " ++ waiting.text ++ ": " ++ source.message

end GradingError

end Grading
