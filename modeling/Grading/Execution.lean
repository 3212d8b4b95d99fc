import Grading.Runner

namespace Grading

/-! Executions of one command: the events it reports, the output that is captured, and how it
ends. -/

inductive Event
  | stdout (chunk : String)
  | stderr (chunk : String)
  | exit (code : Int32)
  deriving DecidableEq

/-- The output of a command, each stream in the order of arrival. -/
structure CapturedOutput where
  stdout : String
  stderr : String
  deriving DecidableEq, Repr

namespace CapturedOutput

def empty : CapturedOutput := ⟨"", ""⟩

def append (output : CapturedOutput) : Event → CapturedOutput
  | .stdout chunk => { output with stdout := output.stdout ++ chunk }
  | .stderr chunk => { output with stderr := output.stderr ++ chunk }
  | .exit _ => output

def ofEvents (events : List Event) : CapturedOutput :=
  events.foldl append empty

end CapturedOutput

inductive ExecutionStatus
  | ok
  | failed
  | containerDepleted
  | timeout
  | outOfMemory
  | terminatedByClient
  | runnerInUse
  deriving DecidableEq, Repr

namespace ExecutionStatus

def name : ExecutionStatus → String
  | ok => "ok"
  | failed => "failed"
  | containerDepleted => "container_depleted"
  | timeout => "timeout"
  | outOfMemory => "out_of_memory"
  | terminatedByClient => "terminated_by_client"
  | runnerInUse => "runner_in_use"

def all : List ExecutionStatus :=
  [ok, failed, containerDepleted, timeout, outOfMemory, terminatedByClient, runnerInUse]

def ofName? (name : String) : Option ExecutionStatus := all.find? (·.name == name)

theorem ofName?_name (status : ExecutionStatus) : ofName? status.name = some status := by
  cases status <;> decide

end ExecutionStatus

/-- A command that exited, whatever its code. -/
structure CompletedExecution where
  exitCode : Int32
  output : CapturedOutput
  duration : Duration
  deriving DecidableEq

inductive ExecutionFailure
  | timeout
  | cancelled
  | runner (source : RunnerError)
  deriving DecidableEq, Repr

/-- A command that did not exit, with what was captured before. -/
structure ExecutionError where
  failure : ExecutionFailure
  output : CapturedOutput
  duration : Duration
  deriving DecidableEq, Repr

namespace ExecutionError

def status (error : ExecutionError) : ExecutionStatus :=
  match error.failure with
  | .timeout => .timeout
  | .cancelled => .terminatedByClient
  | .runner (.depleted _) => .containerDepleted
  | .runner .outOfMemory => .outOfMemory
  | .runner (.inUse _) => .runnerInUse
  | .runner _ => .failed

theorem status_ne_ok (error : ExecutionError) : error.status ≠ .ok := by
  rcases error with ⟨timeout | cancelled | source, output, duration⟩
  · exact nofun
  · exact nofun
  · cases source <;> exact nofun

def source? (error : ExecutionError) : Option RunnerError :=
  match error.failure with
  | .runner source => some source
  | _ => none

def message (error : ExecutionError) : String :=
  match error.failure with
  | .timeout => "execution exceeded its deadline after " ++ error.duration.text
  | .cancelled => "execution was cancelled after " ++ error.duration.text
  | .runner source => "execution failed after " ++ error.duration.text ++ ": " ++ source.message

end ExecutionError

abbrev ExecutionResult := Except ExecutionError CompletedExecution

/-- What is left of an execution once it no longer matters whether it exited. -/
structure Outcome where
  status : ExecutionStatus
  exitCode : Option Int32
  output : CapturedOutput
  duration : Duration
  deriving DecidableEq

namespace Outcome

def ofResult : ExecutionResult → Outcome
  | .ok done => ⟨if done.exitCode = 0 then .ok else .failed, some done.exitCode, done.output,
      done.duration⟩
  | .error error => ⟨error.status, none, error.output, error.duration⟩

theorem status_eq_ok_iff (result : ExecutionResult) :
    (ofResult result).status = .ok ↔ (ofResult result).exitCode = some 0 := by
  rcases result with error | ⟨exitCode, output, duration⟩
  · exact ⟨fun isOk => absurd isOk error.status_ne_ok, nofun⟩
  · simp [ofResult]

/-- The text that is recorded and classified. -/
def log (status : ExecutionStatus) (output : CapturedOutput) : String :=
  "status: " ++ status.name ++ "\n stdout: " ++ output.stdout ++ "\n stderr: " ++ output.stderr

end Outcome

end Grading
