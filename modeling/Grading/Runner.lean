import Grading.Duration

namespace Grading

/-! Runners: sandboxes owned by a management service, seen through the states they pass. -/

inductive RunnerState
  | requested
  | allocating
  | ready
  | executing
  | completed
  | timedOut
  | depleted
  | failed
  | released
  deriving DecidableEq, Repr

namespace RunnerState

def all : List RunnerState :=
  [requested, allocating, ready, executing, completed, timedOut, depleted, failed, released]

def name : RunnerState → String
  | requested => "requested"
  | allocating => "allocating"
  | ready => "ready"
  | executing => "executing"
  | completed => "completed"
  | timedOut => "timed_out"
  | depleted => "depleted"
  | failed => "failed"
  | released => "released"

def title : RunnerState → String
  | requested => "Requested"
  | allocating => "Allocating"
  | ready => "Ready"
  | executing => "Executing"
  | completed => "Completed"
  | timedOut => "TimedOut"
  | depleted => "Depleted"
  | failed => "Failed"
  | released => "Released"

def ofName? (name : String) : Option RunnerState :=
  all.find? (·.name == name)

/-- The states in which a command has ended. -/
def isSettled : RunnerState → Bool
  | completed | timedOut | depleted | failed => true
  | _ => false

/-- Whether a runner can move from the first state to the second. Every state can be released, and
nothing follows a release. -/
def canMove : RunnerState → RunnerState → Bool
  | released, _ => false
  | _, released => true
  | requested, next => next == allocating || next == depleted || next == failed
  | allocating, next => next == ready || next == depleted || next == failed
  | ready, next => next == executing
  | executing, next => next.isSettled
  | _, next => next == executing

example : canMove ready completed = false := rfl
example : canMove timedOut executing = true := rfl

end RunnerState

inductive RunnerError
  /-- The pool has no free capacity. Later attempts may succeed. -/
  | depleted (environmentId : Nat)
  | allocation (reason : String)
  | inUse (runnerId : String)
  | outOfMemory
  | connection (reason : String)
  | invalidMove (runnerId : String) (current next : RunnerState)
  deriving DecidableEq, Repr

namespace RunnerError

def message : RunnerError → String
  | depleted environmentId =>
      "no runner available for execution environment " ++ toString environmentId
  | allocation reason => "runner allocation failed: " ++ reason
  | inUse runnerId => "runner " ++ runnerId ++ " is already executing a command"
  | outOfMemory => "execution ran out of memory"
  | connection reason => "connection to runner lost: " ++ reason
  | invalidMove runnerId current next =>
      "runner " ++ runnerId ++ " cannot move from " ++ current.title ++ " to " ++ next.title

end RunnerError

structure Runner where
  id : String
  principal : String
  environmentId : Nat
  state : RunnerState
  deriving DecidableEq, Repr

namespace Runner

def new (id principal : String) (environmentId : Nat) : Runner :=
  ⟨id, principal, environmentId, .requested⟩

def move (runner : Runner) (next : RunnerState) : Except RunnerError Runner :=
  if runner.state.canMove next then .ok { runner with state := next }
  else .error (.invalidMove runner.id runner.state next)

theorem state_of_move {runner moved : Runner} {next : RunnerState}
    (allowed : runner.move next = .ok moved) : moved.state = next := by
  simp only [move] at allowed
  split at allowed
  · cases allowed
    rfl
  · cases allowed

/-- The runner in its next state, or unchanged if it cannot get there. -/
def moveOrStay (runner : Runner) (next : RunnerState) : Runner :=
  match runner.move next with
  | .ok moved => moved
  | .error _ => runner

/-- The runner after a sequence of moves; those that are refused leave it as it is. -/
def moves (runner : Runner) (states : List RunnerState) : Runner :=
  states.foldl moveOrStay runner

@[simp] theorem moves_nil (runner : Runner) : runner.moves [] = runner := rfl

@[simp] theorem moves_cons (runner : Runner) (next : RunnerState) (rest : List RunnerState) :
    runner.moves (next :: rest) = (runner.moveOrStay next).moves rest := rfl

/-- The runner after moves that all have to succeed. -/
def prepare (runner : Runner) : List RunnerState → Except RunnerError Runner
  | [] => .ok runner
  | next :: rest => do (← runner.move next).prepare rest

end Runner

end Grading
