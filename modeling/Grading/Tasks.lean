import Grading.Grader
import Grading.Session

namespace Grading

/-! The files of a submission are tested by tasks, which share the runner. A task waits for the
lease, executes its command, gives the lease up, and then records what came out. Between two steps
of a task the others can make theirs. -/

/-- A file that was tested, how long that had to wait, and how its command went. -/
structure Trial where
  file : SubmissionFile
  waiting : Duration
  finish : Finish

namespace Trial

variable (pass : Pass) (trial : Trial)

def outcome : Outcome := .ofResult trial.finish.result

def analysis : Grader.Analysis := Grader.analyse pass trial.outcome

def testrun : Testrun :=
  Grader.testrunOf pass trial.file trial.waiting trial.outcome (trial.analysis pass)

/-- The errors that are recognised, as they are recorded. -/
def errors : List RecordedError :=
  (trial.analysis pass).errors.map (RecordedError.mk pass.submissionId)

def output : ScoredOutput Float :=
  Grader.outputOf pass trial.file trial.waiting trial.outcome (trial.analysis pass).assessment

/-- What is to be noted of the errors. -/
def errorsAct? : Option Act :=
  if (trial.analysis pass).errors.isEmpty then none else some (.recordErrors (trial.errors pass))

end Trial

inductive Task
  | scheduled
  /-- It waits for the lease. -/
  | queued (since : Nat)
  /-- It has the lease. -/
  | working (waiting : Duration)
  | executed (trial : Trial)
  | recorded (trial : Trial)
  | ended (trial : Trial)
  /-- Its output is with the others. -/
  | collected (trial : Trial)

namespace Task

def trial? : Task → Option Trial
  | executed trial | recorded trial | ended trial | collected trial => some trial
  | _ => none

/-- The trial of a task that has recorded it. -/
def recorded? : Task → Option Trial
  | recorded trial | ended trial | collected trial => some trial
  | _ => none

/-- The trial of a task that has recorded its errors, too. -/
def ended? : Task → Option Trial
  | ended trial | collected trial => some trial
  | _ => none

def collected? : Task → Option Trial
  | collected trial => some trial
  | _ => none

end Task

structure Assignment where
  pool : Pool
  pass : Pass
  files : List SubmissionFile
  /-- Records can be lost. -/
  storeFails : Bool
  /-- The records of a file can stand between those of another one. -/
  storeMixes : Bool

namespace Assignment

/-- What becomes of a note, if there is one. -/
inductive Stores (work : Assignment) (session : Session) : Option Act → Session → Prop
  | nothing : Stores work session none session
  | kept (act : Act) : Stores work session (some act) (session.noting act)
  | lost (act : Act) (fails : work.storeFails) : Stores work session (some act) session

end Assignment

/-- The runner, the tasks by the indexes of their files, and the outputs so far. -/
structure Tasks where
  session : Session
  task : Nat → Task
  outputs : List (Option (ScoredOutput Float))

namespace Tasks

def opening (files : List SubmissionFile) (runner : Runner) (world : World) : Tasks :=
  ⟨.new world runner, fun _ => .scheduled, List.replicate files.length none⟩

def put (tasks : Tasks) (index : Nat) (task : Task) : Tasks :=
  { tasks with task := fun other => if other = index then task else tasks.task other }

@[simp] theorem task_put_self (tasks : Tasks) (index : Nat) (task : Task) :
    (tasks.put index task).task index = task := if_pos rfl

theorem task_put_of_ne (tasks : Tasks) {index other : Nat} (different : other ≠ index)
    (task : Task) : (tasks.put index task).task other = tasks.task other := if_neg different

inductive Step (work : Assignment) (tasks : Tasks) : Tasks → Prop
  | share (move : Session.Move) (session : Session) (isUnattended : move.isUnattended)
      (step : Session.Step work.pool tasks.session move session) :
      Step work tasks { tasks with session }
  | queue (index : Nat) (bound : index < work.files.length)
      (isScheduled : tasks.task index = .scheduled) :
      Step work tasks (tasks.put index (.queued tasks.session.world.now))
  | lease (index since : Nat) (session : Session) (isQueued : tasks.task index = .queued since)
      (step : Session.Step work.pool tasks.session (.lease index) session) :
      Step work tasks
        { tasks.put index
            (.working (work.pass.acquisition + ⟨tasks.session.world.now - since⟩)) with session }
  | start (index : Nat) (waiting : Duration) (file : SubmissionFile) (session : Session)
      (isWorking : tasks.task index = .working waiting) (tests : work.files[index]? = some file)
      (isFresh : tasks.session.stage index = .leased none)
      (step : Session.Step work.pool tasks.session (.start index (work.pass.job file)) session) :
      Step work tasks { tasks with session }
  | drop (index : Nat) (waiting : Duration) (file : SubmissionFile) (finish : Finish)
      (session : Session) (isWorking : tasks.task index = .working waiting)
      (tests : work.files[index]? = some file)
      (isDone : tasks.session.stage index = .leased (some finish))
      (step : Session.Step work.pool tasks.session (.drop index) session) :
      Step work tasks { tasks.put index (.executed ⟨file, waiting, finish⟩) with session }
  | record (index : Nat) (trial : Trial) (session : Session)
      (isExecuted : tasks.task index = .executed trial)
      (inTurn : work.storeMixes = false → ∀ other trial, tasks.task other ≠ .recorded trial)
      (stores : work.Stores tasks.session (some (.record (trial.testrun work.pass))) session) :
      Step work tasks { tasks.put index (.recorded trial) with session }
  | recordErrors (index : Nat) (trial : Trial) (session : Session)
      (isRecorded : tasks.task index = .recorded trial)
      (stores : work.Stores tasks.session (trial.errorsAct? work.pass) session) :
      Step work tasks { tasks.put index (.ended trial) with session }
  | collect (index : Nat) (trial : Trial) (isEnded : tasks.task index = .ended trial) :
      Step work tasks
        { tasks.put index (.collected trial) with
          outputs := tasks.outputs.set index (some (trial.output work.pass)) }

def Reaches (work : Assignment) : Tasks → Tasks → Prop := Relation.ReflTransGen (Step work)

def IsDone (work : Assignment) (tasks : Tasks) : Prop :=
  ∀ index < work.files.length, ∃ trial, tasks.task index = .collected trial

/-- When all tasks are done, the runner is given back, and the outputs are combined. -/
def close (work : Assignment) (submission : Submission) (tasks : Tasks) :
    Activity (SubmissionScore Float) := do
  let _ ← tasks.session.runner.release work.pool
  Grader.combine submission tasks.outputs

end Tasks

/-- The grading of a submission has come to its tasks: the environment was set up, and the runner
was handed out. -/
structure Grader.Opens (grader : Grader) (submission : Submission) (cancellation : Option Nat)
    (world : World) (work : Assignment) (tasks : Tasks) : Prop where
  prepared : ∃ setup classifier runner waiting later,
    Grader.setup submission.environment = .ok (setup, classifier) ∧
      (grader.acquire submission).perform world = (some (.ok (runner, waiting)), later) ∧
      work.pass = grader.passOf submission setup classifier cancellation waiting later.now ∧
      tasks = .opening work.files runner later
  pool : work.pool = grader.pool
  files : work.files = submission.gradableFiles

/-- The grading of a submission has completed its tasks. -/
structure Grader.Completes (grader : Grader) (submission : Submission) (cancellation : Option Nat)
    (world : World) (work : Assignment) (opening done : Tasks) : Prop where
  opens : grader.Opens submission cancellation world work opening
  reaches : Tasks.Reaches work opening done
  isDone : done.IsDone work

end Grading
