import Grading.Tasks

namespace Grading

/-! The tasks of a submission on one thread. The thread comes to them one after the other, so that
they wait for the lease in line, and the first one in the line gets it. Where the clock is virtual,
time passes only while everything waits. -/

/-- Whether the task has not had the lease yet. -/
def Task.isWaiting : Task → Bool
  | scheduled | queued _ => true
  | _ => false

/-- Nothing can happen before time passes, and the tasks are not all done. -/
structure Tasks.Awaits (work : Assignment) (tasks : Tasks) : Prop where
  notDone : ¬tasks.IsDone work
  idle : ∀ next, Step work tasks next →
    next = tasks ∨ tasks.session.world.now < next.session.world.now

structure Lineup where
  tasks : Tasks
  /-- The tasks that the thread has still to come to. -/
  fresh : List Nat
  /-- The tasks that wait for the lease. -/
  line : List Nat

namespace Lineup

def opening (tasks : Tasks) (order : List Nat) : Lineup := ⟨tasks, order, []⟩

inductive Step (work : Assignment) (lineup : Lineup) : Lineup → Prop
  | queue (index : Nat) (rest : List Nat) (isNext : lineup.fresh = index :: rest)
      (bound : index < work.files.length) (isScheduled : lineup.tasks.task index = .scheduled) :
      Step work lineup
        ⟨lineup.tasks.put index (.queued lineup.tasks.session.world.now), rest,
          lineup.line ++ [index]⟩
  | lease (index since : Nat) (rest : List Nat) (session : Session)
      (isFirst : lineup.line = index :: rest)
      (isQueued : lineup.tasks.task index = .queued since)
      (step : Session.Step work.pool lineup.tasks.session (.lease index) session) :
      Step work lineup
        ⟨{ lineup.tasks.put index (.working
            (work.pass.acquisition + ⟨lineup.tasks.session.world.now - since⟩)) with session },
          lineup.fresh, rest⟩
  | go (next : Tasks) (step : Tasks.Step work lineup.tasks next)
      (apart : ∀ index, (lineup.tasks.task index).isWaiting →
        next.task index = lineup.tasks.task index) :
      Step work lineup { lineup with tasks := next }

theorem Step.tasks_step {work : Assignment} {lineup next : Lineup} (step : Step work lineup next) :
    Tasks.Step work lineup.tasks next.tasks := by
  cases step with
  | queue index rest isNext bound isScheduled => exact .queue index bound isScheduled
  | lease index since rest session isFirst isQueued step =>
      exact .lease index since session isQueued step
  | go next step => exact step

theorem tasks_reaches_of_steps {work : Assignment} {lineup next : Lineup}
    (steps : Relation.ReflTransGen (Step work) lineup next) :
    Tasks.Reaches work lineup.tasks next.tasks :=
  steps.lift tasks fun _ _ step => step.tasks_step

/-- The clock is virtual: it does not go on while something can happen. -/
def Prompt (work : Assignment) (lineup next : Lineup) : Prop :=
  lineup.tasks.session.world.now < next.tasks.session.world.now → lineup.tasks.Awaits work

def Reaches (work : Assignment) : Lineup → Lineup → Prop :=
  Relation.ReflTransGen fun lineup next => Step work lineup next ∧ Prompt work lineup next

theorem Reaches.steps {work : Assignment} {lineup next : Lineup}
    (reaches : Reaches work lineup next) : Relation.ReflTransGen (Step work) lineup next :=
  Relation.ReflTransGen.mono (fun _ _ => And.left) _ _ reaches

theorem Reaches.tasks_reaches {work : Assignment} {lineup next : Lineup}
    (reaches : Reaches work lineup next) : Tasks.Reaches work lineup.tasks next.tasks :=
  tasks_reaches_of_steps reaches.steps

end Lineup

/-- The grading of a submission has completed its tasks on one thread, which came to them in this
order, and on a virtual clock. -/
structure Grader.CompletesInTurn (grader : Grader) (submission : Submission)
    (cancellation : Option Nat) (world : World) (work : Assignment) (opening : Tasks)
    (order : List Nat) (done : Lineup) : Prop where
  opens : grader.Opens submission cancellation world work opening
  reaches : Lineup.Reaches work (.opening opening order) done
  isDone : done.tasks.IsDone work

theorem Grader.CompletesInTurn.completes {grader : Grader} {submission : Submission}
    {cancellation : Option Nat} {world : World} {work : Assignment} {opening : Tasks}
    {order : List Nat} {done : Lineup}
    (completes :
      grader.CompletesInTurn submission cancellation world work opening order done) :
    grader.Completes submission cancellation world work opening done.tasks :=
  ⟨completes.opens, completes.reaches.tasks_reaches, completes.isDone⟩

end Grading
