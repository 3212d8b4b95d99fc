import Grading.Proofs.TaskRuns
import Mathlib.Algebra.BigOperators.Group.Finset.Basic
import Mathlib.Algebra.Order.BigOperators.Group.Finset

namespace Grading

/-! Tasks come to an end. Every step that is not just waiting brings one of them nearer to it, and
until all of them are there, some step can be made. -/

/-! ## How much is left -/

/-- How many turns a command still has. -/
def Course.distance : Course → Nat
  | attaching .. => 2
  | listening _ => 1
  | closed _ => 0

theorem Course.distance_lt_of_next? {course : Course} {turn : Turn}
    (next : course.next? = some turn) : turn.course.distance < course.distance := by
  cases course with
  | closed finish => cases next
  | listening finish =>
      rcases Option.map_eq_some_iff.mp next with ⟨finish, -, rfl⟩
      exact Nat.zero_lt_one
  | attaching limits channel decision =>
      rcases Option.map_eq_some_iff.mp next with ⟨⟨instant, error | stream⟩, -, rfl⟩
      · exact Nat.zero_lt_two
      · exact Nat.one_lt_two

theorem Course.distance_le (course : Course) : course.distance ≤ 2 := by
  cases course <;> simp [distance]

/-- How many moves the holder of the lease still has. -/
def Stage.distance : Stage → Nat
  | away => 0
  | leased (some _) => 1
  | busy course => course.distance + 2
  | leased none => 5

/-- How many steps a task still has, with what it has of the runner. -/
def Task.distance (stage : Stage) : Task → Nat
  | scheduled => 10
  | queued _ => 9
  | working _ => stage.distance + 3
  | executed _ => 3
  | recorded _ => 2
  | ended _ => 1
  | collected _ => 0

namespace Tasks

variable {work : Assignment} {tasks next : Tasks}

def distance (tasks : Tasks) (index : Nat) : Nat :=
  (tasks.task index).distance (tasks.session.stage index)

/-- How many steps all tasks still have. -/
def remaining (work : Assignment) (tasks : Tasks) : Nat :=
  ∑ index ∈ Finset.range work.files.length, tasks.distance index

theorem remaining_lt {index : Nat} (bound : index < work.files.length)
    (nearer : next.distance index < tasks.distance index)
    (others : ∀ other, other ≠ index → next.distance other = tasks.distance other) :
    next.remaining work < tasks.remaining work := by
  apply Finset.sum_lt_sum
  · intro other _
    by_cases same : other = index
    · exact same ▸ Nat.le_of_lt nearer
    · exact Nat.le_of_eq (others other same)
  · exact ⟨index, Finset.mem_range.mpr bound, nearer⟩

/-- A task that does not touch the runner gets nearer to its end. -/
theorem remaining_lt_of_put {index : Nat} {task : Task} {session : Session}
    (bound : index < work.files.length) (stage : session.stage = tasks.session.stage)
    (nearer : task.distance (tasks.session.stage index) < tasks.distance index)
    (outputs : List (Option (ScoredOutput Float))) :
    remaining work { tasks.put index task with session, outputs } < tasks.remaining work := by
  apply remaining_lt bound
  · simpa [distance, Tasks.put, stage] using nearer
  · intro other different
    simp [distance, Tasks.put, stage, different]

/-- A working task gets nearer to its end with what it has of the runner. -/
theorem remaining_lt_of_use (coherent : Coherent work tasks) {index : Nat} {stage : Stage}
    (present : tasks.session.stage index ≠ .away)
    (nearer : stage.distance < (tasks.session.stage index).distance) (world : World)
    (runner : Runner) :
    remaining work { tasks with
      session := { tasks.session.put index stage with world, runner } } <
        tasks.remaining work := by
  rcases (coherent.working index).mp present with ⟨waiting, isWorking⟩
  apply remaining_lt (coherent.indexed index (by simp [isWorking]))
  · simpa [distance, isWorking, Session.put, Task.distance] using nearer
  · intro other different
    simp [distance, Session.put, different]

/-- Every step brings a task nearer to its end, unless all stays as it is for the tasks. -/
theorem Step.remaining_lt (coherent : Coherent work tasks) (step : Step work tasks next) :
    (next.task = tasks.task ∧ next.session.stage = tasks.session.stage) ∨
      next.remaining work < tasks.remaining work := by
  cases step with
  | share move session isUnattended step =>
      cases step with
      | wait => exact .inl ⟨rfl, rfl⟩
      | advance client course following world isBusy isLive advanced =>
          rcases Course.exists_turn_of_advance isLive advanced with ⟨turn, turns, rfl, -⟩
          have nearer := Course.distance_lt_of_next? turns
          refine .inr (remaining_lt_of_use coherent ?_ ?_ world tasks.session.runner)
          · simp [isBusy]
          · rw [isBusy]
            exact Nat.add_lt_add_right nearer 2
      | settle client finish runner world isOver settled =>
          refine .inr (remaining_lt_of_use coherent ?_ ?_ world runner)
          · simp [isOver]
          · rw [isOver]
            exact Nat.one_lt_two
      | _ => cases isUnattended
  | queue index bound isScheduled =>
      exact .inr (remaining_lt_of_put bound rfl (by simp [distance, isScheduled, Task.distance]) _)
  | lease index since session isQueued step =>
      have bound := coherent.indexed index (by simp [isQueued])
      cases step with
      | lease =>
          refine .inr (remaining_lt bound ?_ ?_)
          · simp [distance, Tasks.put, Session.put, isQueued, Task.distance, Stage.distance]
          · intro other different
            simp [distance, Tasks.put, Session.put, different]
  | start index waiting file session isWorking tests isFresh step =>
      have present := (coherent.working index).mpr ⟨waiting, isWorking⟩
      cases step with
      | start _ _ last runner course world hasLease started =>
          refine .inr (remaining_lt_of_use coherent present ?_ world runner)
          have short := course.distance_le
          rw [isFresh]
          simp only [Stage.distance]
          omega
      | refuse _ _ last finish world hasLease refused =>
          refine .inr (remaining_lt_of_use coherent present ?_ world tasks.session.runner)
          rw [isFresh]
          simp only [Stage.distance]
          omega
  | drop index waiting file finish session isWorking tests isDone step =>
      have bound := coherent.indexed index (by simp [isWorking])
      cases step with
      | drop =>
          refine .inr (remaining_lt bound ?_ ?_)
          · simp [distance, Tasks.put, isWorking, isDone, Task.distance, Stage.distance]
          · intro other different
            simp [distance, Tasks.put, Session.leave, Session.put, different]
  | record index trial session isExecuted inTurn stores =>
      have bound := coherent.indexed index (by simp [isExecuted])
      exact .inr (remaining_lt_of_put bound (stage_of_stores stores).1
        (by simp [distance, isExecuted, Task.distance]) _)
  | recordErrors index trial session isRecorded stores =>
      have bound := coherent.indexed index (by simp [isRecorded])
      exact .inr (remaining_lt_of_put bound (stage_of_stores stores).1
        (by simp [distance, isRecorded, Task.distance]) _)
  | collect index trial isEnded =>
      have bound := coherent.indexed index (by simp [isEnded])
      exact .inr (remaining_lt_of_put bound rfl (by simp [distance, isEnded, Task.distance]) _)

/-! ## Going on -/

/-- The working task can go on. -/
theorem exists_step_of_working (coherent : Coherent work tasks) {index : Nat} {waiting : Duration}
    (isWorking : tasks.task index = .working waiting) :
    ∃ next, Step work tasks next ∧ next.remaining work < tasks.remaining work := by
  have bound := coherent.indexed index (by simp [isWorking])
  have tests : work.files[index]? = some work.files[index] := List.getElem?_eq_getElem bound
  -- A step that changes what the task has of the runner does not just wait.
  have going : ∀ next, Step work tasks next →
      next.session.stage index ≠ tasks.session.stage index →
      ∃ next, Step work tasks next ∧ next.remaining work < tasks.remaining work := by
    intro next step changes
    exact ⟨next, step, (step.remaining_lt coherent).resolve_left
      fun same => changes (congrFun same.2 index)⟩
  cases stage : tasks.session.stage index with
  | away => exact absurd stage ((coherent.working index).mpr ⟨waiting, isWorking⟩)
  | leased last =>
      cases last with
      | none =>
          rcases Runner.exists_perform_start work.pool tasks.session.runner
            (work.pass.job work.files[index]) tasks.session.world with
            ⟨finish | started, later, ended⟩
          · refine going _ (.start index waiting _ _ isWorking tests stage
              (.refuse index _ none finish later stage ended)) ?_
            simp [Session.put, stage]
          · refine going _ (.start index waiting _ _ isWorking tests stage
              (.start index _ none started.1 started.2 later stage ended)) ?_
            simp [Session.put, stage]
      | some finish =>
          refine going _ (.drop index waiting _ finish _ isWorking tests stage
            (.drop index (some finish) stage)) ?_
          simp [Session.leave, Session.put, stage]
  | busy course =>
      rcases coherent.ending index course stage with ⟨finish, concluded⟩
      by_cases isLive : course.isLive
      · rcases Course.exists_next?_of_conclusion? isLive concluded with ⟨turn, turns⟩
        refine going _ (.share (.advance index) _ rfl
          (.advance index _ _ _ stage isLive (Course.perform_advance turns _))) ?_
        have nearer := Course.distance_lt_of_next? turns
        simp only [Session.stage_put_self, stage]
        intro same
        cases same
        exact Nat.lt_irrefl _ nearer
      · cases course with
        | attaching => exact absurd rfl isLive
        | listening => exact absurd rfl isLive
        | closed last =>
            refine going _ (.share (.settle index) _ rfl
              (.settle index last _ _ stage (Runner.perform_settle _ _ _))) ?_
            simp [Session.put, stage]

/-- Where no task is working, the lease is free. -/
theorem holder_eq_none (coherent : Coherent work tasks)
    (idle : ∀ index waiting, tasks.task index ≠ .working waiting) :
    tasks.session.holder = none := by
  cases held : tasks.session.holder with
  | none => rfl
  | some client =>
      rcases (coherent.working client).mp (coherent.held client held) with ⟨waiting, isWorking⟩
      exact absurd isWorking (idle client waiting)

/-- Until all tasks are done, one of them can go on. -/
theorem exists_step (coherent : Coherent work tasks) (notDone : ¬tasks.IsDone work) :
    ∃ next, Step work tasks next ∧ next.remaining work < tasks.remaining work := by
  have going : ∀ next index, Step work tasks next → next.task index ≠ tasks.task index →
      ∃ next, Step work tasks next ∧ next.remaining work < tasks.remaining work := by
    intro next index step changes
    exact ⟨next, step, (step.remaining_lt coherent).resolve_left
      fun same => changes (congrFun same.1 index)⟩
  by_cases idle : ∃ index waiting, tasks.task index = .working waiting
  · rcases idle with ⟨index, waiting, isWorking⟩
    exact exists_step_of_working coherent isWorking
  by_cases recording : ∃ index trial, tasks.task index = .recorded trial
  · rcases recording with ⟨index, trial, isRecorded⟩
    have stores : ∃ session, work.Stores tasks.session (trial.errorsAct? work.pass) session := by
      cases trial.errorsAct? work.pass with
      | none => exact ⟨_, .nothing⟩
      | some act => exact ⟨_, .kept act⟩
    rcases stores with ⟨session, stores⟩
    refine going _ index (.recordErrors index trial session isRecorded stores) ?_
    simp [Tasks.put, isRecorded]
  simp only [IsDone, not_forall, not_exists] at notDone
  rcases notDone with ⟨index, bound, notCollected⟩
  cases task : tasks.task index with
  | scheduled =>
      refine going _ index (.queue index bound task) ?_
      simp [Tasks.put, task]
  | queued since =>
      have isFree := holder_eq_none coherent fun other waiting isWorking =>
        idle ⟨other, waiting, isWorking⟩
      have isAway : tasks.session.stage index = .away := by
        by_contra present
        rcases (coherent.working index).mp present with ⟨waiting, isWorking⟩
        exact idle ⟨index, waiting, isWorking⟩
      refine going _ index (.lease index since _ task (.lease index isFree isAway)) ?_
      simp [Tasks.put, task]
  | working waiting => exact absurd ⟨index, waiting, task⟩ idle
  | executed trial =>
      have inTurn : ∀ other last, tasks.task other ≠ .recorded last :=
        fun other last isRecorded => recording ⟨other, last, isRecorded⟩
      refine going _ index (.record index trial _ task (fun _ => inTurn) (.kept _)) ?_
      simp [Tasks.put, task]
  | recorded trial => exact absurd ⟨index, trial, task⟩ recording
  | ended trial =>
      refine going _ index (.collect index trial task) ?_
      simp [Tasks.put, task]
  | collected trial => exact absurd task (notCollected trial)

/-- Tasks can always be completed. -/
theorem exists_reaches_isDone (coherent : Coherent work tasks) :
    ∃ done, Reaches work tasks done ∧ done.IsDone work := by
  induction remaining : tasks.remaining work using Nat.strongRecOn generalizing tasks with
  | ind count induction =>
      by_cases isDone : tasks.IsDone work
      · exact ⟨tasks, .refl, isDone⟩
      · rcases exists_step coherent isDone with ⟨next, step, fewer⟩
        rcases induction _ (remaining ▸ fewer) (coherent.step step) rfl with ⟨done, reaches, isDone⟩
        exact ⟨done, .head step reaches, isDone⟩

end Tasks

/-! ## File by file -/

/-- A job that nobody is told of is executed in the end. -/
theorem Runner.exists_perform_execute (pool : Pool) (runner : Runner) {job : Job}
    (unreceived : job.receiver = none) (world : World) :
    ∃ executed later, (execute pool runner job).perform world = (some executed, later) := by
  rcases exists_perform_start pool runner job world with
    ⟨finish | ⟨executing, course⟩, between, started⟩
  · rw [execute, Activity.perform_bind_of_some started]
    exact ⟨_, _, rfl⟩
  · rcases exists_conclusion?_of_start unreceived started with ⟨finish, concluded⟩
    rcases Course.exists_perform_conclude concluded between with ⟨later, ended⟩
    rw [execute, Activity.perform_bind_of_some started]
    simp only [Activity.perform_bind_of_some ended]
    exact ⟨_, _, rfl⟩

namespace Grader

variable (grader : Grader)

theorem exists_perform_keep (testrun : Testrun) (world : World) :
    ∃ later, (grader.keep testrun).perform world = (some (), later) := by
  rw [keep, Activity.perform_bind_of_some (Activity.perform_history world)]
  split
  · exact ⟨_, rfl⟩
  · exact ⟨_, rfl⟩

theorem exists_perform_keepErrors (submissionId : Identifier) (errors : List StructuredError)
    (world : World) :
    ∃ later, (grader.keepErrors submissionId errors).perform world = (some (), later) := by
  rw [keepErrors]
  split
  · exact ⟨_, rfl⟩
  · simp only [Activity.perform_bind_of_some (Activity.perform_history world)]
    split
    · exact ⟨_, rfl⟩
    · exact ⟨_, rfl⟩

theorem exists_perform_scoreFile (pass : Pass) (runner : Runner) (file : SubmissionFile)
    (world : World) :
    ∃ result later, (grader.scoreFile pass runner file).perform world = (some result, later) := by
  have unreceived : (pass.job file).receiver = none := rfl
  rcases Runner.exists_perform_execute grader.pool runner unreceived world with
    ⟨executed, ended, executes⟩
  rw [scoreFile, Activity.perform_bind_of_some (Activity.perform_now world)]
  simp only [Activity.perform_bind_of_some executes]
  rcases grader.exists_perform_keep _ ended with ⟨recorded, kept⟩
  rcases grader.exists_perform_keepErrors pass.submissionId _ recorded with ⟨later, keptErrors⟩
  rw [Activity.perform_bind_of_some kept, Activity.perform_bind_of_some keptErrors]
  exact ⟨_, _, rfl⟩

theorem exists_perform_scoreFiles (pass : Pass) (files : List SubmissionFile) (runner : Runner)
    (order : List Nat) (world : World) :
    ∃ result later, (grader.scoreFiles pass files runner order).perform world =
      (some result, later) := by
  induction order generalizing runner world with
  | nil => exact ⟨_, _, rfl⟩
  | cons index rest induction =>
      rw [scoreFiles]
      cases files[index]? with
      | none => exact induction runner world
      | some file =>
          rcases grader.exists_perform_scoreFile pass runner file world with
            ⟨first, between, scored⟩
          rcases induction first.1 between with ⟨others, later, following⟩
          simp only [Activity.perform_bind_of_some scored, Activity.perform_bind_of_some following]
          exact ⟨_, _, rfl⟩

theorem exists_perform_combine (submission : Submission)
    (outputs : List (Option (ScoredOutput Float))) (world : World) :
    ∃ score later, (combine submission outputs).perform world = (some score, later) := by
  rw [combine]
  split
  · exact ⟨_, _, rfl⟩
  · exact ⟨_, _, rfl⟩

end Grader

end Grading
