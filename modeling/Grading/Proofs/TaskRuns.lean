import Grading.Proofs.Listening
import Grading.Proofs.Serialization
import Grading.Tasks

namespace Grading

/-! What holds of tasks at any time: one of them has the lease at most, every trial is of a command
that was started on the runner, and the outputs are those of the tasks that are collected. -/

namespace Tasks

variable {work : Assignment} {first tasks next : Tasks}

/-! ## The session of the tasks -/

theorem isBookkeeping_of_errorsAct? {pass : Pass} {trial : Trial} {act : Act}
    (noted : trial.errorsAct? pass = some act) : act.isBookkeeping := by
  rw [Trial.errorsAct?] at noted
  split at noted
  · cases noted
  · cases noted
    rfl

/-- Storing is a move of the session, unless nothing is stored. -/
theorem cases_of_stores {act : Option Act} {session : Session}
    (isBookkeeping : ∀ other, act = some other → other.isBookkeeping)
    (stores : work.Stores tasks.session act session) :
    session = tasks.session ∨
      ∃ move, move.isOrderly ∧ Session.Step work.pool tasks.session move session := by
  cases stores with
  | nothing => exact .inl rfl
  | lost other fails => exact .inl rfl
  | kept other => exact .inr ⟨.note other, rfl, .note other (isBookkeeping other rfl)⟩

/-- Tasks let each other keep the lease, and keep the runner. -/
theorem Step.cases_of_session (step : Step work tasks next) :
    next.session = tasks.session ∨
      ∃ move, move.isOrderly ∧ Session.Step work.pool tasks.session move next.session := by
  cases step with
  | queue | collect => exact .inl rfl
  | share move session isUnattended step =>
      refine .inr ⟨move, ?_, step⟩
      cases move <;> first | rfl | cases isUnattended
  | lease index since session isQueued step => exact .inr ⟨_, rfl, step⟩
  | start index waiting file session isWorking tests isFresh step => exact .inr ⟨_, rfl, step⟩
  | drop index waiting file finish session isWorking tests isDone step =>
      exact .inr ⟨_, rfl, step⟩
  | record index trial session isExecuted inTurn stores =>
      exact cases_of_stores (fun other same => by cases same; rfl) stores
  | recordErrors index trial session isRecorded stores =>
      exact cases_of_stores (fun other => isBookkeeping_of_errorsAct?) stores

/-- What is done to a shared runner is done by its clients. -/
theorem Reaches.session_reaches (reaches : Reaches work tasks next) :
    Session.Reaches work.pool tasks.session next.session := by
  induction reaches with
  | refl => exact .refl
  | tail earlier step induction =>
      rcases step.cases_of_session with same | ⟨move, -, step⟩
      · exact same ▸ induction
      · exact induction.tail ⟨move, step⟩

theorem stage_of_stores {act : Option Act} {session : Session}
    (stores : work.Stores tasks.session act session) :
    session.stage = tasks.session.stage ∧ session.holder = tasks.session.holder ∧
      session.runner = tasks.session.runner := by
  cases stores <;> exact ⟨rfl, rfl, rfl⟩

/-! ## Holding the lease -/

/-- The working task has the lease, and what it waits for will come. -/
structure Coherent (work : Assignment) (tasks : Tasks) : Prop where
  working : ∀ index, tasks.session.stage index ≠ .away ↔
    ∃ waiting, tasks.task index = .working waiting
  held : ∀ client, tasks.session.holder = some client → tasks.session.stage client ≠ .away
  indexed : ∀ index, tasks.task index ≠ .scheduled → index < work.files.length
  ending : ∀ index course, tasks.session.stage index = .busy course →
    ∃ finish, course.conclusion? = some finish

theorem Coherent.opening (runner : Runner) (world : World) :
    Coherent work (opening work.files runner world) where
  working _ := ⟨fun present => absurd rfl present, nofun⟩
  held _ held := nomatch held
  indexed _ started := absurd rfl started
  ending _ _ isBusy := nomatch isBusy

namespace Coherent

/-- A task that neither gets nor gives up the lease can go on. -/
theorem put (coherent : Coherent work tasks) {index : Nat} {task : Task} {session : Session}
    (bound : index < work.files.length)
    (lasting : (∃ waiting, task = .working waiting) ↔
      ∃ waiting, tasks.task index = .working waiting)
    (stage : session.stage = tasks.session.stage) (holder : session.holder = tasks.session.holder)
    (outputs : List (Option (ScoredOutput Float))) :
    Coherent work { tasks.put index task with session, outputs } where
  working other := by
    rw [stage]
    by_cases same : other = index
    · rw [same, coherent.working index, ← lasting]
      simp [Tasks.put]
    · rw [coherent.working other]
      simp [Tasks.put, same]
  held client held := by
    rw [stage]
    exact coherent.held client (holder ▸ held)
  indexed other started := by
    by_cases same : other = index
    · exact same ▸ bound
    · exact coherent.indexed other (by simpa [Tasks.put, same] using started)
  ending other course isBusy := coherent.ending other course (stage ▸ isBusy)

/-- A working task can go on with what it has of the runner. -/
theorem use (coherent : Coherent work tasks) {index : Nat}
    (present : tasks.session.stage index ≠ .away) (stage : Stage) (notAway : stage ≠ .away)
    (ending : ∀ course, stage = .busy course → ∃ finish, course.conclusion? = some finish)
    (world : World) (runner : Runner) :
    Coherent work { tasks with
      session := { tasks.session.put index stage with world, runner } } where
  working other := by
    by_cases same : other = index
    · subst same
      rw [← coherent.working other]
      simp [Session.put, notAway, present]
    · rw [← coherent.working other]
      simp [Session.put, same]
  held client held := by
    by_cases same : client = index
    · simpa [Session.put, same] using notAway
    · simpa [Session.put, same] using coherent.held client held
  indexed := coherent.indexed
  ending other course isBusy := by
    by_cases same : other = index
    · exact ending course (by simpa [Session.put, same] using isBusy)
    · exact coherent.ending other course (by simpa [Session.put, same] using isBusy)

theorem step (coherent : Coherent work tasks) (step : Step work tasks next) :
    Coherent work next := by
  cases step with
  | share move session isUnattended step =>
      refine ⟨?_, ?_, coherent.indexed, ?_⟩
      · intro index
        rw [← coherent.working index]
        exact not_congr (step.away_iff_of_unattended isUnattended index)
      · intro client held
        rw [step.holder_of_unattended isUnattended] at held
        exact (not_congr (step.away_iff_of_unattended isUnattended client)).mpr
          (coherent.held client held)
      · intro index course isBusy
        rcases step.cases_of_unattended isUnattended index with
          same | ⟨earlier, wasBusy, ⟨following, goesOn, same⟩ | ⟨finish, -, settled⟩⟩
        · exact coherent.ending index course (same ▸ isBusy)
        · rw [isBusy] at goesOn
          cases goesOn
          rw [same]
          exact coherent.ending index earlier wasBusy
        · rw [isBusy] at settled
          cases settled
  | queue index bound isScheduled =>
      exact coherent.put bound (by simp [isScheduled]) rfl rfl tasks.outputs
  | lease index since session isQueued step =>
      cases step with
      | lease _ isFree isAway =>
          refine ⟨?_, ?_, ?_, ?_⟩
          · intro other
            by_cases same : other = index
            · simp [Tasks.put, Session.put, same]
            · simpa [Tasks.put, Session.put, same] using coherent.working other
          · intro client held
            cases held
            simp [Session.put]
          · intro other started
            by_cases same : other = index
            · exact same ▸ coherent.indexed index (by rw [isQueued]; exact nofun)
            · exact coherent.indexed other (by simpa [Tasks.put, same] using started)
          · intro other course isBusy
            by_cases same : other = index
            · simp [Session.put, same] at isBusy
            · exact coherent.ending other course (by simpa [Session.put, same] using isBusy)
  | start index waiting file session isWorking tests isFresh step =>
      have present := (coherent.working index).mpr ⟨waiting, isWorking⟩
      cases step with
      | start _ _ last runner course world hasLease started =>
          refine coherent.use present (.busy course) nofun ?_ world runner
          intro other same
          cases same
          exact Runner.exists_conclusion?_of_start rfl started
      | refuse _ _ last finish world hasLease refused =>
          refine coherent.use present (.leased (some finish)) nofun ?_ world _
          intro other same
          cases same
  | drop index waiting file finish session isWorking tests isDone step =>
      cases step with
      | drop _ last hasLease =>
          refine ⟨?_, nofun, ?_, ?_⟩
          · intro other
            by_cases same : other = index
            · simp [Tasks.put, Session.leave, Session.put, same]
            · simpa [Tasks.put, Session.leave, Session.put, same] using coherent.working other
          · intro other started
            by_cases same : other = index
            · exact same ▸ coherent.indexed index (by rw [isWorking]; exact nofun)
            · exact coherent.indexed other (by simpa [Tasks.put, same] using started)
          · intro other course isBusy
            by_cases same : other = index
            · simp [Session.leave, Session.put, same] at isBusy
            · exact coherent.ending other course
                (by simpa [Session.leave, Session.put, same] using isBusy)
  | record index trial session isExecuted inTurn stores =>
      rcases stage_of_stores stores with ⟨stage, holder, -⟩
      exact coherent.put (coherent.indexed index (by rw [isExecuted]; exact nofun))
        (by simp [isExecuted]) stage holder tasks.outputs
  | recordErrors index trial session isRecorded stores =>
      rcases stage_of_stores stores with ⟨stage, holder, -⟩
      exact coherent.put (coherent.indexed index (by rw [isRecorded]; exact nofun))
        (by simp [isRecorded]) stage holder tasks.outputs
  | collect index trial isEnded =>
      exact coherent.put (coherent.indexed index (by rw [isEnded]; exact nofun))
        (by simp [isEnded]) rfl rfl _

theorem reaches (coherent : Coherent work tasks) (reaches : Reaches work tasks next) :
    Coherent work next := by
  induction reaches with
  | refl => exact coherent
  | tail _ step induction => exact induction.step step

end Coherent

/-! ## Trials -/

/-- The finish is that of a command that the task started when it had the runner. -/
def Originates (work : Assignment) (first : Tasks) (index : Nat) (file : SubmissionFile)
    (finish : Finish) : Prop :=
  ∃ earlier, Reaches work first earlier ∧ earlier.session.stage index = .leased none ∧
    earlier.session.runner.Ends work.pool (work.pass.job file) earlier.session.world finish

/-- Such a finish tells what was heard. -/
theorem Originates.isFaithful {index : Nat} {file : SubmissionFile} {finish : Finish}
    (originates : Originates work first index file finish) : finish.IsFaithful := by
  rcases originates with ⟨earlier, -, -, ends⟩
  exact ends.isFaithful

theorem trial?_of_put {index other : Nat} {task : Task} {trial : Trial}
    (tried : ((tasks.put index task).task other).trial? = some trial)
    (kept : task.trial? = some trial → (tasks.task index).trial? = some trial) :
    (tasks.task other).trial? = some trial := by
  by_cases same : other = index
  · subst same
    rw [task_put_self] at tried
    exact kept tried
  · rwa [task_put_of_ne tasks same] at tried

/-- A trial was there before, or it is that of a working task, whose command is over. -/
theorem Step.cases_of_trial? (step : Step work tasks next) {index : Nat} {trial : Trial}
    (tried : (next.task index).trial? = some trial) :
    (tasks.task index).trial? = some trial ∨
      (work.files[index]? = some trial.file ∧
        tasks.session.stage index = .leased (some trial.finish)) := by
  cases step with
  | share | start => exact .inl tried
  | queue | lease => exact .inl (trial?_of_put tried nofun)
  | drop other waiting file finish session isWorking tests isDone step =>
      by_cases same : index = other
      · subst same
        have put : (tasks.put index (.executed ⟨file, waiting, finish⟩)).task index =
            .executed ⟨file, waiting, finish⟩ := task_put_self tasks index _
        change ((tasks.put index _).task index).trial? = some trial at tried
        rw [put] at tried
        cases tried
        exact .inr ⟨tests, isDone⟩
      · exact .inl (by simpa [Tasks.put, same] using tried)
  | record other last session isExecuted =>
      exact .inl (trial?_of_put tried fun kept => by rw [isExecuted]; exact kept)
  | recordErrors other last session isRecorded =>
      exact .inl (trial?_of_put tried fun kept => by rw [isRecorded]; exact kept)
  | collect other last isEnded =>
      exact .inl (trial?_of_put tried fun kept => by rw [isEnded]; exact kept)

/-- Every finish originates in a command of the task. -/
structure Grounded (work : Assignment) (first tasks : Tasks) : Prop where
  staged : ∀ index file finish, work.files[index]? = some file →
    (tasks.session.stage index).conclusion? = some finish →
    Originates work first index file finish
  tried : ∀ index trial, (tasks.task index).trial? = some trial →
    work.files[index]? = some trial.file ∧ Originates work first index trial.file trial.finish

theorem Grounded.opening (runner : Runner) (world : World) :
    Grounded work (opening work.files runner world) (opening work.files runner world) where
  staged _ _ _ _ concluded := nomatch concluded
  tried _ _ tried := nomatch tried

theorem Grounded.step (grounded : Grounded work first tasks) (reaches : Reaches work first tasks)
    (step : Step work tasks next) : Grounded work first next where
  tried index trial tried := by
    rcases step.cases_of_trial? tried with earlier | ⟨tests, isDone⟩
    · exact grounded.tried index trial earlier
    · exact ⟨tests, grounded.staged index trial.file trial.finish tests (by rw [isDone]; rfl)⟩
  staged := by
    cases step with
    | share move session isUnattended step =>
        intro index file finish tests concluded
        rw [step.conclusion?_of_unattended isUnattended] at concluded
        exact grounded.staged index file finish tests concluded
    | queue | collect => exact grounded.staged
    | record index trial session isExecuted inTurn stores =>
        have same := (stage_of_stores stores).1
        intro other file finish tests concluded
        exact grounded.staged other file finish tests (same ▸ concluded)
    | recordErrors index trial session isRecorded stores =>
        have same := (stage_of_stores stores).1
        intro other file finish tests concluded
        exact grounded.staged other file finish tests (same ▸ concluded)
    | lease index since session isQueued step =>
        intro other file finish tests concluded
        cases step with
        | lease =>
            by_cases same : other = index
            · simp [Session.put, same, Stage.conclusion?] at concluded
            · exact grounded.staged other file finish tests
                (by simpa [Session.put, same] using concluded)
    | drop index waiting _ _ session isWorking _ isDone step =>
        intro other file finish tests concluded
        cases step with
        | drop =>
            by_cases same : other = index
            · simp [Session.leave, Session.put, same, Stage.conclusion?] at concluded
            · exact grounded.staged other file finish tests
                (by simpa [Session.leave, Session.put, same] using concluded)
    | start index waiting file session isWorking tests isFresh step =>
        intro other otherFile finish otherTests concluded
        by_cases same : other = index
        · subst same
          cases tests.symm.trans otherTests
          refine ⟨tasks, reaches, isFresh, ?_⟩
          cases step with
          | start _ _ last runner course world hasLease started =>
              refine .concluded runner course world started ?_
              simpa [Session.put, Stage.conclusion?] using concluded
          | refuse _ _ last finish world hasLease refused =>
              simp only [Session.stage_put_self, Stage.conclusion?] at concluded
              cases concluded
              exact .refused world refused
        · have unchanged : session.stage other = tasks.session.stage other := by
            cases step with
            | start => exact Session.stage_put_of_ne tasks.session same _
            | refuse => exact Session.stage_put_of_ne tasks.session same _
          exact grounded.staged other otherFile finish otherTests (unchanged ▸ concluded)

theorem grounded_of_reaches {runner : Runner} {world : World}
    (reaches : Reaches work (opening work.files runner world) tasks) :
    Grounded work (opening work.files runner world) tasks := by
  induction reaches with
  | refl => exact .opening runner world
  | tail earlier step induction => exact induction.step earlier step

/-! ## Outputs -/

/-- The outputs of the tasks that are collected, each at the index of its file. -/
def outputsOf (work : Assignment) (task : Nat → Task) : List (Option (ScoredOutput Float)) :=
  (List.range work.files.length).map fun index =>
    (task index).collected?.map (Trial.output work.pass)

theorem outputsOf_put {index : Nat} {task : Task}
    (kept : task.collected? = (tasks.task index).collected?) :
    outputsOf work (tasks.put index task).task = outputsOf work tasks.task := by
  apply List.map_congr_left
  intro other _
  by_cases same : other = index
  · subst same
    rw [task_put_self, kept]
  · rw [task_put_of_ne tasks same]

theorem outputsOf_put_collected (index : Nat) (trial : Trial) :
    outputsOf work (tasks.put index (.collected trial)).task =
      (outputsOf work tasks.task).set index (some (trial.output work.pass)) := by
  apply List.ext_getElem
  · simp only [outputsOf, List.length_set, List.length_map]
  · intro other bound _
    by_cases same : index = other
    · subst same
      simp [outputsOf, Task.collected?]
    · simp [outputsOf, same, task_put_of_ne tasks (Ne.symm same)]

theorem outputs_of_step (routed : tasks.outputs = outputsOf work tasks.task)
    (step : Step work tasks next) : next.outputs = outputsOf work next.task := by
  cases step with
  | share | start => exact routed
  | queue index bound isScheduled =>
      exact routed.trans (outputsOf_put (by rw [isScheduled]; rfl)).symm
  | lease index since session isQueued =>
      exact routed.trans (outputsOf_put (by rw [isQueued]; rfl)).symm
  | drop index waiting file finish session isWorking =>
      exact routed.trans (outputsOf_put (by rw [isWorking]; rfl)).symm
  | record index trial session isExecuted =>
      exact routed.trans (outputsOf_put (by rw [isExecuted]; rfl)).symm
  | recordErrors index trial session isRecorded =>
      exact routed.trans (outputsOf_put (by rw [isRecorded]; rfl)).symm
  | collect index trial isEnded =>
      change tasks.outputs.set index _ = outputsOf work (tasks.put index (.collected trial)).task
      rw [outputsOf_put_collected, routed]

/-- An output is at the index of its file, whenever its task came to an end. -/
theorem outputs_of_reaches {runner : Runner} {world : World}
    (reaches : Reaches work (opening work.files runner world) tasks) :
    tasks.outputs = outputsOf work tasks.task := by
  induction reaches with
  | refl =>
      apply List.ext_getElem
      · simp only [opening, outputsOf, List.length_replicate, List.length_map, List.length_range]
      · intro index _ _
        simp [opening, outputsOf, Task.collected?]
  | tail _ step induction => exact outputs_of_step induction step

/-- A task that is collected has tested its file, and its output is there. -/
theorem output_of_collected {runner : Runner} {world : World}
    (reaches : Reaches work (opening work.files runner world) tasks) {index : Nat} {trial : Trial}
    (collected : tasks.task index = .collected trial) :
    work.files[index]? = some trial.file ∧
      tasks.outputs[index]? = some (some (trial.output work.pass)) ∧
      Originates work (opening work.files runner world) index trial.file trial.finish := by
  rcases (grounded_of_reaches reaches).tried index trial (by rw [collected]; rfl) with
    ⟨tests, originates⟩
  refine ⟨tests, ?_, originates⟩
  rcases List.getElem?_eq_some_iff.mp tests with ⟨bound, -⟩
  rw [outputs_of_reaches reaches]
  simp [outputsOf, bound, collected, Task.collected?]

end Tasks

namespace Grader.Completes

variable {grader : Grader} {submission : Submission} {cancellation : Option Nat} {world : World}
  {work : Assignment} {opening done : Tasks}

theorem length_outputs
    (completes : grader.Completes submission cancellation world work opening done) :
    done.outputs.length = submission.gradableFiles.length := by
  rcases completes.opens.prepared with ⟨setup, classifier, runner, waiting, later, -, -, -, rfl⟩
  rw [Tasks.outputs_of_reaches completes.reaches, ← completes.opens.files, Tasks.outputsOf,
    List.length_map, List.length_range]

theorem output_of_collected
    (completes : grader.Completes submission cancellation world work opening done)
    {index : Nat} {trial : Trial} (collected : done.task index = .collected trial) :
    submission.gradableFiles[index]? = some trial.file ∧
      done.outputs[index]? = some (some (trial.output work.pass)) ∧
      Tasks.Originates work opening index trial.file trial.finish := by
  rcases completes.opens.prepared with ⟨setup, classifier, runner, waiting, later, -, -, -, rfl⟩
  rw [← completes.opens.files]
  exact Tasks.output_of_collected completes.reaches collected

theorem exists_output
    (completes : grader.Completes submission cancellation world work opening done)
    {index : Nat} {file : SubmissionFile} (tests : submission.gradableFiles[index]? = some file) :
    ∃ trial : Trial, trial.file = file ∧ done.task index = .collected trial ∧
      done.outputs[index]? = some (some (trial.output work.pass)) ∧
      Tasks.Originates work opening index trial.file trial.finish := by
  rcases List.getElem?_eq_some_iff.mp tests with ⟨bound, -⟩
  rw [← completes.opens.files] at bound
  rcases completes.isDone index bound with ⟨trial, collected⟩
  rcases completes.output_of_collected collected with ⟨tested, output, originates⟩
  exact ⟨trial, Option.some.inj (tested.symm.trans tests), collected, output, originates⟩

end Grader.Completes

end Grading
