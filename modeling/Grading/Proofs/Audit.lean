import Grading.Proofs.Independence
import Grading.Proofs.TaskRuns
import Mathlib.Data.List.Nodup

namespace Grading

/-! The records of a pass agree with its outputs. A store that keeps everything has one record of
every file, which says of its execution what the output says, and the errors that are recognised in
the texts of these records. -/

namespace Tasks

variable {work : Assignment} {tasks next : Tasks} {past : Task → Option Trial}

/-! ## Orders of tasks -/

/-- The order in which the tasks have got past a point. -/
structure Follows (past : Task → Option Trial) (task : Nat → Task) (order : List Nat) : Prop where
  nodup : order.Nodup
  mem : ∀ index, index ∈ order ↔ (past (task index)).isSome

/-- What they note there, in this order. -/
def notes {α : Type} (note : Trial → List α) (past : Task → Option Trial) (task : Nat → Task)
    (order : List Nat) : List α :=
  order.flatMap fun index => (past (task index)).elim [] note

theorem Follows.of_same {task later : Nat → Task} {order : List Nat}
    (follows : Follows past task order) (same : ∀ index, past (later index) = past (task index)) :
    Follows past later order where
  nodup := follows.nodup
  mem index := by rw [follows.mem, same]

theorem notes_of_same {α : Type} (note : Trial → List α) {task later : Nat → Task}
    (same : ∀ index, past (later index) = past (task index)) (order : List Nat) :
    notes note past later order = notes note past task order := by
  simp only [notes, same]

/-- A task that gets past the point is the last one. -/
theorem Follows.put {index : Nat} {order : List Nat} (follows : Follows past tasks.task order)
    (before : past (tasks.task index) = none) {task : Task} {trial : Trial}
    (after : past task = some trial) :
    Follows past (tasks.put index task).task (order ++ [index]) := by
  have fresh : index ∉ order := by
    rw [follows.mem, before]
    exact nofun
  refine ⟨?_, ?_⟩
  · rw [← List.concat_eq_append]
    exact follows.nodup.concat fresh
  · intro other
    rw [List.mem_append, List.mem_singleton, follows.mem]
    by_cases same : other = index
    · rw [same, task_put_self, after]
      simp
    · rw [task_put_of_ne tasks same]
      simp [same]

theorem notes_put {α : Type} (note : Trial → List α) {index : Nat} {order : List Nat}
    (follows : Follows past tasks.task order) (before : past (tasks.task index) = none)
    {task : Task} {trial : Trial} (after : past task = some trial) :
    notes note past (tasks.put index task).task (order ++ [index]) =
      notes note past tasks.task order ++ note trial := by
  have fresh : index ∉ order := by
    rw [follows.mem, before]
    exact nofun
  have earlier : ∀ other ∈ order, (past ((tasks.put index task).task other)).elim [] note =
      (past (tasks.task other)).elim [] note := by
    intro other member
    have different : other ≠ index := by
      rintro rfl
      exact fresh member
    rw [task_put_of_ne tasks different]
  rw [notes, List.flatMap_append, List.flatMap_congr earlier]
  simp [notes, after]

theorem past_put (past : Task → Option Trial) {index : Nat} {task : Task}
    (same : past task = past (tasks.task index)) (other : Nat) :
    past ((tasks.put index task).task other) = past (tasks.task other) := by
  by_cases here : other = index
  · rw [here, task_put_self, same]
  · rw [task_put_of_ne tasks here]

/-! ## Runs -/

/-- The store has the records and the errors of the trials in the orders in which they were made.
The orders are the same if the store does not mix them, unless a task is between its records. -/
structure Audited (work : Assignment) (before : Log) (tasks : Tasks) (order errorOrder : List Nat) :
    Prop where
  records : Follows Task.recorded? tasks.task order
  errorRecords : Follows Task.ended? tasks.task errorOrder
  testruns : tasks.session.world.log.testruns = before.testruns ++
    notes (fun trial => [trial.testrun work.pass]) Task.recorded? tasks.task order
  errors : tasks.session.world.log.errors = before.errors ++
    notes (Trial.errors work.pass) Task.ended? tasks.task errorOrder
  inTurn : work.storeMixes = false → errorOrder = order ∨
    ∃ index, (tasks.task index).ended? = none ∧ order = errorOrder ++ [index]

namespace Audited

variable {before : Log} {order errorOrder : List Nat}

/-- Where nothing is recorded, everything stays recorded. -/
theorem of_same (audited : Audited work before tasks order errorOrder)
    (recorded : ∀ index, (next.task index).recorded? = (tasks.task index).recorded?)
    (ended : ∀ index, (next.task index).ended? = (tasks.task index).ended?)
    (log : next.session.world.log.records = tasks.session.world.log.records) :
    Audited work before next order errorOrder where
  records := audited.records.of_same recorded
  errorRecords := audited.errorRecords.of_same ended
  testruns := by
    rw [notes_of_same _ recorded, ← audited.testruns]
    exact congrArg Records.testruns log
  errors := by
    rw [notes_of_same _ ended, ← audited.errors]
    exact congrArg Records.errors log
  inTurn separate := by
    rcases audited.inTurn separate with same | ⟨index, notEnded, last⟩
    · exact .inl same
    · exact .inr ⟨index, (ended index).trans notEnded, last⟩

theorem of_put (audited : Audited work before tasks order errorOrder) {index : Nat} {task : Task}
    (recorded : task.recorded? = (tasks.task index).recorded?)
    (ended : task.ended? = (tasks.task index).ended?) {session : Session}
    (log : session.world.log.records = tasks.session.world.log.records)
    (outputs : List (Option (ScoredOutput Float))) :
    Audited work before { tasks.put index task with session, outputs } order errorOrder :=
  audited.of_same (past_put Task.recorded? recorded) (past_put Task.ended? ended) log

/-- A store that does not fail keeps what is noted. -/
theorem world_of_stores (keeps : work.storeFails = false) {session later : Session} {act : Act}
    (stores : work.Stores session (some act) later) : later.world = session.world.noting act := by
  cases stores with
  | kept => rfl
  | lost _ fails =>
      rw [keeps] at fails
      cases fails

/-- A task that has recorded its trial, but not its errors, is between its records. -/
theorem exists_recorded {task : Task} (recorded : task.recorded?.isSome)
    (notEnded : task.ended? = none) : ∃ trial, task = .recorded trial := by
  cases task with
  | recorded trial => exact ⟨trial, rfl⟩
  | ended | collected => cases notEnded
  | scheduled | queued | working | executed => cases recorded

theorem record (audited : Audited work before tasks order errorOrder)
    (keeps : work.storeFails = false) {index : Nat} {trial : Trial} {session : Session}
    (isExecuted : tasks.task index = .executed trial)
    (inTurn : work.storeMixes = false → ∀ other trial, tasks.task other ≠ .recorded trial)
    (stores : work.Stores tasks.session (some (.record (trial.testrun work.pass))) session) :
    Audited work before { tasks.put index (.recorded trial) with session } (order ++ [index])
      errorOrder := by
  have notRecorded : (tasks.task index).recorded? = none := by rw [isExecuted]; rfl
  have notEnded : (tasks.task index).ended? = none := by rw [isExecuted]; rfl
  have ended : Task.ended? (.recorded trial) = (tasks.task index).ended? := notEnded.symm
  have sameEnded := past_put Task.ended? ended
  have log : session.world.log = tasks.session.world.log ++
      [⟨tasks.session.world.now, .record (trial.testrun work.pass)⟩] :=
    congrArg World.log (world_of_stores keeps stores)
  refine ⟨audited.records.put notRecorded rfl, audited.errorRecords.of_same sameEnded, ?_, ?_, ?_⟩
  · rw [log, Log.testruns_append, audited.testruns, List.append_assoc]
    exact congrArg _ (notes_put _ audited.records notRecorded rfl).symm
  · rw [log, Log.errors_append, audited.errors, notes_of_same _ sameEnded]
    exact List.append_nil _
  · intro separate
    rcases audited.inTurn separate with same | ⟨other, otherNotEnded, last⟩
    · exact .inr ⟨index, (sameEnded index).trans notEnded, by rw [same]⟩
    · have recorded := (audited.records.mem other).mp (by simp [last])
      rcases exists_recorded recorded otherNotEnded with ⟨trial, isRecorded⟩
      exact absurd isRecorded (inTurn separate other trial)

theorem log_of_stores_errors (keeps : work.storeFails = false) {trial : Trial} {session : Session}
    (stores : work.Stores tasks.session (trial.errorsAct? work.pass) session) :
    session.world.log.testruns = tasks.session.world.log.testruns ∧
      session.world.log.errors = tasks.session.world.log.errors ++ trial.errors work.pass := by
  by_cases nothing : (trial.analysis work.pass).errors.isEmpty
  · have none : trial.errors work.pass = [] := by
      rw [Trial.errors, List.isEmpty_iff.mp nothing, List.map_nil]
    rw [Trial.errorsAct?, if_pos nothing] at stores
    cases stores
    rw [none, List.append_nil]
    exact ⟨rfl, rfl⟩
  · rw [Trial.errorsAct?, if_neg nothing] at stores
    rw [world_of_stores keeps stores, World.log_noting, Log.testruns_append, Log.errors_append]
    refine ⟨List.append_nil _, congrArg _ ?_⟩
    exact List.append_nil _

theorem recordErrors (audited : Audited work before tasks order errorOrder)
    (keeps : work.storeFails = false) {index : Nat} {trial : Trial} {session : Session}
    (isRecorded : tasks.task index = .recorded trial)
    (stores : work.Stores tasks.session (trial.errorsAct? work.pass) session) :
    Audited work before { tasks.put index (.ended trial) with session } order
      (errorOrder ++ [index]) := by
  have notEnded : (tasks.task index).ended? = none := by rw [isRecorded]; rfl
  have recorded : Task.recorded? (.ended trial) = (tasks.task index).recorded? := by
    rw [isRecorded]
    rfl
  have sameRecorded := past_put Task.recorded? recorded
  have noted : session.world.log.testruns = tasks.session.world.log.testruns ∧
      session.world.log.errors = tasks.session.world.log.errors ++ trial.errors work.pass :=
    log_of_stores_errors keeps stores
  refine ⟨audited.records.of_same sameRecorded, audited.errorRecords.put notEnded rfl, ?_, ?_, ?_⟩
  · rw [noted.1, audited.testruns, notes_of_same _ sameRecorded]
  · rw [noted.2, audited.errors, List.append_assoc]
    exact congrArg _ (notes_put _ audited.errorRecords notEnded rfl).symm
  · intro separate
    have member : index ∈ order := by
      rw [audited.records.mem, isRecorded]
      rfl
    have notMember : index ∉ errorOrder := by
      rw [audited.errorRecords.mem, notEnded]
      exact nofun
    rcases audited.inTurn separate with same | ⟨other, -, last⟩
    · exact absurd (same ▸ member) notMember
    · rw [last, List.mem_append] at member
      rcases member with earlier | here
      · exact absurd earlier notMember
      · rw [List.mem_singleton.mp here]
        exact .inl last.symm

theorem step (audited : Audited work before tasks order errorOrder)
    (keeps : work.storeFails = false) (step : Step work tasks next) :
    ∃ order errorOrder, Audited work before next order errorOrder := by
  cases step with
  | share move session isUnattended step =>
      refine ⟨order, errorOrder, audited.of_same (fun _ => rfl) (fun _ => rfl) (step.records_eq ?_)⟩
      cases move <;> first | rfl | cases isUnattended
  | start index waiting file session isWorking tests isFresh step =>
      exact ⟨order, errorOrder,
        audited.of_same (fun _ => rfl) (fun _ => rfl) (step.records_eq rfl)⟩
  | queue index bound isScheduled =>
      refine ⟨order, errorOrder, audited.of_put ?_ ?_ rfl tasks.outputs⟩
      · rw [isScheduled]
        rfl
      · rw [isScheduled]
        rfl
  | lease index since session isQueued step =>
      refine ⟨order, errorOrder, audited.of_put ?_ ?_ (step.records_eq rfl) tasks.outputs⟩
      · rw [isQueued]
        rfl
      · rw [isQueued]
        rfl
  | drop index waiting file finish session isWorking tests isDone step =>
      refine ⟨order, errorOrder, audited.of_put ?_ ?_ (step.records_eq rfl) tasks.outputs⟩
      · rw [isWorking]
        rfl
      · rw [isWorking]
        rfl
  | record index trial session isExecuted inTurn stores =>
      exact ⟨_, _, audited.record keeps isExecuted inTurn stores⟩
  | recordErrors index trial session isRecorded stores =>
      exact ⟨_, _, audited.recordErrors keeps isRecorded stores⟩
  | collect index trial isEnded =>
      refine ⟨order, errorOrder, audited.of_put ?_ ?_ rfl _⟩
      · rw [isEnded]
        rfl
      · rw [isEnded]
        rfl

theorem opening (runner : Runner) (world : World) :
    Audited work world.log (opening work.files runner world) [] [] where
  records := ⟨List.nodup_nil, fun _ => ⟨nofun, nofun⟩⟩
  errorRecords := ⟨List.nodup_nil, fun _ => ⟨nofun, nofun⟩⟩
  testruns := (List.append_nil _).symm
  errors := (List.append_nil _).symm
  inTurn _ := .inl rfl

end Audited

/-- Whatever the tasks do, a store that keeps everything is in order. -/
theorem exists_audited_of_reaches (keeps : work.storeFails = false) {runner : Runner}
    {world : World} (reaches : Reaches work (opening work.files runner world) tasks) :
    ∃ order errorOrder, Audited work world.log tasks order errorOrder := by
  induction reaches with
  | refl => exact ⟨[], [], .opening runner world⟩
  | tail _ step induction =>
      rcases induction with ⟨order, errorOrder, audited⟩
      exact audited.step keeps step

/-- Tasks that are done got past every point. -/
theorem past_of_isDone (coherent : Coherent work tasks) (isDone : tasks.IsDone work)
    (fresh : past .scheduled = none) (passed : ∀ trial, past (.collected trial) = some trial)
    (index : Nat) : (past (tasks.task index)).isSome ↔ index < work.files.length := by
  constructor
  · intro isPast
    apply coherent.indexed
    intro isScheduled
    rw [isScheduled, fresh] at isPast
    cases isPast
  · intro bound
    rcases isDone index bound with ⟨trial, collected⟩
    rw [collected, passed]
    rfl

/-- The order of tasks that are done has every file. -/
theorem Follows.perm {order : List Nat} (follows : Follows past tasks.task order)
    (coherent : Coherent work tasks) (isDone : tasks.IsDone work)
    (fresh : past .scheduled = none) (passed : ∀ trial, past (.collected trial) = some trial) :
    order.Perm (List.range work.files.length) := by
  rw [List.perm_ext_iff_of_nodup follows.nodup List.nodup_range]
  intro index
  rw [follows.mem, past_of_isDone coherent isDone fresh passed, List.mem_range]

theorem notes_flatMap {α β : Type} (note : Trial → List α) (next : α → List β)
    (past : Task → Option Trial) (task : Nat → Task) (order : List Nat) :
    (notes note past task order).flatMap next =
      notes (fun trial => (note trial).flatMap next) past task order := by
  rw [notes, List.flatMap_assoc]
  apply List.flatMap_congr
  intro index _
  cases past (task index) <;> rfl

/-- What the tasks of an order note one by one. -/
theorem forall₂_notes {α : Type} {relation : Nat → α → Prop} {value : Trial → α}
    {task : Nat → Task} {order : List Nat}
    (related : ∀ index ∈ order, ∃ trial, past (task index) = some trial ∧
      relation index (value trial)) :
    List.Forall₂ relation order (notes (fun trial => [value trial]) past task order) := by
  induction order with
  | nil => exact .nil
  | cons index rest induction =>
      rcases related index List.mem_cons_self with ⟨trial, isPast, holds⟩
      have others := induction fun other member => related other (List.mem_cons_of_mem index member)
      rw [notes, List.flatMap_cons, isPast]
      exact .cons holds others

/-- In the end the outputs are combined, and nothing more is recorded. -/
theorem score_and_records_of_close {submission : Submission} {score : SubmissionScore Float}
    {later : World}
    (closes : (tasks.close work submission).perform tasks.session.world = (some score, later)) :
    score = .ofOutputs submission.maximumScore submission.visibility tasks.outputs ∧
      later.log.records = tasks.session.world.log.records := by
  rcases Activity.exists_of_perform_bind closes with ⟨released, middle, releases, combines⟩
  have step : Session.Step work.pool (.new tasks.session.world tasks.session.runner) .release
      { Session.new tasks.session.world tasks.session.runner with
        world := middle, runner := released } := .release released middle rfl releases
  have given : middle.log.records = tasks.session.world.log.records := step.records_eq rfl
  rw [← given]
  simp only [Grader.combine] at combines
  split at combines
  · cases combines
    simp only [Log.records, World.log_noting, Log.testruns_append, Log.errors_append]
    exact ⟨trivial, congr (congrArg Records.mk (List.append_nil _)) (List.append_nil _)⟩
  · cases combines
    exact ⟨rfl, rfl⟩

end Tasks

/-- Nor is acquiring a runner. -/
theorem Grader.records_of_acquire {grader : Grader} {submission : Submission}
    {world later : World} {reply : Except GradingError (Runner × Duration)}
    (acquired : (grader.acquire submission).perform world = (some reply, later)) :
    later.log.records = world.log.records := by
  rw [acquire, Activity.perform_bind_of_some (Activity.perform_now world)] at acquired
  rcases Activity.exists_of_perform_bind acquired with ⟨answer, middle, asked, acquired⟩
  rcases Pool.exists_of_acquireRunner asked with ⟨added, log, isRoutine⟩
  have same : later = middle := by
    cases answer <;> · cases acquired; rfl
  rw [same, log]
  apply Log.records_append_of_unrecorded
  intro act member
  exact Act.isBookkeeping_of_isRoutine (isRoutine act member)

/-! ## The records of a pass -/

namespace Testrun

/-- The errors that are recognised in the text of a record that did not pass. -/
def recognised (classifier : Classifier) (searching : Searching) (testrun : Testrun) :
    List RecordedError :=
  if testrun.passed then []
  else (classifier.classify (testrun.log.getD "") searching).map
    (RecordedError.mk testrun.submissionId)

end Testrun

namespace Trial

variable {pass : Pass} {trial : Trial}

/-- The recorded errors are those that are recognised in the record. -/
theorem recognised_testrun :
    (trial.testrun pass).recognised pass.classifier pass.searching = trial.errors pass := by
  by_cases passed : (pass.assessor.assess trial.outcome.output pass.searching).passed
  · simp only [Testrun.recognised, errors, testrun, analysis, Grader.testrunOf,
      Grader.analyse_of_passed passed]
    rw [if_pos passed, List.map_nil]
  · simp only [Testrun.recognised, errors, testrun, analysis, Grader.testrunOf,
      Grader.analyse_of_not_passed passed]
    rw [if_neg passed, Option.getD_some]

end Trial

/-- When all tasks are done, the store has one record of each, and the errors that are recognised in
these records. -/
theorem Tasks.exists_records_of_isDone {work : Assignment} {runner : Runner} {world : World}
    {done : Tasks} (keeps : work.storeFails = false)
    (reaches : Reaches work (opening work.files runner world) done) (isDone : done.IsDone work) :
    ∃ (order : List Nat) (testruns inTurn : List Testrun),
      order.Perm (List.range work.files.length) ∧
      List.Forall₂ (fun index testrun => ∃ trial, done.task index = .collected trial ∧
        testrun = trial.testrun work.pass) order testruns ∧
      inTurn.Perm testruns ∧ (work.storeMixes = false → inTurn = testruns) ∧
      done.session.world.log.testruns = world.log.testruns ++ testruns ∧
      done.session.world.log.errors =
        world.log.errors ++
          inTurn.flatMap (Testrun.recognised work.pass.classifier work.pass.searching) := by
  rcases exists_audited_of_reaches keeps reaches with ⟨order, errorOrder, audited⟩
  have coherent := (Coherent.opening runner world).reaches reaches
  have recordedOrder := audited.records.perm coherent isDone rfl fun _ => rfl
  have endedOrder := audited.errorRecords.perm coherent isDone rfl fun _ => rfl
  let record : Trial → List Testrun := fun trial => [trial.testrun work.pass]
  have sameNotes : notes record Task.ended? done.task errorOrder =
      notes record Task.recorded? done.task errorOrder := by
    apply List.flatMap_congr
    intro index member
    rcases isDone index (List.mem_range.mp (endedOrder.subset member)) with ⟨trial, collected⟩
    rw [collected]
    rfl
  refine ⟨order, _, notes record Task.ended? done.task errorOrder, recordedOrder, ?_, ?_, ?_,
    audited.testruns, ?_⟩
  · apply forall₂_notes
    intro index member
    rcases isDone index (List.mem_range.mp (recordedOrder.subset member)) with ⟨trial, collected⟩
    exact ⟨trial, by rw [collected]; rfl, trial, collected, rfl⟩
  · rw [sameNotes]
    exact (endedOrder.trans recordedOrder.symm).flatMap_right _
  · intro separate
    rw [sameNotes]
    rcases audited.inTurn separate with same | ⟨index, notEnded, last⟩
    · rw [same]
    · have member : index ∈ List.range work.files.length := recordedOrder.subset (by simp [last])
      rcases isDone index (List.mem_range.mp member) with ⟨trial, collected⟩
      rw [collected] at notEnded
      cases notEnded
  · rw [audited.errors, notes_flatMap]
    simp only [record, List.flatMap_singleton, Trial.recognised_testrun]

namespace Grader

namespace Completes

variable {grader : Grader} {submission : Submission} {cancellation : Option Nat}
  {world later : World} {work : Assignment} {opening done : Tasks} {score : SubmissionScore Float}

end Completes

end Grader

end Grading
