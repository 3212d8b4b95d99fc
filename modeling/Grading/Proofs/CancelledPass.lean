import Grading.Proofs.Audit
import Grading.Proofs.Cancellation
import Grading.Proofs.Release

namespace Grading

/-! A pass that is cancelled still returns a score. Its files have the outputs that they would have
had, as far as their commands had ended by then, and the others were terminated. -/

/-! ## Outputs -/

namespace ScoredOutput

/-- When the command of a file was started, in a pass from `began` on. -/
def started (began : Nat) (output : ScoredOutput Float) : Nat :=
  began + output.waitingTime.nanoseconds

/-- The command was terminated by the client after a time, with what had been captured. -/
structure Terminated (output : ScoredOutput Float) (captured : CapturedOutput) (time : Duration) :
    Prop where
  status : output.status = .terminatedByClient
  captured : output.details.map OutputDetails.output = some captured
  executionTime : output.executionTime = some time

/-- What becomes of an output in a pass that is cancelled at an instant. -/
structure CutOff (answer : Answer (Except RunnerError EventStream)) (began instant : Nat)
    (output cut : ScoredOutput Float) : Prop where
  timed : ∃ time, output.executionTime = some time
  finished : ∀ time, output.executionTime = some time →
    output.started began + time.nanoseconds < instant → cut = output
  /-- The command that was under way has what had arrived of it. -/
  stopped : ∀ time, output.executionTime = some time → output.started began < instant →
    instant ≤ output.started began + time.nanoseconds →
    cut.Terminated (.ofEvents (answer.heardBefore instant (output.started began)))
      ⟨instant - output.started began⟩ ∧ cut.waitingTime = output.waitingTime
  skipped : instant ≤ output.started began → cut.Terminated .empty .zero

end ScoredOutput

/-- A trial that was cancelled shows it in its output. -/
theorem Trial.terminated_output {trial : Trial} {captured : CapturedOutput} {time : Duration}
    (cancelled : trial.finish.result = .error ⟨.cancelled, captured, time⟩) (pass : Pass) :
    (trial.output pass).Terminated captured time := by
  simp only [output, outcome, cancelled]
  exact ⟨rfl, rfl, rfl⟩

/-! ## Visits -/

namespace Visit

variable {work cutWork : Assignment} {answer : String → Answer (Except RunnerError EventStream)}
  {instant : Nat}

/-- Where the visits of a pass are cut off, so are its outputs. -/
theorem CutOff.output {visit cut : Visit} (cutOff : CutOff work cutWork answer instant visit cut)
    (accords : visit.Accords work answer)
    (immediate : ∀ command, (answer command).reply.all (·.1 = 0))
    (pass : cutWork.pass = { work.pass with cancellation := some instant }) {began : Nat}
    (started : (visit.trial.output work.pass).started began = visit.start) :
    ScoredOutput.CutOff (answer (visit.job work).command) began instant
      (visit.trial.output work.pass) (cut.trial.output cutWork.pass) := by
  have bounds := Job.bounds_of_conclusionAt? accords.concludes
  have duration := Job.duration_of_conclusionAt? (immediate _) accords.concludes
  have executed : (visit.trial.output work.pass).executionTime =
      some ⟨visit.trial.finish.instant - visit.start⟩ := congrArg some duration
  have ended : ∀ time, (visit.trial.output work.pass).executionTime = some time →
      visit.start + time.nanoseconds = visit.trial.finish.instant := by
    intro time same
    cases executed.symm.trans same
    exact Nat.add_sub_cancel' bounds.1
  refine ⟨⟨_, executed⟩, ?_, ?_, ?_⟩
  · intro time same early
    rw [started, ended time same] at early
    cases cutOff with
    | finished _ _ unchanged =>
        rw [unchanged, pass]
        rfl
    | stopped heard _ late => omega
    | skipped late => omega
  · intro time same first late
    rw [started] at first
    rw [started, ended time same] at late
    cases cutOff with
    | finished early => omega
    | skipped late => omega
    | stopped heard _ _ _ _ waiting hears finish =>
        rw [started, ← hears]
        exact ⟨Trial.terminated_output (congrArg Finish.result finish) cutWork.pass, waiting⟩
  · intro late
    rw [started] at late
    cases cutOff with
    | finished _ first => omega
    | stopped heard first => omega
    | skipped _ _ result => exact Trial.terminated_output result cutWork.pass

end Visit

namespace Succession

variable {work cutWork : Assignment} {answer : String → Answer (Except RunnerError EventStream)}
  {visits cuts : List Visit} {began last instant : Nat}

end Succession

/-! ## Passes -/

namespace Grader

variable {grader : Grader} {scripted : ScriptedPool} {submission : Submission} {world later : World}

/-- What a pass leaves after it has returned: its runner was given back once, and a store that keeps
everything has one record of each file. -/
structure Leaves (submission : Submission) (world later : World) (work : Assignment)
    (done : Tasks) (score : SubmissionScore Float) : Prop where
  score : score = .ofOutputs submission.maximumScore submission.visibility done.outputs
  released : later.log.releases = world.log.releases ++ [ScriptedPool.runnerId]
  recorded : work.storeFails = false → ∃ (outputs : List (ScoredOutput Float))
    (testruns : List Testrun), done.outputs = outputs.map some ∧
    later.log.testruns = world.log.testruns ++ testruns ∧
    (testruns.map fun testrun => (testrun.file, testrun.status, some testrun.executionTime)).Perm
      ((submission.gradableFiles.zip outputs).map fun tested =>
        (tested.1.filepath, tested.2.status, tested.2.executionTime))

namespace CompletesInTurn

variable {cancellation : Option Nat} {work : Assignment} {opening : Tasks} {order : List Nat}
  {done : Lineup}

/-- A store that keeps everything has one record of each visit. -/
theorem exists_testruns_perm
    (completes : grader.CompletesInTurn submission cancellation world work opening order done)
    (keeps : work.storeFails = false) {visits : List Visit}
    (visited : visits.map Visit.index = List.range work.files.length)
    (collected : ∀ visit ∈ visits, done.tasks.task visit.index = .collected visit.trial) :
    ∃ testruns : List Testrun,
      done.tasks.session.world.log.testruns = world.log.testruns ++ testruns ∧
      testruns.Perm (visits.map fun visit => visit.trial.testrun work.pass) := by
  rcases completes.opens.prepared with
    ⟨setup, classifier, runner, waiting, ready, -, acquired, -, isOpening⟩
  have reaches := isOpening ▸ Lineup.Reaches.tasks_reaches completes.reaches
  rcases Tasks.exists_records_of_isDone keeps reaches completes.isDone with
    ⟨recordOrder, testruns, -, perm, records, -, -, recorded, -⟩
  have acquiring : ready.log.testruns = world.log.testruns :=
    congrArg Records.testruns (records_of_acquire acquired)
  refine ⟨testruns, acquiring ▸ recorded, ?_⟩
  let recordOf (index : Nat) : Option Testrun :=
    (done.tasks.task index).collected?.map fun trial => trial.testrun work.pass
  have inOrder : recordOrder.map recordOf = testruns.map some := by
    rw [← List.forall₂_eq_eq_eq, List.forall₂_map_left_iff, List.forall₂_map_right_iff]
    apply records.imp
    rintro index testrun ⟨trial, isCollected, rfl⟩
    simp only [recordOf, isCollected, Task.collected?, Option.map_some]
  have visitedRecords : (visits.map fun visit => visit.trial.testrun work.pass).map some =
      (List.range work.files.length).map recordOf := by
    rw [← visited, List.map_map, List.map_map]
    apply List.map_congr_left
    intro visit member
    simp only [Function.comp_apply, recordOf, collected visit member, Task.collected?,
      Option.map_some]
  have same := perm.map recordOf
  rw [inOrder, ← visitedRecords] at same
  simpa using same.filterMap id

/-- Where the files are visited in their order, what a pass leaves is known of the visits. -/
theorem leaves (isScripted : grader.pool = scripted.toPool) (idle : world.log.live = 0)
    (completes : grader.CompletesInTurn submission cancellation world work opening
      (List.range submission.gradableFiles.length) done) {score : SubmissionScore Float}
    (closes : (done.tasks.close work submission).perform done.tasks.session.world =
      (some score, later)) :
    Leaves submission world later work done.tasks score := by
  have provides := completes.opens.provides isScripted
  rcases Tasks.score_and_records_of_close closes with ⟨combined, records⟩
  refine ⟨combined, completes.completes.releases_eq isScripted provides idle closes, ?_⟩
  intro keeps
  rcases completes.exists_visits isScripted provides idle (.refl _) with
    ⟨visits, last, succession, visited, collected, -⟩
  rw [← completes.opens.files] at visited
  rcases completes.exists_testruns_perm keeps visited collected with ⟨testruns, recorded, perm⟩
  refine ⟨_, testruns, completes.outputs_eq visited collected,
    (congrArg Records.testruns records).trans recorded, ?_⟩
  rw [← completes.opens.files, ← succession.map_file visited, List.zip_map', List.map_map]
  refine (perm.map _).trans ?_
  rw [List.map_map]
  exact .refl _

end CompletesInTurn

end Grader

end Grading
