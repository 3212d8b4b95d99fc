import Grading.Proofs.Audit
import Grading.Proofs.Fraction

namespace Grading

/-! What a file is worth whose command did not exit. Its output carries the status of the error, but
it is assessed like any other: what the framework reads in the output before is worth as much as in
the output of a command that exited. -/

/-! ## Reports that are worth nothing -/

theorem Text.lt_of_naturalBelow? {bound value : Nat} {text : List Char}
    (read : naturalBelow? bound text = some value) : value < bound := by
  have isBelow : ∀ digits : List Char, (if digits.isEmpty then none
      else (digitsValue? 0 digits).filter (· < bound)) = some value → value < bound := by
    intro digits read
    split at read
    · cases read
    · exact of_decide_eq_true (Option.filter_eq_some_iff.mp read).2
  exact isBelow _ read

namespace Report

theorem getD_lastNumber_le (pattern : Pattern) (text : List Char) :
    (lastNumber pattern text).getD 0 ≤ countLimit := by
  cases found : lastNumber pattern text with
  | none => exact Nat.zero_le _
  | some value =>
      simp only [lastNumber, Option.bind_eq_bind, Option.bind_eq_some_iff] at found
      rcases found with ⟨_, -, digits, -, read⟩
      exact Nat.le_of_lt_succ (Text.lt_of_naturalBelow? read)

end Report

theorem foldl_addCounts_le {counts : List Nat} {count : Nat} (small : count ≤ countLimit) :
    counts.foldl addCounts count ≤ countLimit := by
  induction counts generalizing count with
  | nil => exact small
  | cons first rest induction => exact induction (addCounts_le count first)

/-- There are never more failures than tests. -/
theorem Report.PyUnit.counts_le (text : List Char) :
    (counts text).2 ≤ (counts text).1 ∧ (counts text).1 ≤ countLimit := by
  have few := getD_lastNumber_le countPattern text
  have small : (counts text).2 ≤ countLimit := addCounts_le _ _
  simp only [counts] at small ⊢
  split
  · exact ⟨Nat.le_min.mpr ⟨Nat.le_add_left _ _, small⟩, addCounts_le _ _⟩
  · exact ⟨Nat.le_of_not_lt ‹_›, few⟩

theorem Report.PyUnit.exists_counts (output : CapturedOutput) (searching : Searching) :
    ∃ count failed messages, read output searching = .ofCounts count failed messages ∧
      failed ≤ count ∧ count ≤ countLimit := by
  cases finishes : searching.finishes (.counts output.stderr.toList) with
  | true =>
      rcases counts_le output.stderr.toList with ⟨ordered, small⟩
      exact ⟨_, _, _, by simp only [read, Searching.find_eq, finishes]; rfl, ordered, small⟩
  | false =>
      exact ⟨0, 0, _, by simp only [read, Searching.find_eq, finishes]; rfl, Nat.le_refl 0,
        Nat.zero_le _⟩

theorem Report.JUnit.exists_counts (output : CapturedOutput) (searching : Searching) :
    ∃ count failed messages, read output searching = .ofCounts count failed messages ∧
      count ≤ countLimit ∧ failed ≤ countLimit := by
  simp only [read, Searching.find_eq]
  split
  · rw [Option.getD_some, resultOf]
    split
    · rename_i count found
      have small := getD_lastNumber_le successPattern output.stdout.toList
      rw [found] at small
      exact ⟨count, 0, [], rfl, small, Nat.zero_le _⟩
    · exact ⟨_, _, _, rfl, getD_lastNumber_le _ _, getD_lastNumber_le _ _⟩
  · exact ⟨0, 0, [], rfl, Nat.zero_le _, Nat.zero_le _⟩

/-- Reports of tests are counts. -/
theorem Framework.exists_counts {framework : Framework} (tests : framework.isLinter = false)
    (output : CapturedOutput) (searching : Searching) :
    ∃ count failed messages, framework.read output searching = .ofCounts count failed messages ∧
      count ≤ countLimit ∧ failed ≤ countLimit ∧ (framework = .pyUnit → failed ≤ count) := by
  cases framework with
  | pyLint => cases tests
  | jUnit =>
      rcases Report.JUnit.exists_counts output searching with
        ⟨count, failed, messages, counted, small, small'⟩
      exact ⟨count, failed, messages, counted, small, small', nofun⟩
  | pyUnit =>
      rcases Report.PyUnit.exists_counts output searching with
        ⟨count, failed, messages, counted, ordered, small⟩
      exact ⟨count, failed, messages, counted, small, Nat.le_trans ordered small, fun _ => ordered⟩
  | cargoTest =>
      simp only [read, Report.CargoTest.read, Report.CargoTest.resultOf]
      split
      · exact ⟨_, _, _, rfl, foldl_addCounts_le (Nat.zero_le _), foldl_addCounts_le (Nat.zero_le _),
          nofun⟩
      · exact ⟨0, 0, _, rfl, Nat.zero_le _, Nat.zero_le _, nofun⟩

/-- No test passed, or the rating is nothing of its scale. -/
def TestResult.EarnsNothing (result : TestResult) : Prop :=
  match result.rating with
  | none => result.passed = 0
  | some rating => result.count = 0 ∨ rating.fraction = 0

/-- A report is worth nothing if it shows nothing that passed, and only then. -/
theorem Framework.score_read_eq_zero_iff (framework : Framework) (output : CapturedOutput)
    (searching : Searching) :
    (framework.read output searching).score = 0 ↔
      (framework.read output searching).EarnsNothing := by
  cases tests : framework.isLinter with
  | false =>
      rcases exists_counts tests output searching with
        ⟨count, failed, messages, counted, small, small', -⟩
      rw [counted]
      change (if count = 0 then 0 else Quantity.passingShare count failed) = (0 : Float) ↔
        count - failed = 0
      split
      · rename_i none
        exact ⟨fun _ => by omega, fun _ => rfl⟩
      · rw [Quantity.passingShare_eq_zero_iff (Nat.lt_succ_of_le small) (Nat.lt_succ_of_le small'),
          Nat.sub_eq_zero_iff_le]
  | true =>
      cases framework with
      | jUnit | pyUnit | cargoTest => cases tests
      | pyLint =>
          simp only [read, Report.PyLint.read, Report.PyLint.resultOf]
          cases (searching.find (.rating output.stdout.toList)
            (Report.PyLint.rating? output.stdout.toList)).join with
          | none => exact ⟨fun _ => rfl, fun _ => rfl⟩
          | some rating =>
              simp only [Option.map_some, Option.getD_some, TestResult.score,
                TestResult.EarnsNothing]
              split
              · rename_i none
                exact ⟨fun _ => .inl none, fun _ => rfl⟩
              · rename_i some
                exact ⟨.inr, fun nothing => nothing.resolve_left some⟩

/-! ## Files whose command did not exit -/

theorem Assessment.not_passed_of_score {assessment : Assessment} (nothing : assessment.score = 0) :
    assessment.passed = false := by
  have notAbove : decide ((0 : Float) > 0) = false := by decide
  rw [passed, nothing, notAbove, Bool.and_false]

/-- What is made of a file whose command did not exit. It has no score exactly if what was heard of
the command is worth nothing as a report, as far as that is searched. -/
structure PartlyCredited (framework : Framework) (searching : Searching) (error : ExecutionError)
    (heard : List Event) (output : ScoredOutput Float) (testrun : Testrun) : Prop where
  unexited : ∀ code, .exit code ∉ heard
  captured : error.output = .ofEvents heard
  status : output.status = error.status ∧ testrun.status = error.status
  score : output.score = (framework.read error.output searching).score
  earns : (output.score = 0 ∧ testrun.passed = false) ↔
    (framework.read error.output searching).EarnsNothing

theorem Trial.partlyCredited (pass : Pass) {trial : Trial} {error : ExecutionError}
    (failed : trial.finish.result = .error error) (isFaithful : trial.finish.IsFaithful) :
    PartlyCredited pass.assessor.framework pass.searching error trial.finish.heard
      (trial.output pass) (trial.testrun pass) := by
  have outcome : trial.outcome = ⟨error.status, none, error.output, error.duration⟩ := by
    rw [Trial.outcome, failed]
    rfl
  have assessment : (trial.analysis pass).assessment =
      pass.assessor.assess error.output pass.searching := by
    rw [analysis, Grader.assessment_analyse, outcome]
  have score : (trial.output pass).score =
      (pass.assessor.framework.read error.output pass.searching).score := by
    rw [output, assessment]
    rfl
  have passed : (trial.testrun pass).passed =
      (pass.assessor.assess error.output pass.searching).passed := by
    rw [testrun, Grader.testrunOf, assessment]
  refine ⟨?_, ?_, ?_, score, ?_⟩
  · intro code exited
    have code := (isFaithful.exitCode code).mpr exited
    rw [Finish.outcome, failed] at code
    cases code
  · rw [← isFaithful.output, Finish.outcome, failed]
    rfl
  · simp only [output, testrun, Grader.outputOf, Grader.testrunOf, outcome, and_self]
  · rw [score, passed, ← Framework.score_read_eq_zero_iff]
    exact ⟨And.left, fun nothing => ⟨nothing, Assessment.not_passed_of_score nothing⟩⟩

namespace Grader.Completes

variable {grader : Grader} {submission : Submission} {cancellation : Option Nat} {world : World}
  {work : Assignment} {opening done : Tasks}

theorem mem_testruns (completes : grader.Completes submission cancellation world work opening done)
    (keeps : work.storeFails = false) {index : Nat} {trial : Trial}
    (collected : done.task index = .collected trial) :
    trial.testrun work.pass ∈ done.session.world.log.testruns := by
  rcases completes.opens.prepared with ⟨_, _, runner, _, ready, -, -, -, isOpening⟩
  rcases Tasks.exists_audited_of_reaches keeps (isOpening ▸ completes.reaches) with
    ⟨order, errorOrder, audited⟩
  rw [audited.testruns]
  apply List.mem_append_right
  refine List.mem_flatMap.mpr ⟨index, ?_, ?_⟩
  · rw [audited.records.mem, collected]
    rfl
  · rw [collected]
    exact List.mem_singleton.mpr rfl

/-- A file whose command did not exit has the status of the error, but the score of what was printed
before, and its record says so. -/
theorem exists_partlyCredited
    (completes : grader.Completes submission cancellation world work opening done) {index : Nat}
    {trial : Trial} (collected : done.task index = .collected trial) {error : ExecutionError}
    (failed : trial.finish.result = .error error) :
    ∃ setup classifier output, Grader.setup submission.environment = .ok (setup, classifier) ∧
      submission.gradableFiles[index]? = some trial.file ∧
      done.outputs[index]? = some (some output) ∧
      PartlyCredited setup.framework grader.searching error trial.finish.heard output
        (trial.testrun work.pass) ∧
      (work.storeFails = false →
        trial.testrun work.pass ∈ done.session.world.log.testruns) := by
  rcases completes.opens.prepared with ⟨setup, classifier, _, _, _, valid, -, pass, -⟩
  rcases completes.output_of_collected collected with ⟨tests, output, originates⟩
  have framework : work.pass.assessor.framework = setup.framework := by rw [pass]; rfl
  have searching : work.pass.searching = grader.searching := by rw [pass]; rfl
  refine ⟨setup, classifier, _, valid, tests, output, ?_,
    fun keeps => completes.mem_testruns keeps collected⟩
  rw [← framework, ← searching]
  exact Trial.partlyCredited work.pass failed originates.isFaithful

/-- A suite that reports success and hangs times out with a full score. -/
theorem exists_partlyCredited_suites :
    ∃ work opening done trial error output,
      suiteGrader.Completes suites none .start work opening done ∧
      done.task 0 = .collected trial ∧ trial.finish.result = .error error ∧
      error.status = .timeout ∧ done.outputs[0]? = some (some output) ∧
      PartlyCredited .jUnit .unhurried error trial.finish.heard output
        (trial.testrun work.pass) ∧
      output.score = 1 := by
  have isScripted : suiteGrader.pool = hangingSuites.toPool := rfl
  rcases exists_perform_scoreInOrder isScripted rfl setup_suites none (List.range 2) .start with
    ⟨score, later, scored⟩
  rcases exists_run_of_scoreInOrder false false (fun _ _ => rfl) (.refl _) scored with
    ⟨work, opening, done, completes, -, -, -⟩
  have tests : suites.gradableFiles[0]? = some (suiteFile "SuiteTest") := rfl
  rcases completes.exists_output tests with ⟨trial, tested, collected, found, originates⟩
  rcases completes.opens.exists_scripted isScripted rfl rfl with
    ⟨setup, classifier, runner, instant, ready, valid, pass, rfl, isReady, idle⟩
  rw [setup_suites] at valid
  cases valid
  have job : work.pass.job trial.file =
      ⟨"run-tests SuiteTest.java", .ofSeconds 5, none, none⟩ := by
    rw [pass, tested]
    have command : CommandTemplate.render ⟨"run-tests %\x7bfilename\x7d"⟩
        (suiteFile "SuiteTest").filepath = "run-tests SuiteTest.java" := by decide +kernel
    exact congrArg (Job.mk · (.ofSeconds 5) none none) command
  have ended := Tasks.result_of_originates (completes.opens.pool.trans isScripted)
    (by rw [pass]; rfl) idle (by rw [isReady]; rfl) originates
  have timedOut : (Job.conclusion? ⟨"run-tests SuiteTest.java", .ofSeconds 5, none, none⟩
      (hangingSuites.answer "run-tests SuiteTest.java")).map Finish.result =
        some (.error ⟨.timeout, ⟨"OK (3 tests)\n", ""⟩, .ofSeconds 5⟩) := by decide +kernel
  rw [job, timedOut] at ended
  have failed := (Option.some.inj ended).symm
  rcases exists_partlyCredited completes collected failed with
    ⟨setup, classifier, output, valid, -, output', credited, -⟩
  rw [setup_suites] at valid
  cases valid
  have full : (Framework.read .jUnit ⟨"OK (3 tests)\n", ""⟩).score = 1 := by decide +kernel
  exact ⟨work, _, done, trial, _, output, completes, collected, failed, rfl, output', credited,
    credited.score.trans full⟩

end Grader.Completes

end Grading
