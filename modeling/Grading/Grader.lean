import Grading.Assessor
import Grading.Classifier
import Grading.Configuration
import Grading.Lease
import Grading.Score

namespace Grading

/-! Grading a submission: a runner is acquired, every gradable file is tested on it and scored, the
runner is given back, and the scores are combined. -/

structure Grader where
  pool : Pool
  catalog : Catalog
  searching : Searching
  /-- Whether the store takes a record, after what has happened. -/
  keeps : Log → Bool

structure RunTimes where
  waiting : Duration
  execution : Duration
  deriving DecidableEq

/-- What stays the same for all files of a submission. -/
structure Pass where
  submissionId : Identifier
  command : CommandTemplate
  assessor : Assessor
  classifier : Classifier
  searching : Searching
  feedback : Feedback
  deadline : Duration
  cancellation : Option Nat
  acquisition : Duration
  /-- When the files were ready to be tested. -/
  started : Nat

namespace Pass

def job (pass : Pass) (file : SubmissionFile) : Job :=
  ⟨pass.command.render file.filepath, pass.deadline, pass.cancellation, none⟩

end Pass

namespace Grader

/-- Records an execution, if the store takes it. -/
def keep (grader : Grader) (testrun : Testrun) : Activity Unit := do
  if grader.keeps (← Activity.history) then Activity.note (.record testrun)

/-- Records recognised errors, if there are any and the store takes them. -/
def keepErrors (grader : Grader) (submissionId : Identifier) (errors : List StructuredError) :
    Activity Unit := do
  if errors.isEmpty then return
  if grader.keeps (← Activity.history) then
    Activity.note (.recordErrors (errors.map (RecordedError.mk submissionId)))

/-- Acquires a runner for a submission, and tells how long that took. -/
def acquire (grader : Grader) (submission : Submission) :
    Activity (Except GradingError (Runner × Duration)) := do
  let started ← Activity.now
  let reply ← grader.pool.acquireRunner submission.userId submission.environment submission.files
  let waiting : Duration := ⟨(← Activity.now) - started⟩
  match reply with
  | .ok runner => return .ok (runner, waiting)
  | .error source => return .error (.acquisition source waiting)

/-! ## One file -/

structure Analysis where
  assessment : Assessment
  /-- Kept only of files that did not pass. -/
  log : Option String
  errors : List StructuredError

def analyse (pass : Pass) (outcome : Outcome) : Analysis :=
  let assessment := pass.assessor.assess outcome.output pass.searching
  if assessment.passed then ⟨assessment, none, []⟩
  else
    let log := Outcome.log outcome.status outcome.output
    ⟨assessment, some log, pass.classifier.classify log pass.searching⟩

theorem analyse_of_passed {pass : Pass} {outcome : Outcome}
    (passed : (pass.assessor.assess outcome.output pass.searching).passed) :
    analyse pass outcome = ⟨pass.assessor.assess outcome.output pass.searching, none, []⟩ :=
  if_pos passed

theorem analyse_of_not_passed {pass : Pass} {outcome : Outcome}
    (notPassed : ¬(pass.assessor.assess outcome.output pass.searching).passed) :
    analyse pass outcome =
      ⟨pass.assessor.assess outcome.output pass.searching,
        some (Outcome.log outcome.status outcome.output),
        pass.classifier.classify (Outcome.log outcome.status outcome.output) pass.searching⟩ :=
  if_neg notPassed

/-- The assessment is that of the output, however the command ended. -/
theorem assessment_analyse (pass : Pass) (outcome : Outcome) :
    (analyse pass outcome).assessment = pass.assessor.assess outcome.output pass.searching := by
  by_cases passed : (pass.assessor.assess outcome.output pass.searching).passed
  · rw [analyse_of_passed passed]
  · rw [analyse_of_not_passed passed]

def testrunOf (pass : Pass) (file : SubmissionFile) (waiting : Duration) (outcome : Outcome)
    (analysis : Analysis) : Testrun :=
  { submissionId := pass.submissionId
    cause := .assess
    file := file.filepath
    passed := analysis.assessment.passed
    log := analysis.log
    status := outcome.status
    exitCode := outcome.exitCode
    executionTime := outcome.duration
    waitingTime := waiting }

def outputOf (pass : Pass) (file : SubmissionFile) (waiting : Duration) (outcome : Outcome)
    (assessment : Assessment) : ScoredOutput Float :=
  { role := file.role
    status := outcome.status
    score := assessment.score
    weight := file.weight
    executionTime := some outcome.duration
    waitingTime := waiting
    details := some
      { fileName := pass.feedback.displayName file
        message := pass.feedback.message file (Quantity.isOne assessment.score)
        output := outcome.output
        result := assessment.result } }

def scoreFile (grader : Grader) (pass : Pass) (runner : Runner) (file : SubmissionFile) :
    Activity (Runner × ScoredOutput Float) := do
  let waiting := pass.acquisition + ⟨(← Activity.now) - pass.started⟩
  let executed ← runner.execute grader.pool (pass.job file)
  let outcome := Outcome.ofResult executed.result
  let analysis := analyse pass outcome
  grader.keep (testrunOf pass file waiting outcome analysis)
  grader.keepErrors pass.submissionId analysis.errors
  return (executed.runner, outputOf pass file waiting outcome analysis.assessment)

/-- Scores the files with these indexes, in this order. -/
def scoreFiles (grader : Grader) (pass : Pass) (files : List SubmissionFile) (runner : Runner) :
    List Nat → Activity (Runner × List (Nat × ScoredOutput Float))
  | [] => return (runner, [])
  | index :: rest =>
      match files[index]? with
      | none => grader.scoreFiles pass files runner rest
      | some file => do
          let (runner, output) ← grader.scoreFile pass runner file
          let (runner, outputs) ← grader.scoreFiles pass files runner rest
          return (runner, (index, output) :: outputs)

/-! ## Submissions -/

/-- Checks an environment: how files are tested in it and how failures are recognised. -/
def setup (environment : Environment) : Except SetupError (TestSetup × Classifier) := do
  let setup ← environment.testSetup
  let classifier ← Classifier.ofTemplates environment.errorTemplates
  return (setup, classifier)

def passOf (grader : Grader) (submission : Submission) (setup : TestSetup)
    (classifier : Classifier) (cancellation : Option Nat) (acquisition : Duration)
    (started : Nat) : Pass :=
  { submissionId := submission.id
    command := setup.command
    assessor := ⟨setup.framework, grader.catalog.linter⟩
    classifier
    searching := grader.searching
    feedback := grader.catalog.feedback
    deadline := submission.environment.permittedTime
    cancellation
    acquisition
    started }

/-- Combines the scores of the files, and tells the user of a full one, unless there is no runtime
that could do so in the background. -/
def combine (submission : Submission) (outputs : List (Option (ScoredOutput Float)))
    (hasRuntime : Bool := true) : Activity (SubmissionScore Float) := do
  let score := SubmissionScore.ofOutputs submission.maximumScore submission.visibility outputs
  if score.isFull && hasRuntime then
    Activity.note (.notify submission.exerciseId submission.userId)
  return score

/-- The outputs by the indexes of their files. -/
def arrange (count : Nat) (outputs : List (Nat × ScoredOutput Float)) :
    List (Option (ScoredOutput Float)) :=
  (List.range count).map fun index => outputs.lookup index

/-- Scores a submission; its gradable files get hold of the runner in the given order of their
indexes. Only setup and acquisition can fail: what goes wrong with a file shows in its output. -/
def scoreInOrder (grader : Grader) (submission : Submission) (cancellation : Option Nat)
    (order : List Nat) : Activity (Except GradingError (SubmissionScore Float)) := do
  match setup submission.environment with
  | .error error => return .error (.setup error)
  | .ok (setup, classifier) =>
      match ← grader.acquire submission with
      | .error error => return .error error
      | .ok (runner, waiting) =>
          let pass := grader.passOf submission setup classifier cancellation waiting
            (← Activity.now)
          let files := submission.gradableFiles
          let (runner, outputs) ← grader.scoreFiles pass files runner order
          let _ ← runner.release grader.pool
          return .ok (← combine submission (arrange files.length outputs))

def score (grader : Grader) (submission : Submission) (cancellation : Option Nat) :
    Activity (Except GradingError (SubmissionScore Float)) :=
  grader.scoreInOrder submission cancellation (List.range submission.gradableFiles.length)

/-! ## Single runs -/

def runRecord (submission : Submission) (file : SubmissionFile) (waiting : Duration)
    (outcome : Outcome) : Testrun :=
  { submissionId := submission.id
    cause := .run
    file := file.filepath
    passed := outcome.status = .ok
    log := some (Outcome.log outcome.status outcome.output)
    status := outcome.status
    exitCode := outcome.exitCode
    executionTime := outcome.duration
    waitingTime := waiting }

/-- How a single run went, and the channel to the receiver of its events. -/
structure RunResult where
  times : Except GradingError RunTimes
  channel : Option Channel

/-- Runs one file of a submission and hands its events on. The runner is given back before the run
is recorded. -/
def runFile (grader : Grader) (submission : Submission) (filepath : String)
    (receiver : Receiver) (cancellation : Option Nat) : Activity RunResult := do
  match submission.fileAt? filepath with
  | none => return ⟨.error (.unknownFile filepath), none⟩
  | some file =>
      match ← grader.acquire submission with
      | .error error => return ⟨.error error, none⟩
      | .ok (runner, waiting) =>
          let environment := submission.environment
          let executed ← runner.execute grader.pool
            ⟨environment.runCommand.render file.filepath, environment.permittedTime, cancellation,
              some receiver⟩
          let _ ← executed.runner.release grader.pool
          let outcome := Outcome.ofResult executed.result
          grader.keep (runRecord submission file waiting outcome)
          let times := match executed.result with
            | .ok done => .ok ⟨waiting, done.duration⟩
            | .error source => .error (.execution file.filepath source waiting)
          return ⟨times, executed.channel⟩

end Grader

end Grading
