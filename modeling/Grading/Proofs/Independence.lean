import Grading.Proofs.Completion
import Grading.Proofs.Sequence

namespace Grading

/-! The files of a submission are graded independently of each other. On a runner of a scripted
pool, what becomes of a file is what would become of it alone, in whatever order the tasks go on and
however the commands of the others end. -/

/-! ## The runner between commands -/

namespace Runner

theorem isSettled_stateAfter (result : ExecutionResult) : (stateAfter result).isSettled := by
  rcases result with ⟨timeout | cancelled | source, output, duration⟩ | done
  · rfl
  · rfl
  · cases source <;> rfl
  · rfl

/-- A runner that executes can get to any state in which a command leaves it. -/
theorem state_moveOrStay_stateAfter (result : ExecutionResult) {runner : Runner}
    (executing : runner.state = .executing) :
    (runner.moveOrStay (stateAfter result)).state = stateAfter result := by
  have allowed : runner.state.canMove (stateAfter result) := by
    have settled := isSettled_stateAfter result
    rw [executing]
    cases state : stateAfter result <;> first | rfl | (rw [state] at settled; cases settled)
  rw [moveOrStay, move, if_pos allowed]

end Runner

namespace Session

variable {pool : Pool} {session next : Session}

/-- The runner executes while a command is under way. Otherwise it can. -/
structure Fit (session : Session) : Prop where
  executing : ∀ client, (session.stage client).isBusy → session.runner.state = .executing
  ready : (∀ client, (session.stage client).isBusy = false) →
    session.runner.state.canMove .executing

namespace Fit

theorem new (world : World) {runner : Runner} (ready : runner.state.canMove .executing) :
    Fit (new world runner) where
  executing _ isBusy := nomatch isBusy
  ready _ := ready

/-- A client without a command can have something else, if that is no command. -/
theorem put (fit : Fit session) {client : Nat} {stage : Stage}
    (wasIdle : (session.stage client).isBusy = false) (isIdle : stage.isBusy = false)
    (world : World) (holder : Option Nat) :
    Fit { session.put client stage with world, holder } where
  executing other isBusy := by
    by_cases same : other = client
    · subst same
      rw [stage_put_self, isIdle] at isBusy
      cases isBusy
    · rw [stage_put_of_ne session same] at isBusy
      exact fit.executing other isBusy
  ready idle := by
    apply fit.ready
    intro other
    by_cases same : other = client
    · rw [same, wasIdle]
    · rw [← idle other, stage_put_of_ne session same]

/-- While a client has a command, the runner executes. -/
theorem busy (client : Nat) (isBusy : (session.stage client).isBusy)
    (executing : session.runner.state = .executing) : Fit session where
  executing _ _ := executing
  ready idle := by
    rw [idle client] at isBusy
    cases isBusy

/-- Whatever state a command leaves the runner in, the next one can be executed. -/
theorem canMove_stateAfter (result : ExecutionResult) {runner : Runner}
    (executing : runner.state = .executing) :
    (runner.moveOrStay (Runner.stateAfter result)).state.canMove .executing := by
  rw [Runner.state_moveOrStay_stateAfter result executing]
  have settled := Runner.isSettled_stateAfter result
  cases state : Runner.stateAfter result <;> first | rfl | (rw [state] at settled; cases settled)

theorem step {move : Move} (fit : Fit session) {before : Log} (exclusive : Exclusive before session)
    (isOrderly : move.isOrderly) (step : Step pool session move next) : Fit next := by
  cases step with
  | wait | note => exact { fit with }
  | lease client isFree isAway =>
      exact fit.put (by rw [isAway]; rfl) rfl session.world (some client)
  | drop client last hasLease =>
      exact fit.put (by rw [hasLease]; rfl) rfl session.world none
  | refuse client job last finish world hasLease refused =>
      exact fit.put (by rw [hasLease]; rfl) rfl world session.holder
  | start client job last runner course world hasLease started =>
      rcases Runner.cases_of_start started with ⟨moved, -⟩
      refine Fit.busy client ?_ (Runner.state_of_move moved)
      rw [stage_put_self session client]
      rfl
  | advance client course following world isBusy isLive advanced =>
      refine Fit.busy client ?_ (fit.executing client (by rw [isBusy]; rfl))
      rw [stage_put_self session client]
      rfl
  | settle client finish runner world isOver settled =>
      cases settled
      have executing := fit.executing client (by rw [isOver]; rfl)
      refine ⟨?_, fun _ => canMove_stateAfter finish.result executing⟩
      intro other isBusy
      by_cases same : other = client
      · rw [same, stage_put_self session client] at isBusy
        cases isBusy
      · have away := exclusive.eq_away (by rw [isOver]; exact nofun) same
        rw [stage_put_of_ne session same, away] at isBusy
        cases isBusy
  | abortAway | abortHolder | abortLive | release => cases isOrderly

/-- Where a client has the lease and no command, one can be executed. -/
theorem canMove_of_leased (fit : Fit session) {before : Log} (exclusive : Exclusive before session)
    {client : Nat} {last : Option Finish} (hasLease : session.stage client = .leased last) :
    session.runner.state.canMove .executing := by
  apply fit.ready
  intro other
  by_cases same : other = client
  · rw [same, hasLease]
    rfl
  · rw [exclusive.eq_away (by rw [hasLease]; exact nofun) same]
    rfl

end Fit

/-- There, nothing is live when the runner is set to execute one. -/
theorem Exclusive.live_executing_eq_zero {before : Log} (exclusive : Exclusive before session)
    {client : Nat} {last : Option Finish} (hasLease : session.stage client = .leased last) :
    (session.world.noting (.move .executing)).log.live = 0 :=
  (live_and_peak_of_move .executing session.world).1.trans
    (exclusive.live_eq_zero (by rw [hasLease]; exact nofun) (by rw [hasLease]; rfl))

end Session

/-! ## The same results -/

namespace Tasks

variable {work : Assignment} {tasks : Tasks} {runner : Runner} {world : World}

theorem exclusive_and_fit_of_reaches (idle : world.log.live = 0)
    (ready : runner.state.canMove .executing)
    (reaches : Reaches work (opening work.files runner world) tasks) :
    Session.Exclusive world.log tasks.session ∧ Session.Fit tasks.session := by
  induction reaches with
  | refl => exact ⟨.new idle runner, .new world ready⟩
  | tail _ step induction =>
      rcases step.cases_of_session with same | ⟨move, isOrderly, step⟩
      · exact same ▸ induction
      · exact ⟨induction.1.step step, induction.2.step induction.1 isOrderly step⟩

/-- A file is tested with the result that its command has at the beginning of the clock. -/
theorem result_of_originates {scripted : ScriptedPool} (isScripted : work.pool = scripted.toPool)
    (uncancelled : work.pass.cancellation = none) (idle : world.log.live = 0)
    (ready : runner.state.canMove .executing) {index : Nat} {file : SubmissionFile}
    {finish : Finish}
    (originates : Originates work (opening work.files runner world) index file finish) :
    ((work.pass.job file).conclusion? (scripted.answer (work.pass.job file).command)).map
      Finish.result = some finish.result := by
  rcases originates with ⟨earlier, reaches, isFresh, ends⟩
  rcases exclusive_and_fit_of_reaches idle ready reaches with ⟨exclusive, fit⟩
  have movable := fit.canMove_of_leased exclusive isFresh
  have stillIdle := exclusive.live_executing_eq_zero isFresh
  have concluded := ends.conclusion? movable uncancelled rfl
  rw [isScripted] at concluded
  change ((work.pass.job file).conclusion? (scripted.attachment _ _ _)).map _ = _ at concluded
  rw [scripted.attachment_of_idle stillIdle] at concluded
  have results := congrArg (Option.map Finish.result) concluded
  rw [Option.map_map] at results
  exact results

end Tasks

/-! ## A runner of a scripted pool -/

namespace Grader

variable {grader : Grader} {scripted : ScriptedPool}

/-- Acquiring a runner takes as long as the pool delays it. -/
theorem perform_acquire (isScripted : grader.pool = scripted.toPool)
    (provides : scripted.acquireError = none) (submission : Submission) (world : World) :
    let runner := ScriptedPool.runnerFor submission.userId submission.environment
    let later := world.now + scripted.delay.nanoseconds
    (grader.acquire submission).perform world =
      (some (.ok (runner, scripted.delay)), ⟨later, world.log ++
        [⟨world.now, .acquire submission.userId⟩, ⟨later, .acquired runner⟩]⟩) := by
  intro runner later
  have acquired := ScriptedPool.perform_acquireRunner provides submission.userId
    submission.environment submission.files world
  rw [← isScripted] at acquired
  rw [acquire, Activity.perform_bind_of_some (Activity.perform_now world),
    Activity.perform_bind_of_some acquired]
  simp only [Activity.perform_bind, Activity.perform_now, Activity.perform_pure,
    Nat.add_sub_cancel_left]
  rfl

/-- What is acquired from a scripted pool is what it is told to hand out. -/
theorem acquisition_of_acquire (isScripted : grader.pool = scripted.toPool)
    {submission : Submission} {world later : World} {runner : Runner} {waiting : Duration}
    (acquired : (grader.acquire submission).perform world = (some (.ok (runner, waiting)), later)) :
    scripted.acquisition submission.userId submission.environment = .ok runner := by
  rw [acquire, Activity.perform_bind_of_some (Activity.perform_now world), isScripted] at acquired
  rcases Activity.exists_of_perform_bind acquired with ⟨reply, middle, asked, acquired⟩
  rw [Pool.acquireRunner, Activity.perform_bind_of_some (Activity.perform_history world),
    Activity.perform_bind_of_some (Activity.perform_note _ world),
    Activity.perform_bind_of_some (Answer.perform_await_of_reply rfl _)] at asked
  cases acquisition : scripted.acquisition submission.userId submission.environment with
  | error source =>
      rw [acquisition] at asked
      cases asked
      cases acquired
  | ok handedOut =>
      rw [acquisition] at asked
      cases asked
      cases acquired
      rfl

/-- A pool that is told to fail hands out no runner. -/
theorem provides_of_acquire (isScripted : grader.pool = scripted.toPool) {submission : Submission}
    {world later : World} {runner : Runner} {waiting : Duration}
    (acquired : (grader.acquire submission).perform world = (some (.ok (runner, waiting)), later)) :
    scripted.acquireError = none := by
  have acquisition := acquisition_of_acquire isScripted acquired
  rw [ScriptedPool.acquisition] at acquisition
  split at acquisition
  · cases acquisition
  · assumption

theorem Opens.provides {submission : Submission} {cancellation : Option Nat} {world : World}
    {work : Assignment} {opening : Tasks}
    (opens : grader.Opens submission cancellation world work opening)
    (isScripted : grader.pool = scripted.toPool) : scripted.acquireError = none := by
  rcases opens.prepared with ⟨setup, classifier, runner, waiting, ready, -, acquired, -, -⟩
  exact provides_of_acquire isScripted acquired

/-- However far the tasks of a submission are, they can be completed. -/
theorem Opens.exists_completes {submission : Submission} {cancellation : Option Nat}
    {world : World} {work : Assignment} {opening tasks : Tasks}
    (opens : grader.Opens submission cancellation world work opening)
    (reaches : Tasks.Reaches work opening tasks) :
    ∃ done, Tasks.Reaches work tasks done ∧
      grader.Completes submission cancellation world work opening done := by
  rcases opens.prepared with ⟨_, _, runner, _, later, -, -, -, rfl⟩
  rcases Tasks.exists_reaches_isDone ((Tasks.Coherent.opening runner later).reaches reaches) with
    ⟨done, reachesDone, isDone⟩
  exact ⟨done, reachesDone, opens, reaches.trans reachesDone, isDone⟩

theorem exists_opens (isScripted : grader.pool = scripted.toPool)
    (provides : scripted.acquireError = none) {submission : Submission} {setup : TestSetup}
    {classifier : Classifier}
    (valid : Grader.setup submission.environment = .ok (setup, classifier))
    (cancellation : Option Nat) (world : World) (storeFails storeMixes : Bool) :
    ∃ work opening, grader.Opens submission cancellation world work opening ∧
      work.storeFails = storeFails ∧ work.storeMixes = storeMixes :=
  ⟨⟨grader.pool, _, submission.gradableFiles, storeFails, storeMixes⟩, _,
    ⟨⟨setup, classifier, _, _, _, valid, perform_acquire isScripted provides submission world, rfl,
      rfl⟩, rfl, rfl⟩, rfl, rfl⟩

/-- The world when a runner of a scripted pool is there. -/
def readyWorld (scripted : ScriptedPool) (submission : Submission) (world : World) : World :=
  let later := world.now + scripted.delay.nanoseconds
  ⟨later, world.log ++ [⟨world.now, .acquire submission.userId⟩,
    ⟨later, .acquired (ScriptedPool.runnerFor submission.userId submission.environment)⟩]⟩

theorem live_readyWorld (scripted : ScriptedPool) (submission : Submission) (world : World) :
    (readyWorld scripted submission world).log.live = world.log.live := by
  apply Log.live_append_of_isQuiet
  intro act member live
  rcases List.mem_cons.mp member with rfl | member
  · rfl
  · rw [List.mem_singleton.mp member]
    rfl

/-- Tasks on a scripted pool begin when the pool has delayed its runner. -/
theorem Opens.exists_ready {submission : Submission} {cancellation : Option Nat} {world : World}
    {work : Assignment} {opening : Tasks}
    (opens : grader.Opens submission cancellation world work opening)
    (isScripted : grader.pool = scripted.toPool) (provides : scripted.acquireError = none) :
    ∃ setup classifier,
      Grader.setup submission.environment = .ok (setup, classifier) ∧
      work.pass = grader.passOf submission setup classifier cancellation scripted.delay
        (world.now + scripted.delay.nanoseconds) ∧
      opening = .opening work.files
        (ScriptedPool.runnerFor submission.userId submission.environment)
        (readyWorld scripted submission world) := by
  rcases opens.prepared with ⟨setup, classifier, runner, waiting, later, valid, acquired, pass, rfl⟩
  rw [perform_acquire isScripted provides] at acquired
  cases acquired
  exact ⟨setup, classifier, valid, pass, rfl⟩

/-- What is known of tasks on a scripted pool from the beginning: how files are tested, and that the
runner is ready and nothing is live. -/
theorem Opens.exists_scripted {submission : Submission} {cancellation : Option Nat} {world : World}
    {work : Assignment} {opening : Tasks}
    (opens : grader.Opens submission cancellation world work opening)
    (isScripted : grader.pool = scripted.toPool) (provides : scripted.acquireError = none)
    (idle : world.log.live = 0) :
    ∃ setup classifier runner instant later,
      Grader.setup submission.environment = .ok (setup, classifier) ∧
      work.pass = grader.passOf submission setup classifier cancellation scripted.delay instant ∧
      opening = .opening work.files runner later ∧ runner.state = .ready ∧ later.log.live = 0 := by
  rcases opens.exists_ready isScripted provides with ⟨setup, classifier, valid, pass, isOpening⟩
  exact ⟨setup, classifier, _, _, _, valid, pass, isOpening, rfl,
    (live_readyWorld scripted submission world).trans idle⟩

theorem exists_perform_release (scripted : ScriptedPool) (runner : Runner) (world : World) :
    ∃ released later, (runner.release scripted.toPool).perform world = (some released, later) := by
  by_cases isReleased : runner.state = .released
  · exact ⟨_, _, Runner.perform_release_of_released scripted.toPool world isReleased⟩
  · rcases scripted.exists_perform_releaseRunner runner world with ⟨reply, later, released⟩
    rw [Runner.release, if_neg isReleased, Activity.perform_bind_of_some released]
    exact ⟨_, _, rfl⟩

/-- Nothing fails any more when all tasks are done. -/
theorem exists_perform_close {work : Assignment} (isScripted : work.pool = scripted.toPool)
    (submission : Submission) (tasks : Tasks) (world : World) :
    ∃ score later, (tasks.close work submission).perform world = (some score, later) := by
  rcases exists_perform_release scripted tasks.session.runner world with
    ⟨released, later, releases⟩
  rw [Tasks.close, isScripted, Activity.perform_bind_of_some releases]
  exact exists_perform_combine submission tasks.outputs later

/-- A submission that is set up is scored, file by file in any order. -/
theorem exists_perform_scoreInOrder (isScripted : grader.pool = scripted.toPool)
    (provides : scripted.acquireError = none) {submission : Submission} {setup : TestSetup}
    {classifier : Classifier}
    (valid : Grader.setup submission.environment = .ok (setup, classifier))
    (cancellation : Option Nat) (order : List Nat) (world : World) :
    ∃ score later, (grader.scoreInOrder submission cancellation order).perform world =
      (some (.ok score), later) := by
  simp only [scoreInOrder, valid]
  rw [Activity.perform_bind_of_some (perform_acquire isScripted provides submission world)]
  simp only [Activity.perform_bind_of_some (Activity.perform_now _)]
  rcases grader.exists_perform_scoreFiles _ submission.gradableFiles _ order _ with
    ⟨⟨runner, outputs⟩, ended, scored⟩
  rcases exists_perform_release scripted runner ended with ⟨released, between, releases⟩
  rw [← isScripted] at releases
  rcases exists_perform_combine submission (arrange submission.gradableFiles.length outputs)
    between with ⟨score, later, combines⟩
  rw [Activity.perform_bind_of_some scored]
  simp only [Activity.perform_bind_of_some releases, Activity.perform_bind_of_some combines]
  exact ⟨_, _, rfl⟩

/-- Two passes in the same environment on the same pool test a file with the same output, apart from
the time it waited. -/
theorem output_eq_of_environment (isScripted : grader.pool = scripted.toPool)
    (provides : scripted.acquireError = none) {left right : Submission}
    (environment : left.environment = right.environment) {leftWorld rightWorld : World}
    {leftWork rightWork : Assignment} {leftOpening rightOpening : Tasks}
    (leftIdle : leftWorld.log.live = 0) (rightIdle : rightWorld.log.live = 0)
    (leftOpens : grader.Opens left none leftWorld leftWork leftOpening)
    (rightOpens : grader.Opens right none rightWorld rightWork rightOpening)
    {leftIndex rightIndex : Nat} {leftTrial rightTrial : Trial}
    (file : leftTrial.file = rightTrial.file)
    (leftOriginates :
      Tasks.Originates leftWork leftOpening leftIndex leftTrial.file leftTrial.finish)
    (rightOriginates :
      Tasks.Originates rightWork rightOpening rightIndex rightTrial.file rightTrial.finish) :
    leftTrial.output leftWork.pass =
      { rightTrial.output rightWork.pass with waitingTime := leftTrial.waiting } := by
  rcases leftOpens.exists_scripted isScripted provides leftIdle with
    ⟨setup, classifier, runner, instant, later, valid, leftPass, rfl, ready, idle⟩
  rcases rightOpens.exists_scripted isScripted provides rightIdle with
    ⟨setup', classifier', runner', instant', later', valid', rightPass, rfl, ready', idle'⟩
  rw [← environment, valid] at valid'
  cases valid'
  have leftResult := Tasks.result_of_originates (leftOpens.pool.trans isScripted)
    (by rw [leftPass]; rfl) idle (by rw [ready]; rfl) leftOriginates
  have rightResult := Tasks.result_of_originates (rightOpens.pool.trans isScripted)
    (by rw [rightPass]; rfl) idle' (by rw [ready']; rfl) rightOriginates
  have jobs : leftWork.pass.job leftTrial.file = rightWork.pass.job rightTrial.file := by
    simp only [Pass.job, leftPass, rightPass, passOf, file, environment]
  have result : leftTrial.finish.result = rightTrial.finish.result := by
    rw [jobs, rightResult] at leftResult
    exact (Option.some.inj leftResult).symm
  simp only [Trial.output, Trial.analysis, Trial.outcome, outputOf, analyse, leftPass, rightPass,
    passOf, file, result]

end Grader

/-! ## The map of the files -/

namespace Grader

/-- What a pass over the files of a submission is, on a scripted pool and without cancellation. -/
structure MapsFiles (grader : Grader) (submission : Submission) (world : World) : Prop where
  /-- The files come to be tested, whatever the store can do. -/
  opens : ∀ storeFails storeMixes, ∃ work opening,
    grader.Opens submission none world work opening ∧ work.storeFails = storeFails ∧
      work.storeMixes = storeMixes
  /-- However far the tasks are, they can be completed. -/
  completes : ∀ work opening tasks, grader.Opens submission none world work opening →
    Tasks.Reaches work opening tasks →
    ∃ done, Tasks.Reaches work tasks done ∧ grader.Completes submission none world work opening done
  /-- Then the score is returned. -/
  returns : ∀ work opening done, grader.Completes submission none world work opening done →
    ∃ score later, (done.close work submission).perform done.session.world = (some score, later)
  /-- Every file has an output at its index, and nothing else has. -/
  routes : ∀ work opening done, grader.Completes submission none world work opening done →
    done.outputs.length = submission.gradableFiles.length ∧
      ∀ index < submission.gradableFiles.length, ∃ output, done.outputs[index]? = some (some output)
  /-- It is the output of a pass over this file alone. -/
  separates : ∀ work opening done, grader.Completes submission none world work opening done →
    ∀ alone aloneWorld aloneWork aloneOpening aloneDone,
      alone.environment = submission.environment → aloneWorld.log.live = 0 →
      grader.Completes alone none aloneWorld aloneWork aloneOpening aloneDone →
      ∀ (index : Nat) file (output : ScoredOutput Float),
        submission.gradableFiles[index]? = some file →
        alone.gradableFiles = [file] → done.outputs[index]? = some (some output) →
        ∃ aloneOutput : ScoredOutput Float, aloneDone.outputs = [some aloneOutput] ∧
          output = { aloneOutput with waitingTime := output.waitingTime }
  /-- Scoring the files in any order returns the score of such a pass. -/
  scores : ∀ order : List Nat, order.Perm (List.range submission.gradableFiles.length) →
    ∃ score later work opening done,
      (grader.scoreInOrder submission none order).perform world = (some (.ok score), later) ∧
      grader.Completes submission none world work opening done ∧
      (done.close work submission).perform done.session.world = (some score, later)

variable {grader : Grader} {scripted : ScriptedPool}

/-- On a scripted pool that hands out runners, a pass over a submission that is set up maps its
files. -/
theorem mapsFiles_of_setup (isScripted : grader.pool = scripted.toPool)
    (provides : scripted.acquireError = none) {submission : Submission} {setup : TestSetup}
    {classifier : Classifier}
    (valid : Grader.setup submission.environment = .ok (setup, classifier)) {world : World}
    (idle : world.log.live = 0) : grader.MapsFiles submission world where
  opens := exists_opens isScripted provides valid none world
  completes work opening tasks opens reaches := opens.exists_completes reaches
  returns work opening done completes :=
    exists_perform_close (completes.opens.pool.trans isScripted) submission done done.session.world
  routes work opening done completes := by
    refine ⟨completes.length_outputs, ?_⟩
    intro index bound
    rcases completes.exists_output (List.getElem?_eq_getElem bound) with ⟨trial, -, -, output, -⟩
    exact ⟨_, output⟩
  separates work opening done completes alone aloneWorld aloneWork aloneOpening aloneDone
      environment aloneIdle aloneCompletes index file output tests only found := by
    rcases completes.exists_output tests with ⟨trial, tested, -, trialOutput, originates⟩
    cases found.symm.trans trialOutput
    have first : alone.gradableFiles[0]? = some file := by
      rw [only]
      rfl
    have single := aloneCompletes.length_outputs
    rw [only] at single
    rcases List.length_eq_one_iff.mp single with ⟨aloneOutput, outputs⟩
    rcases aloneCompletes.exists_output first with
      ⟨aloneTrial, aloneTested, -, aloneFound, aloneOriginates⟩
    rw [outputs] at aloneFound
    cases aloneFound
    exact ⟨aloneTrial.output aloneWork.pass, outputs, output_eq_of_environment isScripted provides
      environment.symm idle aloneIdle completes.opens aloneCompletes.opens
      (tested.trans aloneTested.symm) originates aloneOriginates⟩
  scores order perm := by
    rcases exists_perform_scoreInOrder isScripted provides valid none order world with
      ⟨score, later, scored⟩
    rcases exists_run_of_scoreInOrder true true nofun perm scored with
      ⟨work, opening, done, completes, -, -, closes⟩
    exact ⟨score, later, work, opening, done, scored, completes, closes⟩

/-! ### Suites that hang -/

/-- Its commands report success, but do not exit. -/
def hangingSuites : ScriptedPool :=
  ⟨.ofMillis 10, none, none, none, [], .hanging "OK (3 tests)\n"⟩

def suiteGrader : Grader := ⟨hangingSuites.toPool, .default, .unhurried, fun _ => true⟩

/-- Tests may take five seconds. -/
def suiteEnvironment : Environment :=
  { id := 1
    name := "java-21"
    image := "img:21"
    runCommand := ⟨"java %\x7bfilename\x7d"⟩
    testCommand := some ⟨"run-tests %\x7bfilename\x7d"⟩
    testingFramework := some "JUnit 4"
    permittedSeconds := 5
    poolSize := 0
    errorTemplates := [] }

def suiteFile (name : String) : SubmissionFile :=
  ⟨name, ".java", none, "", .teacherDefinedTest, 1, none⟩

def suites : Submission :=
  ⟨⟨7⟩, 77, "learner-3", [suiteFile "SuiteTest", suiteFile "OtherTest"], suiteEnvironment, 3,
    .default⟩

theorem setup_suites : Grader.setup suites.environment =
    .ok (⟨⟨"run-tests %\x7bfilename\x7d"⟩, .jUnit⟩, ⟨[]⟩) := by
  have named : Framework.ofName "JUnit 4" = .ok .jUnit := by
    rw [Framework.ofName, show Framework.ofName? "JUnit 4" = some .jUnit by decide +kernel]
  simp only [Grader.setup, Environment.testSetup, Environment.testSetup?, suites, suiteEnvironment,
    named]
  rfl

/-- A suite that hangs does not keep the other one from being tested. -/
theorem mapsFiles_suites :
    suites.gradableFiles.length = 2 ∧ World.start.log.live = 0 ∧
      suiteGrader.MapsFiles suites .start :=
  ⟨rfl, rfl, mapsFiles_of_setup rfl rfl setup_suites rfl⟩

end Grader

end Grading
