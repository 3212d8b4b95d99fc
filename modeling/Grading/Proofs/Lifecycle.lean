import Grading.Proofs.SingleRun

namespace Grading

/-! The life of a runner: commands are executed on it, and it is given back. Whatever the pool
answers, between two operations a runner can execute or is released, and it is given back once. -/

/-- What can be done with a runner. -/
inductive Operation
  | execute (job : Job)
  | release

namespace Operation

def isRelease : Operation → Bool
  | release => true
  | execute _ => false

/-- Whether the runner is given back in the course of the operations. -/
def giveBack (operations : List Operation) : Bool := operations.any isRelease

@[simp] theorem giveBack_execute (operations : List Operation) (job : Job) :
    giveBack (operations ++ [.execute job]) = giveBack operations := by
  simp [giveBack, isRelease]

@[simp] theorem giveBack_release (operations : List Operation) :
    giveBack (operations ++ [.release]) = true := by
  simp [giveBack, isRelease]

end Operation

namespace Runner

/-- What a runner becomes by operations that were completed one after the other. Time can pass
between two of them. -/
inductive Undergoes (pool : Pool) (runner : Runner) (world : World) :
    List Operation → Runner → World → Prop
  | nothing : Undergoes pool runner world [] runner world
  | wait {operations : List Operation} {current : Runner} {middle : World} (pause : Nat)
      (before : Undergoes pool runner world operations current middle) :
      Undergoes pool runner world operations current { middle with now := middle.now + pause }
  | execute {operations : List Operation} {current : Runner} {middle : World} (job : Job)
      (executed : Executed) (later : World)
      (before : Undergoes pool runner world operations current middle)
      (performed : (current.execute pool job).perform middle = (some executed, later)) :
      Undergoes pool runner world (operations ++ [.execute job]) executed.runner later
  | release {operations : List Operation} {current : Runner} {middle : World} (released : Runner)
      (later : World) (before : Undergoes pool runner world operations current middle)
      (performed : (current.release pool).perform middle = (some released, later)) :
      Undergoes pool runner world (operations ++ [.release]) released later

/-- What the state of a runner says of how its last command ended. -/
structure Settles (result : ExecutionResult) (state : RunnerState) : Prop where
  completed : state = .completed ↔ ∃ done, result = .ok done
  timedOut : state = .timedOut ↔ ∃ error, result = .error error ∧ error.failure = .timeout
  depleted : state = .depleted ↔ ∃ error environmentId, result = .error error ∧
    error.failure = .runner (.depleted environmentId)
  failed : state = .failed ↔ state ≠ .completed ∧ state ≠ .timedOut ∧ state ≠ .depleted

theorem settles_stateAfter (result : ExecutionResult) : Settles result (stateAfter result) := by
  rcases result with ⟨timeout | cancelled | source, output, duration⟩ | done
  · constructor <;> simp [stateAfter]
  · constructor <;> simp [stateAfter]
  · cases source <;> constructor <;> simp [stateAfter]
  · constructor <;> simp [stateAfter]

/-- A command that was admitted ends as the state of the runner says. -/
theorem settles_of_execute {pool : Pool} {runner : Runner} {job : Job} {world later : World}
    {executed : Executed} (movable : runner.state.canMove .executing)
    (ended : (execute pool runner job).perform world = (some executed, later)) :
    Settles executed.result executed.runner.state := by
  rcases cases_of_execute ended with ⟨-, -, source, refused, -⟩ | ⟨executing, moved, settled⟩
  · rw [move, if_pos movable] at refused
    cases refused
  · rw [settled, state_moveOrStay_stateAfter executed.result (state_of_move moved)]
    exact settles_stateAfter executed.result

theorem releases_of_execute {pool : Pool} {runner : Runner} {job : Job} {world later : World}
    {executed : Executed}
    (ended : (execute pool runner job).perform world = (some executed, later)) :
    later.log.releases = world.log.releases := by
  rcases execute_kept pool runner job world with ⟨added, log, kept⟩
  rw [ended] at log
  rw [log]
  exact world.log.releases_append_of_kept kept

/-- A runner that was given back refuses a command at once. -/
theorem perform_execute_of_released (pool : Pool) {runner : Runner} (job : Job) (world : World)
    (isReleased : runner.state = .released) :
    ∃ executed, (execute pool runner job).perform world = (some executed, world) ∧
      executed.runner = runner ∧ executed.result =
        .error ⟨.runner (.invalidMove runner.id .released .executing), .empty, .zero⟩ := by
  have refused : runner.move .executing =
      .error (.invalidMove runner.id .released .executing) := by
    rw [move, isReleased]
    rfl
  rw [execute, Activity.perform_bind_of_some (perform_start_of_refused pool job world refused)]
  exact ⟨_, rfl, rfl, rfl⟩

/-- What becomes of a runner that is given back. -/
theorem cases_of_release {pool : Pool} {runner released : Runner} {world later : World}
    (ended : (release pool runner).perform world = (some released, later)) :
    released.id = runner.id ∧ released.state = .released ∧
      later.log.releases = world.log.releases ++
        if runner.state = .released then [] else [runner.id] := by
  by_cases isReleased : runner.state = .released
  · rw [perform_release_of_released pool world isReleased] at ended
    cases ended
    rw [if_pos isReleased, List.append_nil]
    exact ⟨rfl, isReleased, rfl⟩
  · rcases releases_of_release isReleased ended with ⟨releases, state⟩
    rcases exists_of_release isReleased ended with ⟨rfl, -⟩
    rw [if_neg isReleased]
    exact ⟨id_moveOrStay _ _, state, releases⟩

/-- A runner between two operations, and the releases by then. -/
structure AtRest (runner : Runner) (world : World) (operations : List Operation)
    (current : Runner) (later : World) : Prop where
  id : current.id = runner.id
  released : Operation.giveBack operations = true → current.state = .released
  usable : Operation.giveBack operations = false → current.state.canMove .executing
  releases : later.log.releases = world.log.releases ++
    if Operation.giveBack operations then [runner.id] else []

namespace AtRest

variable {pool : Pool} {runner current : Runner} {operations : List Operation}
  {world middle later : World}

theorem execute {job : Job} {executed : Executed}
    (atRest : AtRest runner world operations current middle)
    (ended : (current.execute pool job).perform middle = (some executed, later)) :
    AtRest runner world (operations ++ [.execute job]) executed.runner later where
  id := (id_of_execute ended).trans atRest.id
  released wasReleased := by
    rw [Operation.giveBack_execute] at wasReleased
    rcases perform_execute_of_released pool job middle (atRest.released wasReleased) with
      ⟨refused, performed, unchanged, -⟩
    cases ended.symm.trans performed
    rw [unchanged]
    exact atRest.released wasReleased
  usable notReleased := by
    rw [Operation.giveBack_execute] at notReleased
    rcases cases_of_execute ended with ⟨-, unchanged, -⟩ | ⟨executing, moved, settled⟩
    · rw [unchanged]
      exact atRest.usable notReleased
    · rw [settled]
      exact Session.Fit.canMove_stateAfter executed.result (state_of_move moved)
  releases := by
    rw [Operation.giveBack_execute]
    exact (releases_of_execute ended).trans atRest.releases

theorem release {released : Runner} (atRest : AtRest runner world operations current middle)
    (ended : (current.release pool).perform middle = (some released, later)) :
    AtRest runner world (operations ++ [.release]) released later := by
  rcases cases_of_release ended with ⟨id, state, releases⟩
  refine ⟨id.trans atRest.id, fun _ => state, ?_, ?_⟩
  · rw [Operation.giveBack_release]
    exact nofun
  · rw [Operation.giveBack_release, if_pos rfl, releases, atRest.releases, atRest.id]
    cases gaveBack : Operation.giveBack operations with
    | true => simp [atRest.released gaveBack]
    | false =>
        have usable := atRest.usable gaveBack
        have notReleased : current.state ≠ .released := by
          intro isReleased
          rw [isReleased] at usable
          cases usable
        simp [notReleased]

theorem of_undergoes (ready : runner.state = .ready)
    (undergoes : Undergoes pool runner world operations current later) :
    AtRest runner world operations current later := by
  induction undergoes with
  | nothing =>
      refine ⟨rfl, nofun, fun _ => ?_, (List.append_nil _).symm⟩
      rw [ready]
      rfl
  | wait pause before induction => exact { induction with }
  | execute job executed later before performed induction => exact induction.execute performed
  | release released later before performed induction => exact induction.release performed

end AtRest

/-- What is known of a runner after these operations. -/
structure Lifecycle (pool : Pool) (runner : Runner) (world : World) (operations : List Operation)
    (current : Runner) (later : World) : Prop where
  settled : current.state ≠ .requested ∧ current.state ≠ .allocating ∧ current.state ≠ .executing
  /-- However often it is given back, the pool is asked once, whatever it answers. -/
  releases : later.log.releases = world.log.releases ++
    if Operation.giveBack operations then [runner.id] else []
  /-- Until then, a command is admitted, and the runner is left as it ended. -/
  admits : Operation.giveBack operations = false → ∃ executing,
    current.move .executing = .ok executing ∧ ∀ job executed last,
      (current.execute pool job).perform later = (some executed, last) →
        Settles executed.result executed.runner.state
  /-- From then on, it is refused at once, and nothing happens. -/
  refuses : Operation.giveBack operations = true → ∀ job, ∃ executed,
    (current.execute pool job).perform later = (some executed, later) ∧
      executed.runner = current ∧ executed.result =
        .error ⟨.runner (.invalidMove runner.id .released .executing), .empty, .zero⟩

/-- A runner that is ready at first has its lifecycle, whatever the pool answers. -/
theorem lifecycle_of_undergoes {pool : Pool} {runner current : Runner} {world later : World}
    {operations : List Operation} (ready : runner.state = .ready)
    (undergoes : Undergoes pool runner world operations current later) :
    Lifecycle pool runner world operations current later := by
  have atRest := AtRest.of_undergoes ready undergoes
  refine ⟨?_, atRest.releases, fun kept => ?_, fun gaveBack job => ?_⟩
  · cases gaveBack : Operation.giveBack operations with
    | true =>
        rw [atRest.released gaveBack]
        exact ⟨nofun, nofun, nofun⟩
    | false =>
        have usable := atRest.usable gaveBack
        refine ⟨?_, ?_, ?_⟩ <;>
          · intro isOther
            rw [isOther] at usable
            cases usable
  · have usable := atRest.usable kept
    exact ⟨_, if_pos usable, fun job executed last ended => settles_of_execute usable ended⟩
  · rw [← atRest.id]
    exact perform_execute_of_released pool job later (atRest.released gaveBack)

/-- A runner whose command hung, and that the pool failed to take back, is not given back again. -/
theorem lifecycle_unreleasable :
    let scripted := { Grader.hangingSuites with releaseError := some (.connection "gone") }
    let runner := ScriptedPool.runnerFor "learner-3" Grader.suiteEnvironment
    let job : Job := ⟨"run-tests SuiteTest.java", .ofSeconds 5, none, none⟩
    let operations : List Operation := [.execute job, .release, .release]
    runner.state = .ready ∧ ∃ current later,
      Undergoes scripted.toPool runner .start operations current later ∧
      Lifecycle scripted.toPool runner .start operations current later ∧
      later.log.releases = ["stub"] := by
  intro scripted runner job operations
  rcases exists_perform_execute scripted.toPool runner (rfl : job.receiver = none) .start with
    ⟨executed, ended, executes⟩
  rcases Grader.exists_perform_release scripted executed.runner ended with
    ⟨released, between, releases⟩
  rcases Grader.exists_perform_release scripted released between with ⟨last, later, again⟩
  have undergoes : Undergoes scripted.toPool runner .start operations last later :=
    .release last later (.release released between (.execute job executed ended .nothing executes)
      releases) again
  have lifecycle := lifecycle_of_undergoes rfl undergoes
  exact ⟨rfl, last, later, undergoes, lifecycle, lifecycle.releases⟩

end Runner

end Grading
