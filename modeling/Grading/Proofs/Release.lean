import Grading.Proofs.Independence

namespace Grading

/-! Using a runner does not give it back. A pass that is done gives it back once. -/

namespace Act

def isRelease : Act → Bool
  | release _ => true
  | _ => false

end Act

namespace Log

theorem releases_append (log later : Log) :
    releases (log ++ later) = log.releases ++ later.releases := by
  simp only [releases, acts_append, List.filterMap_append]

theorem releases_append_of_kept (log : Log) {later : Log}
    (kept : ∀ act ∈ later.acts, act.isRelease = false) :
    releases (log ++ later) = log.releases := by
  have nothing : later.releases = [] := by
    apply List.filterMap_eq_nil_iff.mpr
    intro act member
    cases act with
    | release runnerId => cases kept _ member
    | _ => rfl
  rw [releases_append, nothing, List.append_nil]

theorem releases_append_entry (log : Log) {entry : Entry} (kept : entry.act.isRelease = false) :
    releases (log ++ [entry]) = log.releases := by
  apply log.releases_append_of_kept
  intro act member
  rw [List.mem_singleton.mp member]
  exact kept

theorem releases_append_calls {α : Type} (log : Log) (answer : Answer α) (instant : Nat) :
    releases (log ++ answer.callEntries instant) = log.releases := by
  apply log.releases_append_of_kept
  intro act member
  rcases Answer.eq_call_of_mem_callEntries member with ⟨call, rfl⟩
  rfl

end Log

namespace Runner

theorem eq_of_move {runner moved : Runner} {next : RunnerState}
    (allowed : runner.move next = .ok moved) : moved = { runner with state := next } := by
  simp only [move] at allowed
  split at allowed
  · cases allowed
    rfl
  · cases allowed

theorem id_of_move {runner moved : Runner} {next : RunnerState}
    (allowed : runner.move next = .ok moved) : moved.id = runner.id := by
  rw [eq_of_move allowed]

/-- A move changes nothing but the state. -/
theorem moveOrStay_eq (runner : Runner) (next : RunnerState) :
    runner.moveOrStay next = { runner with state := (runner.moveOrStay next).state } := by
  simp only [moveOrStay]
  split
  · rename_i moved allowed
    rw [eq_of_move allowed]
  · rfl

@[simp] theorem id_moveOrStay (runner : Runner) (next : RunnerState) :
    (runner.moveOrStay next).id = runner.id := by
  rw [moveOrStay_eq]

/-- A runner that is released is released, whatever its state was. -/
theorem state_moveOrStay_released (runner : Runner) :
    (runner.moveOrStay .released).state = .released := by
  obtain ⟨id, principal, environmentId, state⟩ := runner
  cases state <;> rfl

/-- Giving back a runner that was not given back before is one release. -/
theorem releases_of_release {pool : Pool} {runner released : Runner} {world later : World}
    (notReleased : runner.state ≠ .released)
    (ended : (release pool runner).perform world = (some released, later)) :
    later.log.releases = world.log.releases ++ [runner.id] ∧ released.state = .released := by
  rcases exists_of_release notReleased ended with ⟨rfl, pause, rfl⟩
  have asked : Log.releases ([⟨world.now, .release runner.id⟩] ++
      (pool.release world.log runner).callEntries world.now) = [runner.id] :=
    Log.releases_append_calls _ _ _
  refine ⟨?_, runner.state_moveOrStay_released⟩
  rw [Log.releases_append]
  exact congrArg (world.log.releases ++ ·) ((Log.releases_append_entry _ rfl).trans asked)

end Runner

/-- A scripted pool takes a runner back at once. -/
theorem ScriptedPool.perform_release (scripted : ScriptedPool) {runner : Runner}
    (notReleased : runner.state ≠ .released) (world : World) :
    (runner.release scripted.toPool).perform world =
      (some (runner.moveOrStay .released), ⟨world.now, world.log ++
        [⟨world.now, .release runner.id⟩, ⟨world.now, .move .released⟩]⟩) := by
  rw [Runner.release, if_neg notReleased, Pool.releaseRunner]
  simp only [bind_assoc]
  rw [Activity.perform_bind_of_some (Activity.perform_history world),
    Activity.perform_bind_of_some (Activity.perform_note _ world),
    Activity.perform_bind_of_some (Answer.perform_await_of_reply rfl _),
    Activity.perform_bind_of_some (Activity.perform_note _ _), Activity.perform_pure,
    runner.state_moveOrStay_released]
  simp [World.noting, ScriptedPool.toPool, Answer.now, Answer.callEntries]

namespace Session

variable {pool : Pool} {session next : Session} {move : Move}

/-- A step is a release, or releases nothing. -/
theorem Step.releases_eq (step : Step pool session move next) (kept : move ≠ .release) :
    next.world.log.releases = session.world.log.releases := by
  cases step with
  | wait | lease | drop | abortAway | abortHolder => rfl
  | start client job last runner course world hasLease started =>
      have moved : (session.world.noting (.move .executing)).log.releases =
          session.world.log.releases := Log.releases_append_entry _ rfl
      rcases Runner.cases_of_start started with ⟨-, ⟨failure, -, -, rfl⟩ | ⟨-, -, rfl⟩⟩
      · exact moved
      · refine (Log.releases_append_calls _ _ _).trans ?_
        exact (Log.releases_append_entry _ rfl).trans moved
  | refuse client job last finish world hasLease refused =>
      rcases Runner.eq_of_start_error refused with ⟨rfl, -⟩
      rfl
  | advance client course following world isBusy isLive advanced =>
      rcases Course.exists_turn_of_advance isLive advanced with ⟨turn, turns, rfl, rfl⟩
      change (turn.after session.world).log.releases = _
      rcases Course.act_of_next? turns with ⟨act, -⟩ | ⟨act, noted, ends, -⟩
      · simp only [Turn.after, act, Option.elim_none]
      · simp only [Turn.after, noted, Option.elim_some, World.log_noting]
        apply Log.releases_append_entry
        cases act with
        | release runnerId => cases ends 1
        | _ => rfl
  | settle client finish runner world isOver settled =>
      cases settled
      exact Log.releases_append_entry _ rfl
  | abortLive client isLive => exact Log.releases_append_entry _ rfl
  | release => exact absurd rfl kept
  | note act isBookkeeping =>
      apply Log.releases_append_entry
      cases act with
      | release runnerId => cases isBookkeeping
      | _ => rfl

/-- The runner stays the same one. -/
theorem Step.runner_id_eq (step : Step pool session move next) :
    next.runner.id = session.runner.id := by
  cases step with
  | wait | lease | refuse | advance | drop | abortAway | abortHolder | abortLive | note => rfl
  | start client job last runner course world hasLease started =>
      exact Runner.id_of_move (Runner.cases_of_start started).1
  | settle client finish runner world isOver settled =>
      cases settled
      exact Runner.id_moveOrStay _ _
  | release runner world isFree released =>
      by_cases isReleased : session.runner.state = .released
      · rw [Runner.perform_release_of_released pool session.world isReleased] at released
        cases released
        rfl
      · rcases Runner.exists_of_release isReleased released with ⟨rfl, -⟩
        exact Runner.id_moveOrStay _ _

end Session

namespace Tasks

variable {work : Assignment} {tasks next : Tasks}

/-- Tasks do not give their runner back. -/
theorem Reaches.releases_eq (reaches : Reaches work tasks next) :
    next.session.world.log.releases = tasks.session.world.log.releases ∧
      next.session.runner.id = tasks.session.runner.id := by
  induction reaches with
  | refl => exact ⟨rfl, rfl⟩
  | tail _ step induction =>
      rcases step.cases_of_session with same | ⟨move, isOrderly, step⟩
      · rw [same]
        exact induction
      · have kept : move ≠ .release := by
          rintro rfl
          cases isOrderly
        exact ⟨(step.releases_eq kept).trans induction.1, step.runner_id_eq.trans induction.2⟩

/-- When they are done, it is given back. -/
theorem releases_of_close {submission : Submission} {score : SubmissionScore Float} {later : World}
    (notReleased : tasks.session.runner.state ≠ .released)
    (closes : (tasks.close work submission).perform tasks.session.world = (some score, later)) :
    later.log.releases =
      tasks.session.world.log.releases ++ [tasks.session.runner.id] := by
  rcases Activity.exists_of_perform_bind closes with ⟨released, middle, releases, combines⟩
  rw [← (Runner.releases_of_release notReleased releases).1]
  simp only [Grader.combine] at combines
  split at combines
  · cases combines
    exact Log.releases_append_entry _ rfl
  · cases combines
    rfl

end Tasks

namespace Session

/-- A runner that can be used, or is used, is not released. -/
theorem Fit.not_released {session : Session} (fit : Fit session) :
    session.runner.state ≠ .released := by
  intro isReleased
  by_cases idle : ∀ client, (session.stage client).isBusy = false
  · have movable := fit.ready idle
    rw [isReleased] at movable
    cases movable
  · push Not at idle
    rcases idle with ⟨client, isBusy⟩
    have executing := fit.executing client (by simpa using isBusy)
    rw [isReleased] at executing
    cases executing

end Session

namespace Grader

theorem releases_readyWorld (scripted : ScriptedPool) (submission : Submission) (world : World) :
    (readyWorld scripted submission world).log.releases = world.log.releases := by
  apply Log.releases_append_of_kept
  intro act member
  rcases List.mem_cons.mp member with rfl | member
  · rfl
  · rw [List.mem_singleton.mp member]
    rfl

namespace Completes

variable {grader : Grader} {scripted : ScriptedPool} {submission : Submission}
  {cancellation : Option Nat} {world later : World} {work : Assignment} {opening done : Tasks}
  {score : SubmissionScore Float}

/-- A pass on a scripted pool gives its runner back once. -/
theorem releases_eq
    (completes : grader.Completes submission cancellation world work opening done)
    (isScripted : grader.pool = scripted.toPool) (provides : scripted.acquireError = none)
    (idle : world.log.live = 0)
    (closes : (done.close work submission).perform done.session.world = (some score, later)) :
    later.log.releases = world.log.releases ++ [ScriptedPool.runnerId] := by
  rcases completes.opens.exists_ready isScripted provides with ⟨setup, classifier, -, -, rfl⟩
  have ready : (readyWorld scripted submission world).log.live = 0 :=
    (live_readyWorld scripted submission world).trans idle
  rcases Tasks.exclusive_and_fit_of_reaches ready rfl completes.reaches with ⟨-, fit⟩
  rcases completes.reaches.releases_eq with ⟨releases, runnerId⟩
  rw [Tasks.releases_of_close fit.not_released closes, releases, runnerId]
  exact congrArg (· ++ _) (releases_readyWorld scripted submission world)

end Completes

end Grader

end Grading
