import Grading.Proofs.Turns
import Mathlib.Algebra.GroupWithZero.Nat

namespace Grading

/-! The times of a pass add up. On one thread and on a virtual clock, a file waits for the runner as
long as acquiring it and the commands of all files before it take. -/

/-! ## Visits -/

namespace Succession

variable {work : Assignment} {answer : String → Answer (Except RunnerError EventStream)}
  {first last : Nat} {visits : List Visit}

/-- Where a pool answers at once, a visit starts when the times of those before have passed. -/
theorem start_eq (succession : Succession work answer first visits last)
    (immediate : ∀ command, (answer command).reply.all (·.1 = 0)) {position : Nat} {visit : Visit}
    (found : visits[position]? = some visit) :
    visit.start = first +
      ((visits.take position).map fun visit => visit.duration.nanoseconds).sum := by
  induction succession generalizing position with
  | nil => cases found
  | @cons next rest last accords following induction =>
      cases position with
      | zero =>
          cases found
          rfl
      | succ position =>
          have start := induction found
          have bounds := Job.bounds_of_conclusionAt? accords.concludes
          have time : next.duration.nanoseconds = next.trial.finish.instant - next.start :=
            congrArg Duration.nanoseconds
              (Job.duration_of_conclusionAt? (immediate _) accords.concludes)
          rw [List.take_succ_cons, List.map_cons, List.sum_cons, start, time]
          omega

end Succession

namespace Job

theorem requests_sublist (job : Job) (started : Nat) :
    (job.requests started).Sublist [job.command] := by
  rw [requests]
  split
  · exact List.nil_sublist _
  · exact .refl _

end Job

/-- The requests of visits are those of some of their commands, in the same order. -/
theorem Visit.requests_sublist (work : Assignment) (visits : List Visit) :
    (visits.flatMap fun visit => (visit.job work).requests visit.start).Sublist
      (visits.map fun visit => (visit.job work).command) := by
  induction visits with
  | nil => exact .slnil
  | cons visit rest induction =>
      rw [List.flatMap_cons, List.map_cons, ← List.singleton_append]
      exact ((visit.job work).requests_sublist visit.start).append induction

/-! ## Started commands -/

namespace Log

/-- Only what was asked for is started. -/
theorem started_sublist_requests (log : Log) : log.started.Sublist log.requests := by
  rw [started, requests]
  fun_induction startedOf log.acts with
  | case1 command error rest induction => exact induction.cons command
  | case2 command rest _ induction => exact induction.cons_cons command
  | case3 act rest _ notAttach induction =>
      cases act with
      | attach command => exact absurd rfl (notAttach command)
      | _ => exact induction
  | case4 => exact .slnil

/-- A command that is not refused at once is started, whatever follows. -/
theorem startedOf_append {acts later : List Act}
    (accepts : ∀ error rest, later ≠ .refuse error :: rest) :
    startedOf (acts ++ later) = startedOf acts ++ startedOf later := by
  fun_induction startedOf acts with
  | case1 command error rest induction => simpa [startedOf] using induction
  | case2 command rest notRefused induction =>
      cases rest with
      | nil =>
          cases later with
          | nil => rfl
          | cons act rest =>
              cases act with
              | refuse error => exact absurd rfl (accepts error rest)
              | _ => rfl
      | cons act rest =>
          cases act with
          | refuse error => exact absurd rfl (notRefused error rest)
          | _ => simpa [startedOf] using induction
  | case3 act rest notRefused notAttach induction =>
      cases act with
      | attach command => exact absurd rfl (notAttach command)
      | _ => exact induction
  | case4 => rfl

end Log

/-- Nothing is ever taken out of the log. -/
theorem Session.Reaches.exists_log {pool : Pool} {session next : Session}
    (reaches : Session.Reaches pool session next) :
    ∃ added : Log, next.world.log = session.world.log ++ added := by
  induction reaches with
  | refl => exact ⟨[], (List.append_nil _).symm⟩
  | tail _ step induction =>
      rcases induction with ⟨added, log⟩
      rcases step with ⟨move, step⟩
      rcases step.exists_log with ⟨last, extended, -⟩
      exact ⟨added ++ last, by rw [extended, log, List.append_assoc]⟩

/-- A scripted pool answers at once or never. -/
theorem ScriptedPool.all_reply_answer (scripted : ScriptedPool) (command : String) :
    (scripted.answer command).reply.all (·.1 = 0) := by
  simp only [answer]
  split
  · rfl
  · split <;> rfl

/-! ## Passes -/

namespace Grader

/-- The log of a pass goes on with the request for a runner. -/
theorem CompletesInTurn.exists_log {grader : Grader} {scripted : ScriptedPool}
    {submission : Submission} {cancellation : Option Nat} {world : World} {work : Assignment}
    {opening : Tasks} {order : List Nat} {done : Lineup}
    (completes : grader.CompletesInTurn submission cancellation world work opening order done)
    (isScripted : grader.pool = scripted.toPool) (provides : scripted.acquireError = none) :
    ∃ added : Log, done.tasks.session.world.log = world.log ++ added ∧
      ∀ error rest, added.acts ≠ .refuse error :: rest := by
  rcases completes.opens.exists_ready isScripted provides with ⟨_, _, -, -, rfl⟩
  have reaches := Lineup.Reaches.tasks_reaches completes.reaches
  rcases reaches.session_reaches.exists_log with ⟨added, log⟩
  refine ⟨_, log.trans (List.append_assoc _ _ _), ?_⟩
  exact nofun

/-- The outputs and the times of the commands of a pass add up: a file waited until the runner was
acquired and the commands of all files before it had ended. No command took longer than permitted,
and those that were started, or only asked for, were in the order of the files. -/
structure Tallies (submission : Submission) (setup : TestSetup) (world : World)
    (opening done : Tasks) (outputs : List (ScoredOutput Float)) (times : List Duration) :
    Prop where
  collected : done.outputs = outputs.map some
  executed : outputs.map ScoredOutput.executionTime = times.map some
  waited : ∀ (position : Nat) (output : ScoredOutput Float), outputs[position]? = some output →
    output.waitingTime = ⟨opening.session.world.now - world.now +
      ((times.take position).map Duration.nanoseconds).sum⟩
  permitted : ∀ time ∈ times, time ≤ submission.environment.permittedTime
  attached : ∃ requests started : List String,
    done.session.world.log.requests = world.log.requests ++ requests ∧
    done.session.world.log.started = world.log.started ++ started ∧ started.Sublist requests ∧
    requests.Sublist
      (submission.gradableFiles.map fun file => setup.command.render file.filepath)

/-- Whatever a pass over the files in their order does, its times add up, and scoring them is such
a pass. -/
structure AddsUp (grader : Grader) (submission : Submission) (setup : TestSetup)
    (cancellation : Option Nat) (world : World) : Prop where
  tallies : ∀ work opening done, grader.CompletesInTurn submission cancellation world work opening
    (List.range submission.gradableFiles.length) done →
    ∃ outputs times, Tallies submission setup world opening done.tasks outputs times
  scores : ∃ score later work opening done,
    (grader.score submission cancellation).perform world = (some (.ok score), later) ∧
    grader.CompletesInTurn submission cancellation world work opening
      (List.range submission.gradableFiles.length) done ∧
    (done.tasks.close work submission).perform done.tasks.session.world = (some score, later)

variable {grader : Grader} {scripted : ScriptedPool}

/-- The times of a pass on a scripted pool add up, whenever it is cancelled. -/
theorem addsUp_of_setup (isScripted : grader.pool = scripted.toPool)
    (provides : scripted.acquireError = none) {submission : Submission} {setup : TestSetup}
    {classifier : Classifier}
    (valid : Grader.setup submission.environment = .ok (setup, classifier)) {world : World}
    (idle : world.log.live = 0) (cancellation : Option Nat) :
    grader.AddsUp submission setup cancellation world where
  scores := by
    rcases exists_perform_scoreInOrder isScripted provides valid cancellation
      (List.range submission.gradableFiles.length) world with ⟨score, later, scored⟩
    have losing : true = false → ∀ history, grader.keeps history := fun same => by cases same
    rcases exists_turns_of_scoreInOrder true true losing (.refl _) scored with
      ⟨work, opening, done, completes, -, -, closes⟩
    exact ⟨score, later, work, opening, done, scored, completes, closes⟩
  tallies work opening done completes := by
    rcases completes.exists_visits isScripted provides idle (.refl _) with
      ⟨visits, last, succession, visited, collected, asked⟩
    have opens := completes.opens
    rcases opens.exists_ready isScripted provides with
      ⟨setup', classifier', valid', pass, isOpening⟩
    cases valid.symm.trans valid'
    rw [← opens.files] at visited
    have outputs := completes.outputs_eq visited collected
    have started : work.pass.started = opening.session.world.now := by
      rw [pass, isOpening]
      rfl
    have acquisition : work.pass.acquisition = ⟨opening.session.world.now - world.now⟩ := by
      rw [pass, isOpening]
      exact congrArg Duration.mk (Nat.add_sub_cancel_left _ _).symm
    refine ⟨_, visits.map Visit.duration, outputs, ?_, ?_, ?_, ?_⟩
    · rw [List.map_map, List.map_map]
      rfl
    · intro position output found
      rw [List.getElem?_map] at found
      rcases Option.map_eq_some_iff.mp found with ⟨visit, visitFound, rfl⟩
      have accords := succession.accords visit (List.mem_of_getElem? visitFound)
      have start := succession.start_eq scripted.all_reply_answer visitFound
      change visit.trial.waiting = _
      rw [accords.waiting, acquisition, start, ← List.map_take, List.map_map]
      refine congrArg Duration.mk ?_
      exact congrArg _ (Nat.add_sub_cancel_left _ _)
    · intro time member
      rcases List.mem_map.mp member with ⟨visit, visitMember, rfl⟩
      have accords := succession.accords visit visitMember
      have bounds := Job.bounds_of_conclusionAt? accords.concludes
      have time := Job.duration_of_conclusionAt? (scripted.all_reply_answer _) accords.concludes
      have deadline : (visit.job work).deadline = submission.environment.permittedTime := by
        rw [Visit.job, pass]
        rfl
      rw [← deadline, Visit.duration, time]
      change visit.trial.finish.instant - visit.start ≤ (visit.job work).deadline.nanoseconds
      omega
    · have commands : visits.map (fun visit => (visit.job work).command) =
          submission.gradableFiles.map fun file => setup.command.render file.filepath := by
        rw [← opens.files, ← succession.map_file visited, List.map_map]
        simp only [Visit.job, Pass.job, pass, passOf]
        rfl
      rcases completes.exists_log isScripted provides with ⟨added, log, accepts⟩
      refine ⟨added.requests, added.started, ?_, ?_, added.started_sublist_requests, ?_⟩
      · rw [log, Log.requests_append]
      · rw [log, Log.started, Log.acts_append, Log.startedOf_append accepts]
        rfl
      · rw [log, Log.requests_append, List.append_cancel_left_eq] at asked
        rw [asked, ← commands]
        exact Visit.requests_sublist work visits

/-- The second suite waits until the first one has timed out, or has been cancelled. -/
theorem addsUp_suites :
    hangingSuites.acquireError = none ∧ Grader.setup suites.environment =
        .ok (⟨⟨"run-tests %\x7bfilename\x7d"⟩, .jUnit⟩, ⟨[]⟩) ∧
      World.start.log.live = 0 ∧
      suiteGrader.AddsUp suites ⟨⟨"run-tests %\x7bfilename\x7d"⟩, .jUnit⟩ (some 7000000000)
        .start :=
  ⟨rfl, setup_suites, rfl, addsUp_of_setup rfl rfl setup_suites rfl _⟩

end Grader

end Grading
