import Grading.Pool.Remote
import Grading.Proofs.Lifecycle
import Grading.Proofs.Sequence

namespace Grading

/-! A runner that a service names is given back to it once: by its acquisition if the files could
not be copied to it, and otherwise by those it was handed out to, whatever became of their
commands. -/

namespace Act

def isCall : Act → Bool
  | call _ => true
  | _ => false

end Act

namespace Log

theorem calls_append (log later : Log) : calls (log ++ later) = log.calls ++ later.calls := by
  simp only [calls, acts_append, List.filterMap_append]

theorem calls_append_entry (log : Log) {entry : Entry} (uncalled : entry.act.isCall = false) :
    calls (log ++ [entry]) = log.calls := by
  have nothing : calls [entry] = [] := by
    apply List.filterMap_eq_nil_iff.mpr
    intro act member
    rw [List.mem_singleton.mp member]
    cases noted : entry.act with
    | call call =>
        rw [noted] at uncalled
        cases uncalled
    | _ => rfl
  rw [calls_append, nothing, List.append_nil]

end Log

theorem World.calls_noting (world : World) {act : Act} (uncalled : act.isCall = false) :
    (world.noting act).log.calls = world.log.calls :=
  world.log.calls_append_entry uncalled

theorem Answer.calls_callEntries {α : Type} (answer : Answer α) (instant : Nat) :
    (answer.callEntries instant).calls = answer.calls.map Prod.snd := by
  rw [callEntries, Log.calls, Log.acts, List.map_map, List.filterMap_map, ← List.filterMap_eq_map]
  rfl

/-! ## Commands -/

/-- The later calls are the earlier ones, and then commands on one runner. -/
def OnlyAttaches (runnerId : String) (earlier later : List ServiceCall) : Prop :=
  ∃ commands : List String,
    later = earlier ++ commands.map fun command => .attach ⟨runnerId, command⟩

namespace OnlyAttaches

variable {runnerId : String} {first second third : List ServiceCall}

theorem of_eq (equal : second = first) : OnlyAttaches runnerId first second :=
  ⟨[], by rw [equal, List.map_nil, List.append_nil]⟩

theorem trans (earlier : OnlyAttaches runnerId first second)
    (later : OnlyAttaches runnerId second third) : OnlyAttaches runnerId first third := by
  rcases earlier with ⟨commands, rfl⟩
  rcases later with ⟨others, rfl⟩
  exact ⟨commands ++ others, by rw [List.map_append, List.append_assoc]⟩

end OnlyAttaches

namespace Course

theorem calls_after {course : Course} {turn : Turn} (turns : course.next? = some turn)
    (world : World) : (turn.after world).log.calls = world.log.calls := by
  rcases act_of_next? turns with ⟨act, -⟩ | ⟨act, noted, ends, -⟩
  · simp only [Turn.after, act, Option.elim_none]
  · simp only [Turn.after, noted, Option.elim_some]
    apply World.calls_noting
    cases act with
    | call call => cases ends 1
    | _ => rfl

theorem calls_of_advance {course next : Course} {world later : World}
    (advanced : course.advance.perform world = (some next, later)) :
    later.log.calls = world.log.calls := by
  cases live : course.isLive with
  | true =>
      rcases exists_turn_of_advance live advanced with ⟨turn, turns, rfl, rfl⟩
      exact calls_after turns world
  | false =>
      cases course with
      | closed finish =>
          cases advanced
          rfl
      | attaching | listening => cases live

end Course

namespace Runner

variable {service : Service}

theorem onlyAttaches_of_start {runner executing : Runner} {job : Job} {world later : World}
    {course : Course}
    (started : (start service.toPool runner job).perform world =
      (some (.ok (executing, course)), later)) :
    OnlyAttaches runner.id world.log.calls later.log.calls := by
  have moved : (world.noting (.move .executing)).log.calls = world.log.calls :=
    World.calls_noting world rfl
  rcases cases_of_start started with ⟨-, ⟨failure, -, -, rfl⟩ | ⟨-, -, rfl⟩⟩
  · exact .of_eq moved
  · refine ⟨[job.command], ?_⟩
    rw [Log.calls_append, World.calls_noting _ rfl, moved, Answer.calls_callEntries,
      ← id_of_move (cases_of_start started).1]
    rfl

/-- Executing a command calls for it, if at all. -/
theorem onlyAttaches_of_execute {runner : Runner} {job : Job} {world later : World}
    {executed : Executed}
    (ended : (execute service.toPool runner job).perform world = (some executed, later)) :
    OnlyAttaches runner.id world.log.calls later.log.calls := by
  rcases Activity.exists_of_perform_bind ended with
    ⟨finish | ⟨executing, course⟩, between, started, ended⟩
  · cases ended
    rcases eq_of_start_error started with ⟨rfl, -⟩
    exact .of_eq rfl
  · rcases Activity.exists_of_perform_bind ended with ⟨finish, closed, concluded, ended⟩
    cases ended
    rcases Course.exists_of_conclude concluded with ⟨middle, listened, first, second⟩
    refine (onlyAttaches_of_start started).trans (.of_eq ?_)
    rw [World.calls_noting _ rfl, Course.calls_of_advance second, Course.calls_of_advance first]

/-- Giving back a runner that was not given back before calls for that, once. -/
theorem calls_of_release {runner released : Runner} {world later : World}
    (notReleased : runner.state ≠ .released)
    (ended : (release service.toPool runner).perform world = (some released, later)) :
    later.log.calls = world.log.calls ++ [.release ⟨runner.id⟩] := by
  rcases exists_of_release notReleased ended with ⟨-, pause, rfl⟩
  have asked : Log.calls (⟨world.now, .release runner.id⟩ ::
      (service.toPool.release world.log runner).callEntries world.now) =
        [.release ⟨runner.id⟩] :=
    Answer.calls_callEntries (service.releasing world.log.calls runner) world.now
  rw [Log.calls_append, Log.calls_append_entry _ rfl, asked]

theorem not_released_of_moveOrStay {runner : Runner} {next : RunnerState}
    (notReleased : runner.state ≠ .released) (notReleasing : next ≠ .released) :
    (runner.moveOrStay next).state ≠ .released := by
  rw [moveOrStay]
  cases moved : runner.move next with
  | ok runner =>
      change runner.state ≠ .released
      rwa [state_of_move moved]
  | error source => exact notReleased

end Runner

namespace Session

variable {service : Service} {session next : Session} {move : Move}

/-- A step is a release, or it calls for a command, if at all. -/
theorem Step.onlyAttaches (step : Step service.toPool session move next)
    (kept : move ≠ .release) :
    OnlyAttaches session.runner.id session.world.log.calls next.world.log.calls := by
  cases step with
  | wait | lease | drop | abortAway | abortHolder => exact .of_eq rfl
  | start client job last runner course world hasLease started =>
      exact Runner.onlyAttaches_of_start started
  | refuse client job last finish world hasLease refused =>
      rcases Runner.eq_of_start_error refused with ⟨rfl, -⟩
      exact .of_eq rfl
  | advance client course following world isBusy isLive advanced =>
      exact .of_eq (Course.calls_of_advance advanced)
  | settle client finish runner world isOver settled =>
      cases settled
      exact .of_eq (World.calls_noting _ rfl)
  | abortLive client isLive => exact .of_eq (World.calls_noting _ rfl)
  | release => exact absurd rfl kept
  | note act isBookkeeping =>
      refine .of_eq (World.calls_noting _ ?_)
      cases act with
      | call call => cases isBookkeeping
      | _ => rfl

theorem Step.not_released {pool : Pool} (step : Step pool session move next)
    (isOrderly : move.isOrderly) (notReleased : session.runner.state ≠ .released) :
    next.runner.state ≠ .released := by
  cases step with
  | wait | lease | refuse | advance | drop | note => exact notReleased
  | start client job last runner course world hasLease started =>
      rw [Runner.state_of_move (Runner.cases_of_start started).1]
      exact nofun
  | settle client finish runner world isOver settled =>
      cases settled
      refine Runner.not_released_of_moveOrStay notReleased fun same => ?_
      have settled := Runner.isSettled_stateAfter finish.result
      rw [same] at settled
      cases settled
  | abortAway | abortHolder | abortLive | release => cases isOrderly

end Session

namespace Tasks

variable {service : Service} {work : Assignment} {tasks next : Tasks}

/-- Tasks call for commands on their runner, and do not release it. -/
theorem Reaches.onlyAttaches (isRemote : work.pool = service.toPool)
    (reaches : Reaches work tasks next) (notReleased : tasks.session.runner.state ≠ .released) :
    OnlyAttaches tasks.session.runner.id tasks.session.world.log.calls
        next.session.world.log.calls ∧
      next.session.runner.state ≠ .released := by
  induction reaches with
  | refl => exact ⟨.of_eq rfl, notReleased⟩
  | tail earlier step induction =>
      rcases step.cases_of_session with same | ⟨move, isOrderly, step⟩
      · rw [same]
        exact induction
      · have kept : move ≠ .release := by
          rintro rfl
          cases isOrderly
        refine ⟨induction.1.trans ?_, step.not_released isOrderly induction.2⟩
        rw [isRemote] at step
        rw [← (Reaches.releases_eq earlier).2]
        exact step.onlyAttaches kept

/-- When they are done, it is released. -/
theorem calls_of_close (isRemote : work.pool = service.toPool) {submission : Submission}
    {score : SubmissionScore Float} {later : World}
    (notReleased : tasks.session.runner.state ≠ .released)
    (closes : (tasks.close work submission).perform tasks.session.world = (some score, later)) :
    later.log.calls =
      tasks.session.world.log.calls ++ [.release ⟨tasks.session.runner.id⟩] := by
  rcases Activity.exists_of_perform_bind closes with ⟨released, middle, releases, combines⟩
  rw [isRemote] at releases
  rw [← Runner.calls_of_release notReleased releases]
  simp only [Grader.combine] at combines
  split at combines
  · cases combines
    exact World.calls_noting middle rfl
  · cases combines
    rfl

end Tasks

/-! ## Acquisitions -/

namespace Service

def copying (message : Wire.RunnerMessage) (files : List SubmissionFile) : Wire.CopyFilesRequest :=
  ⟨message.runnerId, files.map .ofFile⟩

/-- An acquisition that is answered: the calls that it makes after those of `history`, and its
answer. A runner whose files could not be copied is released by it. -/
inductive Acquires (service : Service) (history : List ServiceCall) (principal : String)
    (environment : Environment) (files : List SubmissionFile) :
    List ServiceCall → Except RunnerError Runner → Prop
  | refused (pause : Nat) (status : Status)
      (acquired : service.acquire history (.ofEnvironment principal environment) =
        some (pause, .error status)) :
      Acquires service history principal environment files
        [.acquire (.ofEnvironment principal environment)]
        (.error (status.acquireError environment.id))
  | uncopied (pause second : Nat) (message : Wire.RunnerMessage) (status : Status)
      (acquired : service.acquire history (.ofEnvironment principal environment) =
        some (pause, .ok message))
      (copied : service.copyFiles (history ++ [.acquire (.ofEnvironment principal environment)])
        (copying message files) = some (second, .error status)) :
      Acquires service history principal environment files
        [.acquire (.ofEnvironment principal environment), .copyFiles (copying message files),
          .release message]
        (.error (.allocation ("copying files failed: " ++ status.message)))
  | ready (pause second : Nat) (message : Wire.RunnerMessage)
      (acquired : service.acquire history (.ofEnvironment principal environment) =
        some (pause, .ok message))
      (copied : service.copyFiles (history ++ [.acquire (.ofEnvironment principal environment)])
        (copying message files) = some (second, .ok ())) :
      Acquires service history principal environment files
        [.acquire (.ofEnvironment principal environment), .copyFiles (copying message files)]
        (.ok ⟨message.runnerId, principal, environment.id, .ready⟩)

variable {service : Service} {history : List ServiceCall} {principal : String}
  {environment : Environment} {files : List SubmissionFile}

theorem acquires_of_copyAfter {first pause : Nat} {message : Wire.RunnerMessage}
    {reply : Except RunnerError Runner}
    (acquired : service.acquire history (.ofEnvironment principal environment) =
      some (first, .ok message)) :
    let answer := service.copyAfter history
      [(0, .acquire (.ofEnvironment principal environment))] first message principal environment
      files
    answer.reply = some (pause, reply) →
      Acquires service history principal environment files (answer.calls.map Prod.snd) reply := by
  intro answer replied
  rcases copied : service.copyFiles (history ++ [.acquire (.ofEnvironment principal environment)])
    (copying message files) with _ | ⟨second, status | _⟩
  · have unanswered : answer.reply = none := by
      simp only [answer, copyAfter, List.map_cons, List.map_nil]
      rw [← copying, copied]
    rw [unanswered] at replied
    cases replied
  · have aborted : answer = service.abortAcquisition history
        [(0, .acquire (.ofEnvironment principal environment)),
          (first, .copyFiles (copying message files))] (first + second) message status := by
      simp only [answer, copyAfter, List.map_cons, List.map_nil]
      rw [← copying, copied]
      rfl
    rw [aborted, abortAcquisition] at replied ⊢
    split at replied
    · cases replied
    · cases replied
      exact .uncopied first second message status acquired copied
  · have copies : answer = ⟨[(0, .acquire (.ofEnvironment principal environment)),
        (first, .copyFiles (copying message files))],
          some (first + second, readyRunner message principal environment)⟩ := by
      simp only [answer, copyAfter, List.map_cons, List.map_nil]
      rw [← copying, copied]
      rfl
    rw [copies] at replied ⊢
    cases replied
    exact .ready first second message acquired copied

theorem acquires_of_reply {pause : Nat} {reply : Except RunnerError Runner}
    (replied : (service.acquisition history principal environment files).reply =
      some (pause, reply)) :
    Acquires service history principal environment files
      ((service.acquisition history principal environment files).calls.map Prod.snd) reply := by
  rw [acquisition] at replied ⊢
  rcases acquired : service.acquire history (.ofEnvironment principal environment) with
    _ | ⟨first, status | message⟩
  · rw [acquired] at replied
    cases replied
  · rw [acquired] at replied
    cases replied
    exact .refused pause status acquired
  · rw [acquired] at replied
    exact acquires_of_copyAfter acquired replied

/-- A pool that answered a request for a runner made these calls, and took none back. -/
theorem exists_acquires {world later : World} {reply : Except RunnerError Runner}
    (ended : (service.toPool.acquireRunner principal environment files).perform world =
      (some reply, later)) :
    ∃ calls, Acquires service world.log.calls principal environment files calls reply ∧
      later.log.calls = world.log.calls ++ calls ∧ later.log.releases = world.log.releases := by
  let answer := service.acquisition world.log.calls principal environment files
  rw [Pool.acquireRunner, Activity.perform_bind_of_some (Activity.perform_history world),
    Activity.perform_bind_of_some (Activity.perform_note _ world)] at ended
  rcases Activity.exists_of_perform_bind ended with ⟨reply', middle, awaited, ended⟩
  change answer.await.perform _ = _ at awaited
  rcases replied : answer.reply with _ | ⟨pause, value⟩
  · rw [Answer.perform_await_of_none replied] at awaited
    cases awaited
  · rw [Answer.perform_await_of_reply replied] at awaited
    cases awaited
    have calls : Log.calls ((world.noting (.acquire principal)).log ++
        answer.callEntries world.now) = world.log.calls ++ answer.calls.map Prod.snd := by
      rw [Log.calls_append, World.calls_noting _ rfl, Answer.calls_callEntries]
    have releases : Log.releases ((world.noting (.acquire principal)).log ++
        answer.callEntries world.now) = world.log.releases :=
      (Log.releases_append_calls _ _ _).trans (Log.releases_append_entry _ rfl)
    have acquires := acquires_of_reply replied
    cases reply' with
    | error source =>
        cases ended
        exact ⟨_, acquires, calls, releases⟩
    | ok runner =>
        cases ended
        exact ⟨_, acquires, (World.calls_noting _ rfl).trans calls,
          (Log.releases_append_entry _ rfl).trans releases⟩

end Service

/-! ## Services that answer -/

theorem Answer.exists_perform_await {α : Type} {answer : Answer α}
    (replies : answer.reply.isSome) (world : World) :
    ∃ value later, answer.await.perform world = (some value, later) := by
  rcases Option.isSome_iff_exists.mp replies with ⟨reply, replied⟩
  exact ⟨_, _, answer.perform_await_of_reply replied world⟩

/-- Every call is answered but those for commands, which have limits of their own. -/
structure Service.Answers (service : Service) : Prop where
  acquire : ∀ history request, (service.acquire history request).isSome
  copyFiles : ∀ history request, (service.copyFiles history request).isSome
  release : ∀ history request, (service.release history request).isSome

namespace Service.Answers

variable {service : Service} (answers : service.Answers)

include answers

theorem isSome_abortAcquisition (history : List ServiceCall) (calls : List (Nat × ServiceCall))
    (pause : Nat) (message : Wire.RunnerMessage) (status : Status) :
    (service.abortAcquisition history calls pause message status).reply.isSome := by
  rcases Option.isSome_iff_exists.mp (answers.release
    (history ++ (calls ++ [(pause, ServiceCall.release message)]).dropLast.map Prod.snd)
    message) with ⟨⟨last, reply⟩, released⟩
  rw [abortAcquisition, released]
  rfl

theorem isSome_copyAfter (history : List ServiceCall) (calls : List (Nat × ServiceCall))
    (pause : Nat) (message : Wire.RunnerMessage) (principal : String) (environment : Environment)
    (files : List SubmissionFile) :
    (service.copyAfter history calls pause message principal environment
      files).reply.isSome := by
  rcases Option.isSome_iff_exists.mp (answers.copyFiles (history ++ calls.map Prod.snd)
    (copying message files)) with ⟨⟨second, status | _⟩, copied⟩
  · simp only [copyAfter]
    rw [← copying, copied]
    exact answers.isSome_abortAcquisition _ _ _ _ _
  · simp only [copyAfter]
    rw [← copying, copied]
    rfl

theorem isSome_acquisition (history : List ServiceCall) (principal : String)
    (environment : Environment) (files : List SubmissionFile) :
    (service.acquisition history principal environment files).reply.isSome := by
  rcases Option.isSome_iff_exists.mp (answers.acquire history
    (.ofEnvironment principal environment)) with ⟨⟨pause, status | message⟩, acquired⟩
  · rw [acquisition, acquired]
    rfl
  · rw [acquisition, acquired]
    exact answers.isSome_copyAfter _ _ _ _ _ _ _

theorem exists_perform_acquireRunner (principal : String) (environment : Environment)
    (files : List SubmissionFile) (world : World) :
    ∃ reply later, (service.toPool.acquireRunner principal environment files).perform world =
      (some reply, later) := by
  rcases Answer.exists_perform_await
    (answers.isSome_acquisition world.log.calls principal environment files)
    (world.noting (.acquire principal)) with ⟨reply, middle, awaited⟩
  change (service.toPool.acquire world.log principal environment files).await.perform _ = _
    at awaited
  rw [Pool.acquireRunner, Activity.perform_bind_of_some (Activity.perform_history world),
    Activity.perform_bind_of_some (Activity.perform_note _ world),
    Activity.perform_bind_of_some awaited]
  cases reply with
  | ok runner => exact ⟨_, _, rfl⟩
  | error source => exact ⟨_, _, rfl⟩

theorem exists_perform_release (runner : Runner) (world : World) :
    ∃ released later, (runner.release service.toPool).perform world = (some released, later) := by
  by_cases isReleased : runner.state = .released
  · exact ⟨_, _, Runner.perform_release_of_released service.toPool world isReleased⟩
  · have replies : (service.releasing world.log.calls runner).reply.isSome := by
      rw [releasing, Option.isSome_map]
      exact answers.release _ _
    rcases Answer.exists_perform_await replies (world.noting (.release runner.id)) with
      ⟨reply, middle, awaited⟩
    change (service.toPool.release world.log runner).await.perform _ = _ at awaited
    rw [Runner.release, if_neg isReleased, Pool.releaseRunner]
    simp only [bind_assoc]
    rw [Activity.perform_bind_of_some (Activity.perform_history world),
      Activity.perform_bind_of_some (Activity.perform_note _ world),
      Activity.perform_bind_of_some awaited]
    exact ⟨_, _, rfl⟩

theorem exists_perform_acquire {grader : Grader} (isRemote : grader.pool = service.toPool)
    (submission : Submission) (world : World) :
    ∃ result later, (grader.acquire submission).perform world = (some result, later) := by
  rcases answers.exists_perform_acquireRunner submission.userId submission.environment
    submission.files world with ⟨reply, later, acquired⟩
  rw [← isRemote] at acquired
  rw [Grader.acquire, Activity.perform_bind_of_some (Activity.perform_now world),
    Activity.perform_bind_of_some acquired]
  simp only [Activity.perform_bind_of_some (Activity.perform_now later)]
  cases reply with
  | ok runner => exact ⟨_, _, rfl⟩
  | error source => exact ⟨_, _, rfl⟩

/-- A submission is scored with the runners of a service that answers, or it is an error. -/
theorem exists_perform_scoreInOrder {grader : Grader} (isRemote : grader.pool = service.toPool)
    (submission : Submission) (cancellation : Option Nat) (order : List Nat) (world : World) :
    ∃ result later, (grader.scoreInOrder submission cancellation order).perform world =
      (some result, later) := by
  rw [Grader.scoreInOrder]
  split
  · exact ⟨_, _, rfl⟩
  · rcases answers.exists_perform_acquire isRemote submission world with
      ⟨error | ⟨runner, waiting⟩, opened, acquired⟩
    · rw [Activity.perform_bind_of_some acquired]
      exact ⟨_, _, rfl⟩
    · rw [Activity.perform_bind_of_some acquired]
      simp only [Activity.perform_bind_of_some (Activity.perform_now _)]
      rcases grader.exists_perform_scoreFiles _ submission.gradableFiles runner order opened with
        ⟨⟨used, outputs⟩, ended, scored⟩
      rcases answers.exists_perform_release used ended with ⟨released, freed, releases⟩
      rw [← isRemote] at releases
      rcases Grader.exists_perform_combine submission
        (Grader.arrange submission.gradableFiles.length outputs) freed with
        ⟨score, later, combines⟩
      rw [Activity.perform_bind_of_some scored]
      simp only [Activity.perform_bind_of_some releases, Activity.perform_bind_of_some combines]
      exact ⟨_, _, rfl⟩

end Service.Answers

/-! ## Graders -/

/-- What has become of the runners of a service when a use of it is over: the error for which none
was handed out, or that of a runner that was released when it was not needed any more. -/
inductive Service.HandsBack (service : Service) (submission : Submission) (world later : World) :
    Option RunnerError → Prop
  | unacquired (calls : List ServiceCall) (source : RunnerError)
      (acquires : service.Acquires world.log.calls submission.userId submission.environment
        submission.files calls (.error source))
      (called : later.log.calls = world.log.calls ++ calls)
      (releases : later.log.releases = world.log.releases) :
      HandsBack service submission world later (some source)
  | used (calls : List ServiceCall) (runner : Runner) (commands : List String)
      (acquires : service.Acquires world.log.calls submission.userId submission.environment
        submission.files calls (.ok runner))
      (called : later.log.calls = world.log.calls ++ calls ++
        commands.map (fun command => .attach ⟨runner.id, command⟩) ++ [.release ⟨runner.id⟩])
      (releases : later.log.releases = world.log.releases ++ [runner.id]) :
      HandsBack service submission world later none

/-- Whether a result is the error of an acquisition, and which one. -/
def GradingError.IsAcquisition {α : Type} (result : Except GradingError α) :
    Option RunnerError → Prop
  | some source => ∃ waiting, result = .error (.acquisition source waiting)
  | none => ∀ source waiting, result ≠ .error (.acquisition source waiting)

namespace Grader

variable {grader : Grader} {service : Service} {submission : Submission}
  {cancellation : Option Nat} {world later : World}

theorem exists_of_acquire {result : Except GradingError (Runner × Duration)}
    (ended : (grader.acquire submission).perform world = (some result, later)) :
    ∃ reply waiting, (grader.pool.acquireRunner submission.userId submission.environment
        submission.files).perform world = (some reply, later) ∧
      result = match reply with
        | .ok runner => .ok (runner, waiting)
        | .error source => .error (.acquisition source waiting) := by
  rw [acquire, Activity.perform_bind_of_some (Activity.perform_now world)] at ended
  rcases Activity.exists_of_perform_bind ended with ⟨reply, middle, acquired, ended⟩
  rw [Activity.perform_bind_of_some (Activity.perform_now middle)] at ended
  cases reply with
  | ok runner =>
      cases ended
      exact ⟨_, _, acquired, rfl⟩
  | error source =>
      cases ended
      exact ⟨_, _, acquired, rfl⟩

/-- A runner that was acquired and is released after some commands is handed back. -/
theorem handsBack_of_used {runner : Runner} {waiting : Duration} {opened used : World}
    (isRemote : grader.pool = service.toPool)
    (acquired : (grader.acquire submission).perform world = (some (.ok (runner, waiting)), opened))
    (attaches : OnlyAttaches runner.id opened.log.calls used.log.calls)
    (called : later.log.calls = used.log.calls ++ [.release ⟨runner.id⟩])
    (releases : later.log.releases = opened.log.releases ++ [runner.id]) :
    service.HandsBack submission world later none := by
  rcases exists_of_acquire acquired with ⟨_ | reply, waited, acquires, same⟩
  · cases same
  · cases same
    rw [isRemote] at acquires
    rcases Service.exists_acquires acquires with ⟨calls, acquires, first, kept⟩
    rcases attaches with ⟨commands, attached⟩
    refine .used calls runner commands acquires ?_ ?_
    · rw [called, attached, first]
    · rw [releases, kept]

theorem handsBack_of_unacquired {error : GradingError} (isRemote : grader.pool = service.toPool)
    (refused : (grader.acquire submission).perform world = (some (.error error), later)) :
    ∃ source waiting, error = .acquisition source waiting ∧
      service.HandsBack submission world later (some source) := by
  rcases exists_of_acquire refused with ⟨source | runner, waiting, acquires, same⟩
  · cases same
    rw [isRemote] at acquires
    rcases Service.exists_acquires acquires with ⟨calls, acquires, called, kept⟩
    exact ⟨source, waiting, rfl, .unacquired calls source acquires called kept⟩
  · cases same

theorem not_released_of_acquire {runner : Runner} {waiting : Duration}
    (isRemote : grader.pool = service.toPool)
    (acquired : (grader.acquire submission).perform world = (some (.ok (runner, waiting)), later)) :
    runner.state ≠ .released := by
  rcases exists_of_acquire acquired with ⟨_ | reply, waited, acquires, same⟩
  · cases same
  · cases same
    rw [isRemote] at acquires
    rcases Service.exists_acquires acquires with ⟨calls, acquires, -⟩
    cases acquires
    exact nofun

/-- However the tasks come to their turns, the runner is handed back after them. -/
theorem Completes.handsBack {work : Assignment} {opening done : Tasks}
    {score : SubmissionScore Float} (isRemote : grader.pool = service.toPool)
    (completes : grader.Completes submission cancellation world work opening done)
    (closes : (done.close work submission).perform done.session.world = (some score, later)) :
    service.HandsBack submission world later none := by
  rcases completes.opens.prepared with
    ⟨setup, classifier, runner, waiting, opened, -, acquired, -, rfl⟩
  have remote : work.pool = service.toPool := completes.opens.pool.trans isRemote
  rcases completes.reaches.onlyAttaches remote (not_released_of_acquire isRemote acquired) with
    ⟨attaches, notReleased⟩
  rcases completes.reaches.releases_eq with ⟨releases, runnerId⟩
  refine handsBack_of_used isRemote acquired attaches ?_ ?_
  · rw [Tasks.calls_of_close remote notReleased closes, runnerId]
    rfl
  · rw [Tasks.releases_of_close notReleased closes, releases, runnerId]
    rfl

theorem handsBack_of_scoreInOrder {order : List Nat}
    {result : Except GradingError (SubmissionScore Float)}
    (isRemote : grader.pool = service.toPool)
    (perm : order.Perm (List.range submission.gradableFiles.length))
    (scored : (grader.scoreInOrder submission cancellation order).perform world =
      (some result, later)) :
    (∃ cause, result = .error (.setup cause) ∧ later = world) ∨
      ∃ source?, GradingError.IsAcquisition result source? ∧
        service.HandsBack submission world later source? := by
  cases result with
  | ok score =>
      rcases exists_run_of_scoreInOrder true false nofun perm scored with
        ⟨work, opening, done, completes, -, -, closes⟩
      exact .inr ⟨none, nofun, completes.handsBack isRemote closes⟩
  | error error =>
      rw [scoreInOrder] at scored
      rcases prepared : setup submission.environment with cause | ⟨setup, classifier⟩
      · rw [prepared] at scored
        cases scored
        exact .inl ⟨cause, rfl, rfl⟩
      · rw [prepared] at scored
        rcases Activity.exists_of_perform_bind scored with
          ⟨source | ⟨runner, waiting⟩, opened, acquired, scored⟩
        · cases scored
          rcases handsBack_of_unacquired isRemote acquired with ⟨source, waiting, rfl, handsBack⟩
          exact .inr ⟨some source, ⟨waiting, rfl⟩, handsBack⟩
        · rcases Activity.exists_of_perform_bind scored with ⟨_, _, -, scored⟩
          rcases Activity.exists_of_perform_bind scored with ⟨_, _, -, scored⟩
          rcases Activity.exists_of_perform_bind scored with ⟨_, _, -, scored⟩
          rcases Activity.exists_of_perform_bind scored with ⟨_, _, -, scored⟩
          cases scored

theorem calls_and_releases_of_keep {testrun : Testrun} {value : Unit}
    (kept : (grader.keep testrun).perform world = (some value, later)) :
    later.log.calls = world.log.calls ∧ later.log.releases = world.log.releases := by
  rw [keep, Activity.perform_bind_of_some (Activity.perform_history world)] at kept
  split at kept
  · cases kept
    exact ⟨World.calls_noting world rfl, Log.releases_append_entry _ rfl⟩
  · cases kept
    exact ⟨rfl, rfl⟩

theorem handsBack_of_runFile {filepath : String} {receiver : Receiver} {result : RunResult}
    (isRemote : grader.pool = service.toPool)
    (ended : (grader.runFile submission filepath receiver cancellation).perform world =
      (some result, later)) :
    (result.times = .error (.unknownFile filepath) ∧ later = world) ∨
      ∃ source?, GradingError.IsAcquisition result.times source? ∧
        service.HandsBack submission world later source? := by
  rw [runFile] at ended
  cases contains : submission.fileAt? filepath with
  | none =>
      rw [contains] at ended
      cases ended
      exact .inl ⟨rfl, rfl⟩
  | some file =>
      rw [contains] at ended
      rcases Activity.exists_of_perform_bind ended with
        ⟨error | ⟨runner, waiting⟩, opened, acquired, ended⟩
      · cases ended
        rcases handsBack_of_unacquired isRemote acquired with ⟨source, waiting, rfl, handsBack⟩
        exact .inr ⟨some source, ⟨waiting, rfl⟩, handsBack⟩
      · rcases Activity.exists_of_perform_bind ended with ⟨executed, used, executes, ended⟩
        rcases Activity.exists_of_perform_bind ended with ⟨released, freed, releases, ended⟩
        rcases Activity.exists_of_perform_bind ended with ⟨_, recorded, keeps, ended⟩
        cases ended
        have notReleased :=
          Runner.not_released_of_execute (not_released_of_acquire isRemote acquired) executes
        have runnerId := Runner.id_of_execute executes
        have kept := Runner.releases_of_execute executes
        rcases calls_and_releases_of_keep keeps with ⟨called, released⟩
        rw [isRemote] at executes releases
        refine .inr ⟨none, ?_, handsBack_of_used isRemote acquired
          (Runner.onlyAttaches_of_execute executes) ?_ ?_⟩
        · intro source waited same
          rcases executed with ⟨⟨instant, _ | _, heard, channel⟩, runner⟩ <;> cases same
        · rw [called, Runner.calls_of_release notReleased releases, runnerId]
        · rw [released, (Runner.releases_of_release notReleased releases).1, kept, runnerId]

/-- What is completed with the runners of a service hands them back. -/
structure ReturnsRunners (grader : Grader) (service : Service) (submission : Submission)
    (world : World) : Prop where
  acquire : ∀ principal environment files reply later,
    (grader.pool.acquireRunner principal environment files).perform world = (some reply, later) →
    (∀ runner, reply = .ok runner → runner.state = .ready) ∧
      ∀ runnerId current next, reply ≠ .error (.invalidMove runnerId current next)
  /-- File by file, in any order. -/
  score : ∀ cancellation order result later,
    order.Perm (List.range submission.gradableFiles.length) →
    (grader.scoreInOrder submission cancellation order).perform world = (some result, later) →
    (∃ cause, result = .error (.setup cause) ∧ later = world) ∨
      ∃ source?, GradingError.IsAcquisition result source? ∧
        service.HandsBack submission world later source?
  /-- With a service that answers, every pass comes to a result. -/
  completes : service.Answers → ∀ cancellation order, ∃ result later,
    (grader.scoreInOrder submission cancellation order).perform world = (some result, later)
  /-- By tasks, in any interleaving. -/
  tasks : ∀ cancellation work opening done score later,
    grader.Completes submission cancellation world work opening done →
    (done.close work submission).perform done.session.world = (some score, later) →
    service.HandsBack submission world later none
  run : ∀ filepath receiver cancellation result later,
    (grader.runFile submission filepath receiver cancellation).perform world =
      (some result, later) →
    (result.times = .error (.unknownFile filepath) ∧ later = world) ∨
      ∃ source?, GradingError.IsAcquisition result.times source? ∧
        service.HandsBack submission world later source?

theorem returnsRunners (isRemote : grader.pool = service.toPool) (submission : Submission)
    (world : World) : grader.ReturnsRunners service submission world where
  acquire principal environment files reply later ended := by
    rw [isRemote] at ended
    rcases Service.exists_acquires ended with ⟨calls, acquires, -⟩
    cases acquires with
    | refused pause status acquired =>
        refine ⟨nofun, fun runnerId current next same => ?_⟩
        simp only [Status.acquireError] at same
        split at same <;> cases same
    | uncopied => exact ⟨nofun, nofun⟩
    | ready pause second message acquired copied =>
        refine ⟨?_, nofun⟩
        rintro _ ⟨⟩
        rfl
  score _ _ _ _ := handsBack_of_scoreInOrder isRemote
  completes answers cancellation order :=
    answers.exists_perform_scoreInOrder isRemote submission cancellation order world
  tasks _ _ _ _ _ _ := Completes.handsBack isRemote
  run _ _ _ _ _ := handsBack_of_runFile isRemote

/-- A service that refuses every command and cannot take runners back gets one back that could not
be set up, and one that was used. -/
theorem returnsRunners_refusing :
    let service (copied : Except Status Unit) : Service :=
      { acquire := fun _ _ => some (0, .ok ⟨"r-1"⟩)
        copyFiles := fun _ _ => some (0, copied)
        attach := fun _ _ => some (0, .error ⟨Status.failedPrecondition, "busy"⟩)
        release := fun _ _ => some (0, .error ⟨Status.unavailable, "gone"⟩) }
    let grader (copied : Except Status Unit) : Grader :=
      ⟨(service copied).toPool, .default, .unhurried, fun _ => true⟩
    let run (copied : Except Status Unit) :=
      ((grader copied).runFile suites "SuiteTest.java" .eager none).perform .start
    let acquires : List ServiceCall :=
      [.acquire (.ofEnvironment "learner-3" suiteEnvironment),
        .copyFiles (Service.copying ⟨"r-1"⟩ suites.files)]
    (∀ copied, (grader copied).ReturnsRunners (service copied) suites .start) ∧
      (run (.error ⟨13, "disk full"⟩)).2.log.calls = acquires ++ [.release ⟨"r-1"⟩] ∧
      (run (.ok ())).2.log.calls =
        acquires ++ [.attach ⟨"r-1", suiteEnvironment.runCommand.render "SuiteTest.java"⟩,
          .release ⟨"r-1"⟩] := by
  intro service grader run acquires
  exact ⟨fun copied => returnsRunners rfl suites .start, rfl, rfl⟩

end Grader

end Grading
