import Grading.Abandonment
import Grading.Proofs.Release

namespace Grading

/-! A single run gives its runner back, once, when its command has ended. Nobody does so for a run
that is given up before. -/

/-! ## What an activity notes -/

namespace Activity

section

variable {α β : Type} {allowed : Act → Prop}

/-- Whether it ends or not, an activity only adds acts of some kind to the log. -/
def NotesOnly (allowed : Act → Prop) (activity : Activity α) : Prop :=
  ∀ world, ∃ added : Log, (activity.perform world).2.log = world.log ++ added ∧
    ∀ act ∈ added.acts, allowed act

namespace NotesOnly

theorem of_silent {activity : Activity α}
    (silent : ∀ world, (activity.perform world).2.log = world.log) :
    activity.NotesOnly allowed :=
  fun world => ⟨[], (silent world).trans (List.append_nil _).symm,
    fun _ member => absurd member List.not_mem_nil⟩

theorem pure (value : α) : (Pure.pure value : Activity α).NotesOnly allowed :=
  of_silent fun _ => rfl

theorem note {act : Act} (isAllowed : allowed act) : (Activity.note act).NotesOnly allowed := by
  intro world
  refine ⟨[⟨world.now, act⟩], rfl, ?_⟩
  intro other member
  rw [List.mem_singleton.mp member]
  exact isAllowed

theorem weaken {activity : Activity α} {others : Act → Prop} (notes : activity.NotesOnly allowed)
    (weaker : ∀ act, allowed act → others act) : activity.NotesOnly others := by
  intro world
  rcases notes world with ⟨added, log, allows⟩
  exact ⟨added, log, fun act member => weaker act (allows act member)⟩

theorem bind {activity : Activity α} {next : α → Activity β}
    (first : activity.NotesOnly allowed) (following : ∀ value, (next value).NotesOnly allowed) :
    (activity >>= next).NotesOnly allowed := by
  intro world
  rcases first world with ⟨added, log, allows⟩
  rw [perform_bind]
  rcases ended : activity.perform world with ⟨_ | value, middle⟩
  · rw [ended] at log
    exact ⟨added, log, allows⟩
  · rw [ended] at log
    rcases following value middle with ⟨more, logToo, allowsToo⟩
    refine ⟨added ++ more, ?_, ?_⟩
    · rw [← List.append_assoc, ← log]
      exact logToo
    · intro act member
      rw [Log.acts_append, List.mem_append] at member
      exact member.elim (allows act) (allowsToo act)

end NotesOnly

end

end Activity

namespace Act

/-- The act does not give a runner back. -/
def IsKept (act : Act) : Prop := act.isRelease = false

/-- The act is about a command on a runner that is there already. -/
def IsWork : Act → Prop
  | attach _ | refuse _ | detach | call _ | move _ => True
  | _ => False

theorem IsWork.isKept {act : Act} (isWork : act.IsWork) : act.IsKept := by
  cases act <;> first | rfl | cases isWork

theorem IsWork.isBookkeeping {act : Act} (isWork : act.IsWork) : act.isBookkeeping = false := by
  cases act <;> first | rfl | cases isWork

end Act

theorem Answer.noteCalls_work {α : Type} (answer : Answer α) :
    answer.noteCalls.NotesOnly Act.IsWork := by
  intro world
  refine ⟨answer.callEntries world.now, by rw [perform_noteCalls], ?_⟩
  intro act member
  rcases eq_call_of_mem_callEntries member with ⟨call, rfl⟩
  trivial

namespace Course

theorem advance_work (course : Course) : course.advance.NotesOnly Act.IsWork := by
  cases turns : course.next? with
  | none =>
      refine .of_silent fun world => ?_
      cases course with
      | closed finish => rfl
      | attaching | listening => rw [perform_advance_of_never rfl turns]
  | some turn =>
      intro world
      rw [perform_advance turns]
      rcases act_of_next? turns with ⟨act, -⟩ | ⟨act, noted, ends, -⟩
      · exact ⟨[], by simp [Turn.after, act], fun _ member => absurd member List.not_mem_nil⟩
      · refine ⟨[⟨max world.now turn.instant, act⟩], by simp [Turn.after, noted], ?_⟩
        intro other member
        rw [List.mem_singleton.mp member]
        cases act with
        | refuse error => trivial
        | detach => trivial
        | _ => cases ends 1

theorem conclude_work (course : Course) : course.conclude.NotesOnly Act.IsWork := by
  refine .bind course.advance_work fun middle => .bind middle.advance_work fun last => ?_
  cases last with
  | closed finish => exact .pure finish
  | attaching | listening => exact .of_silent fun _ => rfl

end Course

namespace Runner

theorem call_work (pool : Pool) (runner : Runner) (command : String) (limits : Limits)
    (channel : Option Channel) :
    (call pool runner command limits channel).NotesOnly Act.IsWork := by
  refine .bind (.of_silent fun _ => rfl) fun started => ?_
  split
  · exact .pure _
  · exact .bind (.of_silent fun _ => rfl) fun history => .bind (.note trivial) fun _ =>
      .bind (Answer.noteCalls_work _) fun _ => .pure _

theorem start_work (pool : Pool) (runner : Runner) (job : Job) :
    (start pool runner job).NotesOnly Act.IsWork := by
  refine .bind (.of_silent fun _ => rfl) fun started => ?_
  split
  · exact .pure _
  · exact .bind (.note trivial) fun _ => .bind (call_work pool _ _ _ _) fun _ => .pure _

/-- Executing a command is work with the runner and nothing else, even if it never ends. -/
theorem execute_work (pool : Pool) (runner : Runner) (job : Job) :
    (execute pool runner job).NotesOnly Act.IsWork := by
  refine .bind (start_work pool runner job) ?_
  rintro (finish | ⟨executing, course⟩)
  · exact .pure _
  · exact .bind course.conclude_work fun finish =>
      .bind (.bind (.note trivial) fun _ => .pure _) fun _ => .pure _

theorem execute_kept (pool : Pool) (runner : Runner) (job : Job) :
    (execute pool runner job).NotesOnly Act.IsKept :=
  (execute_work pool runner job).weaken fun _ => Act.IsWork.isKept

/-- A command that ended was refused, and then nothing happened. Or the runner executed it, and was
settled after it. -/
theorem cases_of_execute {pool : Pool} {runner : Runner} {job : Job} {world later : World}
    {executed : Executed}
    (ended : (execute pool runner job).perform world = (some executed, later)) :
    (later = world ∧ executed.runner = runner ∧ ∃ source,
      runner.move .executing = .error source ∧
        executed.result = .error ⟨.runner source, .empty, .zero⟩) ∨
      ∃ executing, runner.move .executing = .ok executing ∧
        executed.runner = executing.moveOrStay (stateAfter executed.result) := by
  rcases Activity.exists_of_perform_bind ended with
    ⟨finish | ⟨executing, course⟩, between, started, ended⟩
  · cases ended
    rcases eq_of_start_error started with ⟨unchanged, source, refused, result, -⟩
    exact .inl ⟨unchanged, rfl, source, refused, result⟩
  · rcases Activity.exists_of_perform_bind ended with ⟨finish, closed, -, ended⟩
    cases ended
    exact .inr ⟨executing, (cases_of_start started).1, rfl⟩

/-- Whatever became of the command, the runner can be given back then. -/
theorem not_released_of_execute {pool : Pool} {runner : Runner} {job : Job} {world later : World}
    {executed : Executed} (notReleased : runner.state ≠ .released)
    (ended : (execute pool runner job).perform world = (some executed, later)) :
    executed.runner.state ≠ .released := by
  rcases cases_of_execute ended with ⟨-, unchanged, -⟩ | ⟨executing, moved, settled⟩
  · rwa [unchanged]
  · have movable := Session.Fit.canMove_stateAfter executed.result (state_of_move moved)
    rw [← settled] at movable
    intro isReleased
    rw [isReleased] at movable
    cases movable

theorem id_of_execute {pool : Pool} {runner : Runner} {job : Job} {world later : World}
    {executed : Executed}
    (ended : (execute pool runner job).perform world = (some executed, later)) :
    executed.runner.id = runner.id := by
  rcases cases_of_execute ended with ⟨-, unchanged, -⟩ | ⟨executing, moved, settled⟩
  · rw [unchanged]
  · rw [settled, id_moveOrStay, id_of_move moved]

end Runner

/-! ## Runs -/

namespace Grader

variable {grader : Grader} {scripted : ScriptedPool} {submission : Submission} {filepath : String}
  {file : SubmissionFile}

/-- The command of a single run. -/
def runJob (submission : Submission) (filepath : String) (receiver : Receiver)
    (cancellation : Option Nat) : Job :=
  ⟨submission.environment.runCommand.render filepath, submission.environment.permittedTime,
    cancellation, some receiver⟩

/-- What a single run returns, by how its command went. -/
def runResult (filepath : String) (waiting : Duration) (executed : Executed) : RunResult :=
  ⟨match executed.result with
    | .ok done => .ok ⟨waiting, done.duration⟩
    | .error source => .error (.execution filepath source waiting), executed.channel⟩

/-- What happens when the command of a single run has ended. -/
def runClosing (instant : Nat) : Log :=
  [⟨instant, .release ScriptedPool.runnerId⟩, ⟨instant, .move .released⟩]

/-- The record of a run, if the store takes it. -/
def kept (grader : Grader) (testrun : Testrun) (world : World) : Log :=
  if grader.keeps world.log then [⟨world.now, .record testrun⟩] else []

theorem perform_keep (grader : Grader) (testrun : Testrun) (world : World) :
    (grader.keep testrun).perform world =
      (some (), { world with log := world.log ++ grader.kept testrun world }) := by
  rw [keep, Activity.perform_bind_of_some (Activity.perform_history world), kept]
  split
  · rfl
  · simp

theorem eq_of_mem_kept {testrun : Testrun} {world : World} {entry : Entry}
    (member : entry ∈ grader.kept testrun world) : entry = ⟨world.now, .record testrun⟩ := by
  rw [kept] at member
  split at member
  · exact List.mem_singleton.mp member
  · cases member

/-- A single run whose command ended gives the runner back and then records the run, both at that
instant. -/
theorem perform_runFile (isScripted : grader.pool = scripted.toPool)
    (provides : scripted.acquireError = none) (contains : submission.fileAt? filepath = some file)
    {receiver : Receiver} {cancellation : Option Nat} {world middle : World} {executed : Executed}
    (executes : ((ScriptedPool.runnerFor submission.userId submission.environment).execute
      grader.pool (runJob submission file.filepath receiver cancellation)).perform
        (readyWorld scripted submission world) = (some executed, middle)) :
    let released : World := ⟨middle.now, middle.log ++ runClosing middle.now⟩
    let testrun := runRecord submission file scripted.delay (.ofResult executed.result)
    (grader.runFile submission filepath receiver cancellation).perform world =
      (some (runResult file.filepath scripted.delay executed),
        ⟨middle.now, released.log ++ grader.kept testrun released⟩) := by
  intro released testrun
  have notReleased := Runner.not_released_of_execute (by exact nofun) executes
  have releases := scripted.perform_release notReleased middle
  rw [← isScripted, Runner.id_of_execute executes] at releases
  simp only [runFile, contains]
  rw [Activity.perform_bind_of_some (perform_acquire isScripted provides submission world)]
  exact (Activity.perform_bind_of_some executes).trans
    ((Activity.perform_bind_of_some releases).trans
      (Activity.perform_bind_of_some (grader.perform_keep testrun released)))

/-- What a single run does after its runner is there: it executes a command, for ever or until an
instant, when it gives the runner back and records the run. -/
inductive Concludes (activity : Activity RunResult) (ready world : World) : Prop
  | endless (later : World) (added : Log) (endless : activity.perform world = (none, later))
      (log : later.log = ready.log ++ added) (kept : ∀ act ∈ added.acts, act.IsKept)
  | finite (result : RunResult) (later : World) (added closing : Log)
      (ended : activity.perform world = (some result, later))
      (log : later.log = ready.log ++ added ++ closing) (kept : ∀ act ∈ added.acts, act.IsKept)
      (closes : closing.releases = [ScriptedPool.runnerId])
      (last : ∀ entry ∈ closing, entry.instant = later.now)

theorem concludes_of_provides (isScripted : grader.pool = scripted.toPool)
    (provides : scripted.acquireError = none) (contains : submission.fileAt? filepath = some file)
    (receiver : Receiver) (cancellation : Option Nat) (world : World) :
    Concludes (grader.runFile submission filepath receiver cancellation)
      (readyWorld scripted submission world) world := by
  let runner := ScriptedPool.runnerFor submission.userId submission.environment
  let ready := readyWorld scripted submission world
  let job := runJob submission file.filepath receiver cancellation
  rcases Runner.execute_kept grader.pool runner job ready with ⟨added, log, keepsRunner⟩
  rcases executes : (runner.execute grader.pool job).perform ready with ⟨_ | executed, middle⟩
  · rw [executes] at log
    refine .endless middle added ?_ log keepsRunner
    simp only [runFile, contains]
    rw [Activity.perform_bind_of_some (perform_acquire isScripted provides submission world)]
    exact Activity.perform_bind_of_none executes
  · rw [executes] at log
    have ended := perform_runFile isScripted provides contains executes
    let recorded := grader.kept
      (runRecord submission file scripted.delay (.ofResult executed.result))
      ⟨middle.now, middle.log ++ runClosing middle.now⟩
    refine .finite _ _ added (runClosing middle.now ++ recorded) ended ?_ keepsRunner ?_ ?_
    · change middle.log ++ runClosing middle.now ++ recorded = _
      rw [log, List.append_assoc]
    · rw [Log.releases_append_of_kept (runClosing middle.now)]
      · rfl
      · intro act member
        rcases List.mem_map.mp member with ⟨entry, entryMember, rfl⟩
        rw [eq_of_mem_kept entryMember]
        rfl
    · intro entry member
      rcases List.mem_append.mp member with closes | records
      · simp only [runClosing, List.mem_cons, List.not_mem_nil, or_false] at closes
        rcases closes with rfl | rfl <;> rfl
      · rw [eq_of_mem_kept records]

end Grader

/-! ## Runs that are given up -/

theorem Activity.hangUp_kept : Activity.hangUp.NotesOnly Act.IsKept := by
  refine .bind (.of_silent fun _ => rfl) fun history => ?_
  split
  · exact .note rfl
  · exact .pure _

namespace Grader

variable {grader : Grader} {scripted : ScriptedPool} {submission : Submission} {filepath : String}
  {file : SubmissionFile}

/-- A run that is given up before its runner is given back leaves it like that. -/
theorem Concludes.releases_before {activity : Activity RunResult} {world last : World}
    {result : Option RunResult} {instant : Nat}
    (concludes : Concludes activity (readyWorld scripted submission world) world)
    (performed : activity.perform world = (result, last))
    (late : result.isSome → instant ≤ last.now) :
    ∃ added : Log, last.log.before instant =
      (readyWorld scripted submission world).log.before instant ++ added ∧
      ∀ act ∈ added.acts, act.IsKept := by
  cases concludes with
  | endless later added endless log kept =>
      cases performed.symm.trans endless
      refine ⟨added.before instant, by rw [log, Log.before_append], ?_⟩
      exact fun act member => kept act (Log.mem_acts_of_before member)
  | finite result later added closing ended log kept closes lasts =>
      cases performed.symm.trans ended
      have gone : closing.before instant = [] := Log.before_eq_nil fun entry member =>
        (lasts entry member).symm ▸ late rfl
      refine ⟨added.before instant, ?_, ?_⟩
      · rw [log, Log.before_append, Log.before_append, gone, List.append_nil]
      · exact fun act member => kept act (Log.mem_acts_of_before member)

/-- A single run gives its runner back just when it is not given up: nothing looks after the runner
of a run that is, as the keeper of a pass does. -/
structure ReleasesUnlessGivenUp (grader : Grader) (scripted : ScriptedPool)
    (submission : Submission) (filepath : String) (receiver : Receiver)
    (cancellation : Option Nat) (world : World) : Prop where
  completed : ∀ result later,
    (grader.runFile submission filepath receiver cancellation).perform world =
      (some result, later) → later.log.releases = world.log.releases ++ [ScriptedPool.runnerId]
  /-- A run that ends before an instant is not given up then. -/
  inTime : ∀ instant result later,
    grader.runUntil submission filepath receiver cancellation instant world =
      (some result, later) → later.log.releases = world.log.releases ++ [ScriptedPool.runnerId]
  /-- The runner was handed out, but nobody gives it back. -/
  givenUp : ∀ instant later, world.now + scripted.delay.nanoseconds < instant →
    grader.runUntil submission filepath receiver cancellation instant world = (none, later) →
    ⟨world.now + scripted.delay.nanoseconds, .acquired (ScriptedPool.runnerFor submission.userId
      submission.environment)⟩ ∈ later.log ∧
    later.log.releases = (world.log.before instant).releases

theorem releasesUnlessGivenUp_of_provides (isScripted : grader.pool = scripted.toPool)
    (provides : scripted.acquireError = none) (contains : submission.fileAt? filepath = some file)
    (receiver : Receiver) (cancellation : Option Nat) (world : World) :
    grader.ReleasesUnlessGivenUp scripted submission filepath receiver cancellation world := by
  have acquiring : (readyWorld scripted submission world).log.releases = world.log.releases :=
    releases_readyWorld scripted submission world
  have concludes :=
    concludes_of_provides isScripted provides contains receiver cancellation world
  have completed : ∀ result later,
      (grader.runFile submission filepath receiver cancellation).perform world =
        (some result, later) →
      later.log.releases = world.log.releases ++ [ScriptedPool.runnerId] := by
    intro result later ended
    cases concludes with
    | endless last added endless => cases ended.symm.trans endless
    | finite result last added closing endedToo log kept closes =>
        cases ended.symm.trans endedToo
        rw [log, Log.releases_append, closes, Log.releases_append_of_kept _ kept, acquiring]
  refine ⟨completed, ?_, ?_⟩
  · intro instant result later ended
    rw [runUntil] at ended
    rcases givenUp : (grader.runFile submission filepath receiver cancellation).giveUpAt instant
      world with ⟨_ | result', later'⟩
    · rw [givenUp] at ended
      cases ended
    · rw [givenUp] at ended
      cases ended
      exact completed _ _ (Activity.of_giveUpAt_some givenUp).1
  · intro instant later ready ended
    rw [runUntil] at ended
    rcases givenUp : (grader.runFile submission filepath receiver cancellation).giveUpAt instant
      world with ⟨_ | result', later'⟩
    · rw [givenUp] at ended
      cases ended
      rcases Activity.of_giveUpAt_none givenUp with ⟨last, result, performed, rfl, late⟩
      rcases concludes.releases_before performed late with ⟨added, log, kept⟩
      rcases Activity.hangUp_kept ⟨instant, last.log.before instant⟩ with ⟨hungUp, all, keptToo⟩
      refine ⟨?_, ?_⟩
      · rw [all, log, readyWorld, Log.before_append]
        simp [Log.before, ready]
      · rw [all, Log.releases_append_of_kept _ keptToo, log, Log.releases_append_of_kept _ kept,
          readyWorld, Log.before_append, Log.releases_append_of_kept]
        intro act member
        have acquires := Log.mem_acts_of_before member
        simp only [Log.acts, List.map_cons, List.map_nil, List.mem_cons, List.not_mem_nil,
          or_false] at acquires
        rcases acquires with rfl | rfl <;> rfl
    · rw [givenUp] at ended
      cases ended

end Grader

end Grading
