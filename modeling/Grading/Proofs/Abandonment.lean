import Grading.Proofs.Audit
import Grading.Proofs.Chronology
import Grading.Proofs.Clearance
import Grading.Proofs.Turns

namespace Grading

/-! A pass that is given up is cleared up: what it had done by then stays done, its runner is given
back once, and nothing else happens. -/

/-! ## When a pass can be given up -/

namespace Tasks

variable {work : Assignment} {tasks next : Tasks}

/-- While something is awaited, no task is between its records. -/
theorem Awaits.suspended (awaits : tasks.Awaits work) : tasks.Suspended := by
  intro index trial isRecorded
  have stores : ∃ session, work.Stores tasks.session (trial.errorsAct? work.pass) session := by
    cases trial.errorsAct? work.pass with
    | none => exact ⟨_, .nothing⟩
    | some act => exact ⟨_, .kept act⟩
  rcases stores with ⟨session, stores⟩
  rcases awaits.idle _ (.recordErrors index trial session isRecorded stores) with same | later
  · have ended : tasks.task index = .ended trial :=
      (congrArg (Tasks.task · index) same).symm.trans (task_put_self tasks index _)
    cases isRecorded.symm.trans ended
  · exact absurd later (now_of_stores stores ▸ Nat.lt_irrefl _)

/-- Time does not pass what is awaited. -/
theorem Step.now_le_of_busy {before : Log} (exclusive : tasks.session.Exclusive before)
    (step : Step work tasks next) (later : tasks.session.world.now < next.session.world.now)
    {client : Nat} {course : Course} {turn : Turn}
    (isBusy : tasks.session.stage client = .busy course) (turns : course.next? = some turn) :
    next.session.world.now ≤ turn.instant := by
  rcases step.cases_of_later later with ⟨-, -, due⟩ | ⟨other, _, _, isBusyToo, turnsToo, now⟩
  · exact due client course turn isBusy turns
  · have same : client = other := by
      by_contra different
      have isAway := exclusive.eq_away (by rw [isBusyToo]; exact nofun) different
      cases isBusy.symm.trans isAway
    subst same
    cases isBusy.symm.trans isBusyToo
    cases turns.symm.trans turnsToo
    exact Nat.le_of_eq now

end Tasks

namespace Lineup

variable {work : Assignment} {lineup next : Lineup} {instant : Nat}

/-- What is awaited beyond an instant can be awaited until then. -/
theorem step_waited {before : Log} (exclusive : lineup.tasks.session.Exclusive before)
    (awaits : lineup.tasks.Awaits work) (early : lineup.tasks.session.world.now < instant)
    (step : Lineup.Step work lineup next) (reached : instant ≤ next.tasks.session.world.now) :
    Lineup.Step work lineup (lineup.waited instant) ∧
      Prompt work lineup (lineup.waited instant) := by
  refine ⟨.go _ (.share (.wait instant) _ rfl (.wait instant (Nat.le_of_lt early) ?_))
    fun _ _ => rfl, fun _ => awaits⟩
  intro client course turn isBusy turns
  exact Nat.le_trans reached
    (step.tasks_step.now_le_of_busy exclusive (Nat.lt_of_lt_of_le early reached) isBusy turns)

end Lineup

/-! ## Clearing up -/

namespace Clearance

variable {work : Assignment} {clearance : Clearance}

/-- Tasks that have nothing of the runner just go away. -/
theorem exists_reaches_of_away (away : ∀ client, clearance.session.stage client = .away) :
    ∃ gone, Reaches work clearance gone ∧ gone.present = [] ∧ gone.keeper = clearance.keeper ∧
      gone.session = clearance.session := by
  induction number : clearance.present.length using Nat.strongRecOn generalizing clearance with
  | ind count induction =>
      cases present : clearance.present with
      | nil => exact ⟨clearance, .refl, present, rfl, rfl⟩
      | cons index rest =>
          have isPresent : index ∈ clearance.present := by
            rw [present]
            exact List.mem_cons_self
          have step : Step work clearance (clearance.without index clearance.session) :=
            .leave index clearance.session isPresent (.abortAway index (away index))
          have fewer : (clearance.without index clearance.session).present.length < count :=
            number ▸ List.length_filter_lt_length_iff_exists.mpr ⟨index, isPresent, by simp⟩
          have still : ∀ client, (clearance.without index clearance.session).session.stage client =
              .away := away
          rcases induction _ fewer still rfl with ⟨gone, reaches, nobody, keeper, session⟩
          exact ⟨gone, .head step reaches, nobody, keeper, session⟩

/-- How a clearance ends: the command that was under way is not listened to any more, and the runner
is given back. -/
def closing (session : Session) : World :=
  let instant := session.world.now
  { session.world with
    log := session.world.log ++ [⟨instant, .detach⟩, ⟨instant, .release session.runner.id⟩,
      ⟨instant, .move .released⟩] }

/-- Tasks that are given up while a command is under way can be cleared at once. -/
theorem Clearing.exists_clear_of_live {scripted : ScriptedPool}
    (isScripted : work.pool = scripted.toPool) {lineup : Lineup} {before : Log}
    (clearing : Clearing work lineup (lineup.giveUp work))
    (exclusive : lineup.tasks.session.Exclusive before) {client : Nat}
    (isLive : (lineup.tasks.session.stage client).isLive) :
    ∃ clear, Reaches work (lineup.giveUp work) clear ∧ clear.IsClear ∧
      clear.session.world = closing lineup.tasks.session := by
  let session := lineup.tasks.session
  let left := (session.leave client).noting .detach
  have present : session.stage client ≠ .away := Stage.ne_away_of_isLive isLive
  have leaves : Step work (lineup.giveUp work) ((lineup.giveUp work).without client left) :=
    .leave client left (clearing.staged client present) (.abortLive client isLive)
  have away : ∀ other, ((lineup.giveUp work).without client left).session.stage other = .away := by
    intro other
    by_cases same : other = client
    · rw [same]
      exact Session.stage_put_self session client .away
    · exact (Session.stage_put_of_ne session same .away).trans (exclusive.eq_away present same)
  rcases exists_reaches_of_away away with ⟨gone, leave, nobody, keeper, goneSession⟩
  have toQueue : Reaches work (lineup.giveUp work) (queued work gone) :=
    (Relation.ReflTransGen.head leaves leave).tail (.queue keeper)
  have queueing := clearing.reaches toQueue
  have notReleased := (queueing.kept nofun).2
  have releases := scripted.perform_release notReleased (queued work gone).session.world
  rw [← isScripted] at releases
  refine ⟨_, toQueue.tail (.release [] _ rfl (queueing.line_of_gone nobody rfl)
    (.release _ _ (queueing.isFree_of_gone nobody) releases)), ⟨nobody, rfl⟩, ?_⟩
  have sameSession : (queued work gone).session = left := goneSession
  change World.mk _ (_ ++ _) = _
  rw [sameSession]
  simp [closing, left, session, Session.noting, Session.leave, Session.put, World.noting]

end Clearance

/-! ## Passes that are given up -/

namespace Grader

variable {grader : Grader} {scripted : ScriptedPool} {submission : Submission} {world later : World}
  {cancellation : Option Nat}

/-- Cleaning up after a command that is under way is clearing up. -/
theorem perform_cleanUp (isScripted : grader.pool = scripted.toPool) {session : Session}
    (live : session.world.log.live ≠ 0) (unreleased : session.world.log.releases = [])
    (tracks : session.world.log.Tracks session.runner)
    (notReleased : session.runner.state ≠ .released) :
    (grader.cleanUp.perform session.world).2 = Clearance.closing session := by
  have hangsUp : Activity.hangUp.perform session.world =
      (some (), session.world.noting .detach) := by
    rw [Activity.hangUp, Activity.perform_bind_of_some (Activity.perform_history _), if_pos live]
    rfl
  have still : (session.world.noting .detach).log.releases = [] :=
    (Log.releases_append_entry _ rfl).trans unreleased
  have stillTracks : (session.world.noting .detach).log.runner? = some session.runner :=
    tracks.note _ .detach fun _ => rfl
  have releases := scripted.perform_release notReleased (session.world.noting .detach)
  rw [← isScripted] at releases
  rw [cleanUp, Activity.perform_bind_of_some hangsUp,
    Activity.perform_bind_of_some (Activity.perform_history _), if_neg (not_not_intro still),
    giveBack, Activity.perform_bind_of_some (Activity.perform_history _)]
  simp only [stillTracks]
  rw [Activity.perform_bind_of_some releases]
  simp [Clearance.closing, World.noting]

/-- Acquiring a runner from a scripted pool takes as long as it is told to. -/
theorem exists_perform_acquire (isScripted : grader.pool = scripted.toPool)
    (submission : Submission) (world : World) :
    ∃ reply later, (grader.acquire submission).perform world = (some reply, later) ∧
      later.now = world.now + scripted.delay.nanoseconds := by
  have asked : ∃ reply later, (grader.pool.acquireRunner submission.userId submission.environment
      submission.files).perform world = (some reply, later) ∧
      later.now = world.now + scripted.delay.nanoseconds := by
    rw [isScripted, Pool.acquireRunner, Activity.perform_bind_of_some (Activity.perform_history _),
      Activity.perform_bind_of_some (Activity.perform_note _ world),
      Activity.perform_bind_of_some (Answer.perform_await_of_reply rfl _)]
    cases scripted.acquisition submission.userId submission.environment with
    | error source => exact ⟨_, _, rfl, rfl⟩
    | ok runner => exact ⟨_, _, rfl, rfl⟩
  rcases asked with ⟨reply, later, asked, now⟩
  rw [acquire, Activity.perform_bind_of_some (Activity.perform_now world),
    Activity.perform_bind_of_some asked]
  cases reply with
  | error source => exact ⟨_, _, rfl, now⟩
  | ok runner => exact ⟨_, _, rfl, now⟩

/-- A submission that is not graded at all is done with when the runner should be there. -/
theorem exists_perform_score (isScripted : grader.pool = scripted.toPool)
    (submission : Submission) (cancellation : Option Nat) (world : World) :
    ∃ result later, (grader.score submission cancellation).perform world = (some result, later) ∧
      ∀ error, result = .error error → later.now ≤ world.now + scripted.delay.nanoseconds := by
  cases prepared : setup submission.environment with
  | error cause =>
      rw [score, scoreInOrder, prepared]
      exact ⟨_, _, rfl, fun _ _ => Nat.le_add_right _ _⟩
  | ok prepared =>
      rcases exists_perform_acquire isScripted submission world with
        ⟨error | ⟨runner, waiting⟩, ready, acquired, now⟩
      · rw [score, scoreInOrder]
        simp only [prepared, Activity.perform_bind_of_some acquired]
        exact ⟨_, _, rfl, fun _ _ => Nat.le_of_eq now⟩
      · have provides := provides_of_acquire isScripted acquired
        rcases exists_perform_scoreInOrder isScripted provides prepared cancellation
          (List.range submission.gradableFiles.length) world with ⟨result, last, scored⟩
        refine ⟨_, last, scored, ?_⟩
        intro error failed
        cases failed

/-- A pass that is given up when it has its runner would have completed its tasks then or later. -/
theorem exists_turns_of_givenUp (isScripted : grader.pool = scripted.toPool) (storeFails : Bool)
    (lossless : storeFails = false → ∀ history, grader.keeps history) {instant : Nat}
    (ready : world.now + scripted.delay.nanoseconds < instant)
    (givenUp : (grader.score submission cancellation).giveUpAt instant world = (none, later)) :
    ∃ work opening done score last,
      grader.CompletesInTurn submission cancellation world work opening
        (List.range submission.gradableFiles.length) done ∧
      work.storeFails = storeFails ∧
      (done.tasks.close work submission).perform done.tasks.session.world = (some score, last) ∧
      instant ≤ last.now ∧ later = ⟨instant, last.log.before instant⟩ := by
  rcases Activity.of_giveUpAt_none givenUp with ⟨last, result, performed, rfl, late⟩
  rcases exists_perform_score isScripted submission cancellation world with
    ⟨error | score, last', scored, early⟩
  · cases performed.symm.trans scored
    have inTime := early error rfl
    exact absurd (late rfl) (Nat.not_le.mpr (Nat.lt_of_le_of_lt inTime ready))
  · cases performed.symm.trans scored
    rcases exists_turns_of_scoreInOrder storeFails true lossless (.refl _) scored with
      ⟨work, opening, done, completes, keeps, -, closes⟩
    exact ⟨work, opening, done, score, last, completes, keeps, closes, late rfl, rfl⟩

/-- At the instant its tasks wait for a command, and nothing has been noted since they do. -/
theorem CompletesInTurn.exists_waited {work : Assignment} {opening : Tasks} {order : List Nat}
    {done : Lineup} (isScripted : grader.pool = scripted.toPool) (unused : world.log = [])
    (completes : grader.CompletesInTurn submission cancellation world work opening order done)
    {instant : Nat} (ready : world.now + scripted.delay.nanoseconds < instant)
    {score : SubmissionScore Float} {last : World}
    (closes : (done.tasks.close work submission).perform done.tasks.session.world =
      (some score, last)) (late : instant ≤ last.now) :
    ∃ lineup, Lineup.Reaches work (.opening opening order) lineup ∧ lineup.tasks.Suspended ∧
      (∃ client, (lineup.tasks.session.stage client).isLive) ∧
      lineup.tasks.session.world = ⟨instant, last.log.before instant⟩ := by
  have provides := completes.opens.provides isScripted
  have isScriptedToo := completes.opens.pool.trans isScripted
  rcases completes.opens.exists_ready isScripted provides with ⟨setup, classifier, -, -, rfl⟩
  rcases Tasks.continues_of_close isScriptedToo closes with ⟨closing, now⟩
  rcases completes.reaches.exists_awaits isScriptedToo ready (now ▸ late) with
    ⟨lineup, next, reaches, step, awaits, early, reached, continues⟩
  have idle : (readyWorld scripted submission world).log.live = 0 :=
    (live_readyWorld scripted submission world).trans (congrArg Log.live unused)
  have before := Lineup.Reaches.tasks_reaches reaches
  rcases Tasks.exclusive_and_fit_of_reaches idle rfl before with ⟨exclusive, -⟩
  have coherent := (Tasks.Coherent.opening _ _).reaches before
  rcases awaits.exists_turn coherent with ⟨client, course, turn, isBusy, turns, -⟩
  have log : last.log.before instant = lineup.tasks.session.world.log := by
    have continuesUntil := (continues_readyWorld scripted submission world).trans
      ((Tasks.Reaches.continues isScriptedToo before).weaken (Nat.le_add_right _ _))
    rw [(continues.trans (closing.weaken late)).before_eq]
    exact continuesUntil.before_eq_self unused early
  refine ⟨lineup.waited instant, reaches.tail (Lineup.step_waited exclusive awaits early step
    reached), awaits.suspended, ⟨client, ?_⟩, ?_⟩
  · change (lineup.tasks.session.stage client).isLive
    rw [isBusy]
    exact Course.isLive_of_next? turns
  · rw [log]
    rfl

end Grader

/-- The records are those of the files whose tasks have ended, one of each. -/
def Tasks.Recorded (work : Assignment) (tasks : Tasks) (testruns : List Testrun) : Prop :=
  ∃ order : List Nat, order.Nodup ∧ (∀ index, index ∈ order ↔ (tasks.task index).ended?.isSome) ∧
    List.Forall₂ (fun index testrun => ∃ trial, (tasks.task index).ended? = some trial ∧
      work.files[index]? = some trial.file ∧ testrun = trial.testrun work.pass) order testruns

/-- While no task is between its records, a store that keeps everything has these. -/
theorem Tasks.Suspended.exists_testruns {work : Assignment} {runner : Runner} {world : World}
    {tasks : Tasks} (suspended : tasks.Suspended) (keeps : work.storeFails = false)
    (reaches : Reaches work (opening work.files runner world) tasks) :
    ∃ testruns, tasks.Recorded work testruns ∧
      tasks.session.world.log.testruns = world.log.testruns ++ testruns := by
  rcases exists_audited_of_reaches keeps reaches with ⟨order, errorOrder, audited⟩
  have recorded : ∀ index, (tasks.task index).recorded? = (tasks.task index).ended? := by
    intro index
    cases task : tasks.task index with
    | recorded trial => exact absurd task (suspended index trial)
    | _ => rfl
  have mem : ∀ index, index ∈ order ↔ (tasks.task index).ended?.isSome := by
    intro index
    rw [audited.records.mem, recorded]
  refine ⟨_, ⟨order, audited.records.nodup, mem, ?_⟩, audited.testruns⟩
  apply forall₂_notes
  intro index member
  rcases Option.isSome_iff_exists.mp ((mem index).mp member) with ⟨trial, ended⟩
  have tried : (tasks.task index).trial? = some trial := by
    cases task : tasks.task index <;> rw [task] at ended <;> first | exact ended | cases ended
  rcases (grounded_of_reaches reaches).tried index trial tried with ⟨tests, -⟩
  exact ⟨trial, (recorded index).trans ended, trial, ended, tests, rfl⟩

namespace Grader

variable {grader : Grader} {scripted : ScriptedPool} {submission : Submission} {world : World}
  {cancellation : Option Nat}

/-- What is left of tasks that were given up at `lineup`, at any time while they are cleared. -/
structure Clears (world : World) (work : Assignment) (lineup : Lineup) (clearance : Clearance) :
    Prop where
  /-- The pool was asked for no other command. -/
  requests : clearance.session.world.log.requests = lineup.tasks.session.world.log.requests
  records : clearance.session.world.log.records = lineup.tasks.session.world.log.records
  testruns : work.storeFails = false → ∃ testruns, lineup.tasks.Recorded work testruns ∧
    clearance.session.world.log.testruns = world.log.testruns ++ testruns
  unreleased : clearance.keeper ≠ .done →
    clearance.session.world.log.releases = world.log.releases
  released : clearance.keeper = .done →
    clearance.session.world.log.releases = world.log.releases ++ [ScriptedPool.runnerId] ∧
      clearance.session.runner.state = .released
  /-- Nothing happens but that time passes, or that less is left to be done. -/
  nearer : ∀ next, Clearance.Step work clearance next →
    (∃ instant, next = { clearance with lineup := clearance.lineup.waited instant }) ∨
      next.remaining < clearance.remaining
  ends : ∃ clear, Clearance.Reaches work clearance clear ∧ clear.IsClear

/-- A pass that is given up at an instant, with the tasks as they are then, and cleared up. -/
structure GivesUp (grader : Grader) (submission : Submission) (cancellation : Option Nat)
    (world : World) (instant : Nat) (work : Assignment) (opening : Tasks) (lineup : Lineup)
    (clear : Clearance) : Prop where
  opens : grader.Opens submission cancellation world work opening
  reaches : Lineup.Reaches work
    (.opening opening (List.range submission.gradableFiles.length)) lineup
  suspended : lineup.tasks.Suspended
  now : lineup.tasks.session.world.now = instant
  /-- It is given up in the middle of a command. -/
  executing : lineup.tasks.session.runner.state = .executing
  unfinished : ∃ index < submission.gradableFiles.length,
    (lineup.tasks.task index).ended? = none
  clears : Clearance.Reaches work (lineup.giveUp work) clear
  isClear : clear.IsClear

/-- Whenever a pass is given up that has its runner, that is clean. -/
structure ClearsUp (grader : Grader) (scripted : ScriptedPool) (submission : Submission)
    (cancellation : Option Nat) (world : World) : Prop where
  clears : ∀ work opening order lineup clearance,
    grader.Opens submission cancellation world work opening →
    Relation.ReflTransGen (Lineup.Step work) (.opening opening order) lineup →
    lineup.tasks.Suspended → Clearance.Reaches work (lineup.giveUp work) clearance →
    Clears world work lineup clearance
  abandons : world.log = [] → ∀ instant later, world.now + scripted.delay.nanoseconds < instant →
    grader.scoreUntil submission cancellation instant world = (none, later) →
    ∀ storeFails, (storeFails = false → ∀ history, grader.keeps history) →
    ∃ work opening lineup clear, work.storeFails = storeFails ∧
      grader.GivesUp submission cancellation world instant work opening lineup clear ∧
      clear.session.world = later

namespace Opens

variable {work : Assignment} {opening : Tasks} {order : List Nat} {lineup : Lineup}

/-- Tasks on a scripted pool that are given up are being cleared. -/
theorem clearing (isScripted : grader.pool = scripted.toPool) (idle : world.log.live = 0)
    (opens : grader.Opens submission cancellation world work opening)
    (steps : Relation.ReflTransGen (Lineup.Step work) (.opening opening order) lineup) :
    Clearance.Clearing work lineup (lineup.giveUp work) := by
  rcases opens.exists_ready isScripted (opens.provides isScripted) with
    ⟨setup, classifier, -, -, rfl⟩
  have ready : (readyWorld scripted submission world).log.live = 0 :=
    (live_readyWorld scripted submission world).trans idle
  have tasksReach := Lineup.tasks_reaches_of_steps steps
  rcases Tasks.exclusive_and_fit_of_reaches ready rfl tasksReach with ⟨-, fit⟩
  exact .giveUp ((Tasks.Coherent.opening _ _).reaches tasksReach)
    ((Lineup.Lined.opening _ order).steps steps) fit.not_released

/-- Until then their runner is not given back. -/
theorem releases_eq (isScripted : grader.pool = scripted.toPool)
    (opens : grader.Opens submission cancellation world work opening)
    (reaches : Tasks.Reaches work opening lineup.tasks) :
    lineup.tasks.session.world.log.releases = world.log.releases ∧
      lineup.tasks.session.runner.id = ScriptedPool.runnerId := by
  rcases opens.exists_ready isScripted (opens.provides isScripted) with
    ⟨setup, classifier, -, -, rfl⟩
  rcases reaches.releases_eq with ⟨releases, runnerId⟩
  exact ⟨releases.trans (releases_readyWorld scripted submission world), runnerId⟩

theorem clears (isScripted : grader.pool = scripted.toPool) (idle : world.log.live = 0)
    (opens : grader.Opens submission cancellation world work opening)
    (steps : Relation.ReflTransGen (Lineup.Step work) (.opening opening order) lineup)
    (suspended : lineup.tasks.Suspended) {clearance : Clearance}
    (clearsTo : Clearance.Reaches work (lineup.giveUp work) clearance) :
    Clears world work lineup clearance := by
  have clearing := (opens.clearing isScripted idle steps).reaches clearsTo
  have tasksReach := Lineup.tasks_reaches_of_steps steps
  rcases opens.releases_eq isScripted tasksReach with ⟨releases, runnerId⟩
  refine {
    requests := clearing.requests
    records := clearing.records
    testruns := ?_
    unreleased := fun notDone => (clearing.kept notDone).1.trans releases
    released := ?_
    nearer := fun next step => clearing.remaining_lt step
    ends := clearing.exists_reaches_isClear (opens.pool.trans isScripted) }
  · intro keeps
    rcases opens.prepared with ⟨_, _, runner, waiting, ready, -, acquired, -, isOpening⟩
    rcases suspended.exists_testruns keeps (isOpening ▸ tasksReach) with
      ⟨testruns, each, recorded⟩
    have acquiring : ready.log.testruns = world.log.testruns :=
      congrArg Records.testruns (records_of_acquire acquired)
    have cleared := congrArg Records.testruns clearing.records
    rw [acquiring] at recorded
    exact ⟨testruns, each, cleared.trans recorded⟩
  · intro isDone
    rcases clearing.released isDone with ⟨once, state⟩
    rw [releases, runnerId] at once
    exact ⟨once, state⟩

end Opens

/-- What is done about a pass that is given up at an instant is clearing it up. -/
theorem exists_clear_of_scoreUntil (isScripted : grader.pool = scripted.toPool)
    (unused : world.log = []) {instant : Nat} {later : World}
    (ready : world.now + scripted.delay.nanoseconds < instant)
    (givenUp : grader.scoreUntil submission cancellation instant world = (none, later))
    (storeFails : Bool) (lossless : storeFails = false → ∀ history, grader.keeps history) :
    ∃ work opening lineup clear, work.storeFails = storeFails ∧
      grader.GivesUp submission cancellation world instant work opening lineup clear ∧
      clear.session.world = later := by
  rw [scoreUntil] at givenUp
  rcases cut : (grader.score submission cancellation).giveUpAt instant world with
    ⟨_ | result, stopped⟩
  · rw [cut] at givenUp
    cases givenUp
    rcases exists_turns_of_givenUp isScripted storeFails lossless ready cut with
      ⟨work, opening, done, score, last, completes, keeps, closes, late, rfl⟩
    rcases completes.exists_waited isScripted unused ready closes late with
      ⟨lineup, reaches, suspended, ⟨client, isLive⟩, atInstant⟩
    have opens := completes.opens
    have isScriptedToo := opens.pool.trans isScripted
    have idle : world.log.live = 0 := congrArg Log.live unused
    have tasksReach := Lineup.Reaches.tasks_reaches reaches
    have clearing := opens.clearing isScripted idle reaches.steps
    have unreleased := (opens.releases_eq isScripted tasksReach).1
    rcases opens.exists_ready isScripted (opens.provides isScripted) with ⟨_, _, -, -, rfl⟩
    have readyIdle : (readyWorld scripted submission world).log.live = 0 :=
      (live_readyWorld scripted submission world).trans idle
    rcases Tasks.exclusive_and_fit_of_reaches readyIdle rfl tasksReach with ⟨exclusive, fit⟩
    rcases clearing.exists_clear_of_live isScriptedToo exclusive isLive with
      ⟨clear, clears, isClear, cleared⟩
    have coherent := (Tasks.Coherent.opening _ _).reaches tasksReach
    refine ⟨work, _, lineup, clear, keeps, {
      opens
      reaches
      suspended
      now := congrArg World.now atInstant
      executing := fit.executing client (Stage.isBusy_of_isLive isLive)
      unfinished := ?_
      clears
      isClear }, ?_⟩
    · rcases (coherent.working client).mp (Stage.ne_away_of_isLive isLive) with
        ⟨waiting, isWorking⟩
      have bound := coherent.indexed client (by rw [isWorking]; exact nofun)
      exact ⟨client, opens.files ▸ bound, by rw [isWorking]; rfl⟩
    · have live : lineup.tasks.session.world.log.live ≠ 0 := by
        rw [exclusive.live client isLive]
        exact Nat.one_ne_zero
      have tracks := Tasks.Reaches.tracks isScriptedToo tasksReach
        (tracks_readyWorld scripted submission world)
      rw [cleared, ← atInstant]
      exact (perform_cleanUp isScripted live (unreleased.trans (congrArg Log.releases unused))
        tracks fit.not_released).symm
  · rw [cut] at givenUp
    cases givenUp

/-- On a scripted pool, giving up a pass that has its runner is clean. -/
theorem clearsUp_of_idle (isScripted : grader.pool = scripted.toPool)
    (idle : world.log.live = 0) (submission : Submission) (cancellation : Option Nat) :
    grader.ClearsUp scripted submission cancellation world where
  clears _ _ _ _ _ opens steps suspended clears :=
    opens.clears isScripted idle steps suspended clears
  abandons unused _ _ ready givenUp storeFails lossless :=
    exists_clear_of_scoreUntil isScripted unused ready givenUp storeFails lossless

/-- Two suites that hang, given up after seven seconds, while the second one is tested. -/
theorem clearsUp_suites :
    World.start.log.live = 0 ∧ suiteGrader.ClearsUp hangingSuites suites none .start ∧
      ∃ later, suiteGrader.scoreUntil suites none 7000000000 .start = (none, later) ∧
        later.log.started.length = 2 ∧ later.log.testruns.length = 1 ∧
        later.log.releases = [ScriptedPool.runnerId] := by
  have clearsUp : suiteGrader.ClearsUp hangingSuites suites none .start :=
    clearsUp_of_idle rfl rfl suites none
  have run : let abandoned := suiteGrader.scoreUntil suites none 7000000000 .start
      abandoned.1.isNone ∧ abandoned.2.log.started.length = 2 ∧
        abandoned.2.log.testruns.length = 1 := by
    decide +kernel
  rcases givenUp : suiteGrader.scoreUntil suites none 7000000000 .start with ⟨_ | result, later⟩
  · rw [givenUp] at run
    refine ⟨rfl, clearsUp, later, rfl, run.2.1, run.2.2, ?_⟩
    rcases clearsUp.abandons rfl 7000000000 later (by decide) givenUp false (fun _ _ => rfl) with
      ⟨work, opening, lineup, clear, -, givesUp, cleared⟩
    have clears := clearsUp.clears work opening _ lineup clear givesUp.opens
      givesUp.reaches.steps givesUp.suspended givesUp.clears
    rw [← cleared]
    exact (clears.released givesUp.isClear.2).1
  · rw [givenUp] at run
    cases run.1

end Grader

end Grading
