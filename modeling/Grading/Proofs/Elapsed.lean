import Grading.Proofs.Completion
import Grading.Proofs.Timing

namespace Grading

/-! The time that is reported for a command, against the time that passes until its result is there.
Listening has a clock of its own that starts when there is a stream, so the time before that is
missing. Where there never is a stream, the time is counted from the start. -/

namespace Job

/-- The time that a job may take: its deadline, if a clock can show it. -/
def timeLimit (job : Job) : Duration :=
  if job.deadline.seconds < Nat.pow 2 63 then job.deadline else farFuture

theorem deadline_limits (job : Job) (started : Nat) :
    (job.limits started).deadline = started + job.timeLimit.nanoseconds := rfl

/-- The pool has a stream for the job after a while, before any of its limits is reached. -/
structure AttachesAfter (job : Job) (answer : Answer (Except RunnerError EventStream))
    (started pause : Nat) : Prop where
  replies : ∃ stream, answer.reply = some (pause, .ok stream)
  inTime : pause < job.timeLimit.nanoseconds
  uncancelled : ∀ cancelled, job.cancellation = some cancelled → started + pause < cancelled

variable {job : Job} {answer : Answer (Except RunnerError EventStream)} {started pause : Nat}

theorem AttachesAfter.early (attaches : job.AttachesAfter answer started pause) :
    ∀ failure limit, (job.limits started).limitOf? failure = some limit →
      started + pause < limit := by
  rintro (_ | _ | _) limit isLimit
  · obtain rfl := Option.some.inj isLimit
    exact Nat.add_lt_add_left attaches.inTime started
  · exact attaches.uncancelled limit isLimit
  · cases isLimit

/-- How the time that is reported for a job relates to when it started and when it ended. -/
structure Reports (job : Job) (answer : Answer (Except RunnerError EventStream))
    (started ended : Nat) (finish : Finish) : Prop where
  /-- The time until there was a stream is missing. -/
  attached : ∀ pause, job.AttachesAfter answer started pause →
    ended = started + pause + finish.outcome.duration.nanoseconds
  unattached : (∀ pause, ¬job.AttachesAfter answer started pause) →
    ended = started + finish.outcome.duration.nanoseconds
  /-- A job that nobody is told of runs out of time when its limit is reached. -/
  timedOut : job.receiver = none → ∀ error, finish.result = .error error →
    error.failure = .timeout → ended = started + job.timeLimit.nanoseconds

theorem attachesAfter_of_uncut {stream : EventStream}
    (replies : answer.reply = some (pause, .ok stream))
    (uncut : (job.limits started).cutoff? started (some (started + pause)) = none) :
    job.AttachesAfter answer started pause := by
  obtain ⟨happens, isDue, early⟩ := Limits.exists_due_of_cutoff?_eq_none uncut
  obtain rfl := Option.some.inj isDue
  refine ⟨⟨stream, replies⟩, ?_, fun cancelled isCancelled => ?_⟩
  · have inTime := early .timeout _ rfl
    rw [deadline_limits] at inTime
    omega
  · have inTime := early .cancelled cancelled isCancelled
    omega

/-- A job whose limits are reached when it is started takes no time. -/
theorem reports_of_reached {failure : ExecutionFailure}
    (reached : (job.limits started).reached? started = some failure) (channel : Option Channel) :
    job.Reports answer started started
      ⟨started, .error ⟨failure, .empty, .zero⟩, [], channel⟩ := by
  obtain ⟨⟨instant, cause⟩, cut, rfl⟩ := Option.map_eq_some_iff.mp reached
  have cuts := Limits.cuts_of_cutoff? cut
  obtain ⟨limit, isLimit, isInstant⟩ := cuts.isLimit
  have past := cuts.le_due started rfl
  refine ⟨fun pause attaches => ?_, fun _ => rfl, ?_⟩
  · have early := attaches.early cause limit isLimit
    omega
  · rintro - error isError isTimeout
    cases isError
    cases (isTimeout : cause = .timeout)
    have isDeadline := (deadline_limits job started).symm.trans (Option.some.inj isLimit)
    omega

theorem reports_of_cut {instant : Nat} {failure : ExecutionFailure} {channel : Option Channel}
    (cut : (job.limits started).cutoff? started (answer.reply.map fun (pause, _) =>
      started + pause) = some (instant, failure)) :
    started ≤ instant ∧ job.Reports answer started instant
      ⟨instant, .error ⟨failure, .empty, ⟨instant - started⟩⟩, [], channel⟩ := by
  have cuts := Limits.cuts_of_cutoff? cut
  obtain ⟨limit, isLimit, isInstant⟩ := cuts.isLimit
  have passed : started ≤ instant := isInstant ▸ Nat.le_max_left started limit
  refine ⟨passed, fun pause attaches => ?_, fun _ => (Nat.add_sub_of_le passed).symm, ?_⟩
  · obtain ⟨stream, replied⟩ := attaches.replies
    have early := attaches.early failure limit isLimit
    have late := cuts.le_due (started + pause) (by rw [replied]; rfl)
    omega
  · rintro - error isError isTimeout
    cases isError
    cases (isTimeout : failure = .timeout)
    obtain rfl := Option.some.inj isLimit
    rw [deadline_limits, Nat.max_eq_right (Nat.le_add_right _ _)] at isInstant
    exact isInstant

theorem reports_of_refused {source : RunnerError} {channel : Option Channel}
    (replied : answer.reply = some (pause, .error source)) :
    job.Reports answer started (started + pause)
      ⟨started + pause, .error ⟨.runner source, .empty, ⟨pause⟩⟩, [], channel⟩ := by
  refine ⟨fun other attaches => ?_, fun _ => rfl, ?_⟩
  · obtain ⟨stream, alsoReplied⟩ := attaches.replies
    cases replied.symm.trans alsoReplied
  · rintro - error isError isTimeout
    cases isError
    cases isTimeout

theorem reports_of_listen {stream : EventStream} {channel : Option Channel} {finish : Finish}
    (unreceived : job.receiver = none → channel = none)
    (replied : answer.reply = some (pause, .ok stream))
    (uncut : (job.limits started).cutoff? started (some (started + pause)) = none)
    (ends : Connection.wait ⟨stream, channel⟩ (started + pause) (job.limits started) =
      some finish) :
    started ≤ finish.instant ∧ job.Reports answer started finish.instant finish := by
  have attaches := attachesAfter_of_uncut replied uncut
  have listens := Connection.listens_of_listen ends
  have later := listens.now_le
  have ended : finish.instant = started + pause + finish.outcome.duration.nanoseconds := by
    rw [listens.duration]
    exact (Nat.add_sub_of_le later).symm
  refine ⟨by omega, fun other alsoAttaches => ?_, fun never => absurd attaches (never pause), ?_⟩
  · obtain ⟨other, alsoReplied⟩ := alsoAttaches.replies
    cases replied.symm.trans alsoReplied
    exact ended
  · intro unheard error isError isTimeout
    have keeps := listens.keepsTo (unreceived unheard)
    rcases keeps.reported error isError with ⟨source, isSource⟩ | ⟨limit, isLimit, reached⟩
    · cases isTimeout.symm.trans isSource
    · rw [isTimeout] at isLimit
      obtain rfl := Option.some.inj isLimit
      have inTime := attaches.inTime
      rw [deadline_limits] at reached
      omega

theorem reports_of_conclusion? {channel : Option Channel} {finish : Finish}
    (unreceived : job.receiver = none → channel = none)
    (concluded : (Course.attaching (job.limits started) channel
      (Course.decide (job.limits started) started answer.reply)).conclusion? = some finish) :
    started ≤ finish.instant ∧ job.Reports answer started finish.instant finish := by
  obtain ⟨⟨instant, decided⟩, decision, ends⟩ := Option.bind_eq_some_iff.mp concluded
  rcases Course.cases_of_decide decision with
    ⟨failure, cut, rfl⟩ | ⟨pause, source | stream, replied, uncut, rfl, rfl⟩
  · cases ends
    exact reports_of_cut cut
  · cases ends
    exact ⟨Nat.le_add_right _ _, reports_of_refused replied⟩
  · exact reports_of_listen unreceived replied uncut ends

end Job

/-! ## Commands -/

namespace Course

variable {course : Course} {finish : Finish} {world later : World}

theorem conclusion?_of_advance {next : Course}
    (advanced : course.advance.perform world = (some next, later)) :
    next.conclusion? = course.conclusion? := by
  cases isLive : course.isLive with
  | true =>
      obtain ⟨turn, turns, rfl, -⟩ := exists_turn_of_advance isLive advanced
      exact conclusion?_of_next? turns
  | false =>
      cases course with
      | closed last =>
          cases advanced
          rfl
      | attaching | listening => cases isLive

theorem conclusion?_of_conclude (ended : course.conclude.perform world = (some finish, later)) :
    course.conclusion? = some finish := by
  obtain ⟨middle, between, first, second⟩ := exists_of_conclude ended
  rw [← conclusion?_of_advance first, ← conclusion?_of_advance second]
  rfl

/-- A command that is attached is over when its finish says so. -/
theorem now_of_conclude {limits : Limits} {channel : Option Channel}
    {decision : Option (Nat × Except ExecutionError EventStream)}
    (ended : (attaching limits channel decision).conclude.perform world = (some finish, later)) :
    later.now = max world.now finish.instant := by
  obtain ⟨middle, between, first, second⟩ := exists_of_conclude ended
  obtain ⟨turn, next, rfl, rfl⟩ := exists_turn_of_advance rfl first
  obtain ⟨⟨instant, error | stream⟩, -, rfl⟩ := Option.map_eq_some_iff.mp next
  · cases second
    exact Turn.now_after _ world
  · obtain ⟨last, following, isClosed, rfl⟩ := exists_turn_of_advance rfl second
    obtain ⟨finish, waited, rfl⟩ := Option.map_eq_some_iff.mp following
    cases isClosed
    have later := (Connection.listens_of_listen waited).now_le
    rw [Turn.now_after, Turn.now_after, Nat.max_assoc, Nat.max_eq_right later]

end Course

namespace Runner

variable {pool : Pool} {runner : Runner} {job : Job} {world later : World} {executed : Executed}

/-- The answer to the request of a runner that was just moved to the executing state. -/
def answerOf (pool : Pool) (runner : Runner) (command : String) (world : World) :
    Answer (Except RunnerError EventStream) :=
  pool.attach (world.noting (.move .executing)).log { runner with state := .executing } command

theorem reports_of_execute (movable : runner.state.canMove .executing)
    (ended : (execute pool runner job).perform world = (some executed, later)) :
    job.Reports (answerOf pool runner job.command world) world.now later.now executed.toFinish := by
  have moved : runner.move .executing = .ok { runner with state := .executing } := if_pos movable
  rw [execute] at ended
  rcases Activity.exists_of_perform_bind ended with
    ⟨finish | ⟨executing, course⟩, between, started, ended⟩
  · rcases eq_of_start_error started with ⟨-, source, notMoved, -⟩
    cases moved.symm.trans notMoved
  · rcases Activity.exists_of_perform_bind ended with ⟨finish, settling, concluded, ended⟩
    cases ended
    rcases cases_of_start started with
      ⟨isMoved, ⟨failure, reached, rfl, rfl⟩ | ⟨-, rfl, rfl⟩⟩
    · cases concluded
      exact Job.reports_of_reached reached _
    · cases moved.symm.trans isMoved
      have isLater := Course.now_of_conclude concluded
      obtain ⟨passed, reports⟩ := Job.reports_of_conclusion? (by
        intro unreceived
        rw [unreceived]
        rfl) (Course.conclusion?_of_conclude concluded)
      rw [World.now_noting, isLater]
      change job.Reports _ world.now (max world.now finish.instant) finish
      rw [Nat.max_eq_right passed]
      exact reports

end Runner

/-! ## Pools -/

theorem Job.timeLimit_lt (job : Job) :
    job.timeLimit.nanoseconds < Nat.pow 2 63 * 1000000000 := by
  rw [timeLimit]
  split
  · rename_i shown
    exact Nat.lt_mul_of_div_lt shown (by decide)
  · decide

namespace Pool

/-- No stream is there later than it is asked for, unless it is too late for all deadlines. -/
def AttachesAtOnce (pool : Pool) : Prop :=
  ∀ runner command world pause stream,
    (Runner.answerOf pool runner command world).reply = some (pause, .ok stream) →
      pause + 1 < Nat.pow 2 63 * 1000000000 → pause = 0

/-- How the times that are reported for commands relate to those that pass. -/
structure ReportsFromStream (pool : Pool) : Prop where
  returns : ∀ (runner : Runner) (job : Job) (world : World), job.receiver = none →
    ∃ executed later, (runner.execute pool job).perform world = (some executed, later)
  reports : ∀ (runner : Runner) (job : Job) (world : World) (executed : Executed) (later : World),
    runner.state.canMove .executing →
    (runner.execute pool job).perform world = (some executed, later) →
    job.Reports (runner.answerOf pool job.command world) world.now later.now executed.toFinish
  /-- It is the time that passes for all commands just if the pool attaches them at once. -/
  exact_iff : (∀ (runner : Runner) (job : Job) (world : World) (executed : Executed)
      (later : World), runner.state.canMove .executing →
      (runner.execute pool job).perform world = (some executed, later) →
      later.now = world.now + executed.outcome.duration.nanoseconds) ↔ pool.AttachesAtOnce

theorem reportsFromStream (pool : Pool) : pool.ReportsFromStream where
  returns runner _ world unreceived := runner.exists_perform_execute pool unreceived world
  reports _ _ _ _ _ := Runner.reports_of_execute
  exact_iff := by
    constructor
    · intro exact runner command world pause stream replies bounded
      let job : Job := ⟨command, ⟨pause + 1⟩, none, none⟩
      let ready : Runner := { runner with state := .ready }
      have isLimit : job.timeLimit = ⟨pause + 1⟩ := if_pos (Nat.div_lt_of_lt_mul (by
        rwa [Nat.mul_comm] at bounded))
      have attaches : job.AttachesAfter (ready.answerOf pool command world) world.now pause :=
        ⟨⟨stream, replies⟩, by rw [isLimit]; exact Nat.lt_succ_self pause, nofun⟩
      obtain ⟨executed, later, executes⟩ :=
        ready.exists_perform_execute pool (rfl : job.receiver = none) world
      have missing := (Runner.reports_of_execute rfl executes).attached pause attaches
      have whole := exact ready job world executed later rfl executes
      omega
    · intro atOnce runner job world executed later movable executes
      have reports := Runner.reports_of_execute movable executes
      by_cases attached : ∃ pause, job.AttachesAfter
          (runner.answerOf pool job.command world) world.now pause
      · obtain ⟨pause, attaches⟩ := attached
        obtain ⟨stream, replies⟩ := attaches.replies
        have bounded := Nat.lt_of_le_of_lt (Nat.succ_le_of_lt attaches.inTime) job.timeLimit_lt
        have ended := reports.attached pause attaches
        rwa [atOnce runner job.command world pause stream replies bounded] at ended
      · exact reports.unattached (not_exists.mp attached)

end Pool

namespace Runner

/-- A pool that has a stream after three seconds, and the stream hangs. -/
def lingering : Pool where
  acquire _ _ _ _ := .never
  attach _ _ _ := .after 3000000000 (.ok ⟨[], .hangs⟩)
  release _ _ := .now (.ok ())

/-- Of the five seconds that the command had, two are reported. -/
theorem execute_lingering :
    let runner : Runner := ⟨"runner-1", "learner", 1, .ready⟩
    let executed := (runner.execute lingering ⟨"run", .ofSeconds 5, none, none⟩).perform .start
    executed.1.map (fun executed => executed.outcome) =
        some ⟨.timeout, none, .empty, .ofSeconds 2⟩ ∧
      executed.2.now = (Duration.ofSeconds 5).nanoseconds := by
  decide +kernel

end Runner

/-- A year stands in for a deadline that no clock can show. -/
example : Job.timeLimit ⟨"run", .ofSeconds 18446744073709551615, none, none⟩ =
    .ofSeconds 31536000 := by
  decide

end Grading
