import Grading.Connection
import Grading.Pool.Basic

namespace Grading

/-! Using a runner: commands one after the other, and giving it back. -/

structure Job where
  command : String
  deadline : Duration
  /-- The instant at which it is cancelled. -/
  cancellation : Option Nat
  /-- Who is told of its events. -/
  receiver : Option Receiver

namespace Job

/-- Stands in for times that no clock can show. -/
def farFuture : Duration := .ofSeconds (365 * 24 * 60 * 60)

def limits (job : Job) (started : Nat) : Limits :=
  let time := if job.deadline.seconds < Nat.pow 2 63 then job.deadline else farFuture
  ⟨started + time.nanoseconds, job.cancellation⟩

end Job

/-! ## Commands under way -/

/-- A command that a pool was asked to run. -/
inductive Course
  /-- The pool starts it. At an instant, if ever, it is decided whether there is a stream. -/
  | attaching (limits : Limits) (channel : Option Channel)
      (decision : Option (Nat × Except ExecutionError EventStream))
  /-- Its stream is listened to until a finish, if ever. -/
  | listening (finish : Option Finish)
  | closed (finish : Finish)

structure Turn where
  instant : Nat
  act : Option Act
  course : Course

namespace Turn

def after (turn : Turn) (world : World) : World :=
  let reached : World := { world with now := max world.now turn.instant }
  turn.act.elim reached reached.noting

@[simp] theorem now_after (turn : Turn) (world : World) :
    (turn.after world).now = max world.now turn.instant := by
  obtain ⟨instant, act, course⟩ := turn
  cases act <;> rfl

end Turn

namespace Course

/-- Whether the pool still starts the command, or its stream is listened to. -/
def isLive : Course → Bool
  | attaching .. | listening _ => true
  | closed _ => false

def failed (instant : Nat) (error : ExecutionError) (channel : Option Channel) : Course :=
  .closed ⟨instant, .error error, [], channel⟩

def failureAct : ExecutionFailure → Act
  | .runner error => .refuse error
  | _ => .detach

/-- What is decided about a command, from the pool's reply to the request at `started`. A limit that
is reached first ends the request. -/
def decide (limits : Limits) (started : Nat)
    (reply : Option (Nat × Except RunnerError EventStream)) :
    Option (Nat × Except ExecutionError EventStream) :=
  match limits.cutoff? started (reply.map fun (pause, _) => started + pause) with
  | some (instant, failure) => some (instant, .error ⟨failure, .empty, ⟨instant - started⟩⟩)
  | none => reply.map fun (pause, answer) =>
      (started + pause, answer.mapError fun source => ⟨.runner source, .empty, ⟨pause⟩⟩)

def next? : Course → Option Turn
  | attaching limits channel decision => decision.map fun (instant, answer) =>
      match answer with
      | .error error => ⟨instant, some (failureAct error.failure), failed instant error channel⟩
      | .ok stream =>
          ⟨instant, none, .listening ((Connection.mk stream channel).wait instant limits)⟩
  | listening finish => finish.map fun finish => ⟨finish.instant, some .detach, .closed finish⟩
  | closed _ => none

theorem isLive_of_next? {course : Course} {turn : Turn} (next : course.next? = some turn) :
    course.isLive := by
  cases course with
  | attaching | listening => rfl
  | closed finish => cases next

/-- A turn either starts the listening or notes the end of a command. -/
theorem act_of_next? {course : Course} {turn : Turn} (next : course.next? = some turn) :
    (turn.act = none ∧ turn.course.isLive = true) ∨
      ∃ act, turn.act = some act ∧ (∀ live, Log.liveAfter live act = live - 1) ∧
        turn.course.isLive = false := by
  cases course with
  | closed finish => cases next
  | listening finish =>
      rcases Option.map_eq_some_iff.mp next with ⟨finish, -, rfl⟩
      exact .inr ⟨.detach, rfl, fun _ => rfl, rfl⟩
  | attaching limits channel decision =>
      rcases Option.map_eq_some_iff.mp next with ⟨⟨instant, error | stream⟩, -, rfl⟩
      · refine .inr ⟨_, rfl, ?_, rfl⟩
        cases error.failure <;> exact fun _ => rfl
      · exact .inl ⟨rfl, rfl⟩

/-- The turn after the start of the listening is its end. -/
theorem act_of_next?_next? {course : Course} {turn following : Turn}
    (next : course.next? = some turn) (later : turn.course.next? = some following) :
    following.act = some .detach := by
  cases course with
  | closed finish => cases next
  | listening finish =>
      rcases Option.map_eq_some_iff.mp next with ⟨finish, -, rfl⟩
      cases later
  | attaching limits channel decision =>
      rcases Option.map_eq_some_iff.mp next with ⟨⟨instant, error | stream⟩, -, rfl⟩
      · cases later
      · rcases Option.map_eq_some_iff.mp later with ⟨finish, -, rfl⟩
        rfl

def advance (course : Course) : Activity Course := do
  match course, course.next? with
  | .closed finish, _ => return .closed finish
  | _, none => Activity.never
  | _, some turn =>
      Activity.waitUntil turn.instant
      if let some act := turn.act then Activity.note act
      return turn.course

theorem perform_advance {course : Course} {turn : Turn} (next : course.next? = some turn)
    (world : World) : course.advance.perform world = (some turn.course, turn.after world) := by
  obtain ⟨instant, act, later⟩ := turn
  cases course with
  | closed finish => cases next
  | attaching limits channel decision =>
      simp only [advance, next]
      cases act <;> rfl
  | listening finish =>
      simp only [advance, next]
      cases act <;> rfl

theorem perform_advance_of_never {course : Course} (isLive : course.isLive)
    (never : course.next? = none) (world : World) :
    course.advance.perform world = (none, world) := by
  cases course with
  | closed finish => cases isLive
  | attaching limits channel decision => simp only [advance, never, Activity.perform_never]
  | listening finish => simp only [advance, never, Activity.perform_never]

theorem exists_turn_of_advance {course next : Course} {world later : World}
    (isLive : course.isLive) (advanced : course.advance.perform world = (some next, later)) :
    ∃ turn, course.next? = some turn ∧ next = turn.course ∧ later = turn.after world := by
  cases turn : course.next? with
  | none =>
      rw [perform_advance_of_never isLive turn] at advanced
      cases advanced
  | some turn =>
      rw [perform_advance turn] at advanced
      cases advanced
      exact ⟨_, rfl, rfl, rfl⟩

def finished : Course → Activity Finish
  | closed finish => return finish
  | _ => Activity.never

/-- Sees a command through to its end, in at most two turns: it is attached and listened to. -/
def conclude (course : Course) : Activity Finish := do
  let course ← course.advance
  let course ← course.advance
  course.finished

/-- How a command will have gone, if it ever ends. -/
def conclusion? : Course → Option Finish
  | attaching limits channel decision => decision.bind fun (instant, answer) =>
      match answer with
      | .error error => some ⟨instant, .error error, [], channel⟩
      | .ok stream => (Connection.mk stream channel).wait instant limits
  | listening finish => finish
  | closed finish => some finish

/-- A turn does not change how a command will have gone. -/
theorem conclusion?_of_next? {course : Course} {turn : Turn} (next : course.next? = some turn) :
    turn.course.conclusion? = course.conclusion? := by
  cases course with
  | closed finish => cases next
  | listening finish =>
      rcases Option.map_eq_some_iff.mp next with ⟨finish, rfl, rfl⟩
      rfl
  | attaching limits channel decision =>
      rcases Option.map_eq_some_iff.mp next with ⟨⟨instant, error | stream⟩, rfl, rfl⟩
      · rfl
      · rfl

theorem exists_next?_of_conclusion? {course : Course} {finish : Finish} (isLive : course.isLive)
    (concluded : course.conclusion? = some finish) : ∃ turn, course.next? = some turn := by
  cases course with
  | closed finish => cases isLive
  | listening last =>
      cases (concluded : last = some finish)
      exact ⟨_, rfl⟩
  | attaching limits channel decision =>
      rcases Option.bind_eq_some_iff.mp concluded with ⟨decided, rfl, -⟩
      exact ⟨_, rfl⟩

theorem exists_perform_conclude {course : Course} {finish : Finish}
    (concluded : course.conclusion? = some finish) (world : World) :
    ∃ later, course.conclude.perform world = (some finish, later) := by
  have ended : ∀ finish world, (advance (closed finish) >>= finished).perform world =
      (some finish, world) := fun _ _ => rfl
  have listened : ∀ finish world, ∃ later,
      (advance (listening (some finish)) >>= finished).perform world = (some finish, later) := by
    intro finish world
    rw [Activity.perform_bind_of_some (perform_advance rfl world)]
    exact ⟨_, rfl⟩
  cases course with
  | closed last =>
      cases concluded
      exact ⟨world, rfl⟩
  | listening last =>
      cases (concluded : last = some finish)
      rw [conclude, Activity.perform_bind_of_some (perform_advance rfl world)]
      exact ⟨_, ended finish _⟩
  | attaching limits channel decision =>
      rcases Option.bind_eq_some_iff.mp concluded with ⟨⟨instant, error | stream⟩, rfl, waited⟩
      · cases waited
        rw [conclude, Activity.perform_bind_of_some (perform_advance rfl world)]
        exact ⟨_, ended _ _⟩
      · rw [conclude, Activity.perform_bind_of_some (perform_advance rfl world)]
        simp only [waited]
        exact listened finish _

/-- A command that was seen through was advanced twice, and then it was over. -/
theorem exists_of_conclude {course : Course} {finish : Finish} {world later : World}
    (ended : course.conclude.perform world = (some finish, later)) :
    ∃ middle between, course.advance.perform world = (some middle, between) ∧
      middle.advance.perform between = (some (.closed finish), later) := by
  rcases Activity.exists_of_perform_bind ended with ⟨middle, between, first, ended⟩
  rcases Activity.exists_of_perform_bind ended with ⟨last, after, second, ended⟩
  cases last with
  | closed last =>
      cases ended
      exact ⟨middle, between, first, second⟩
  | attaching limits channel decision => cases ended
  | listening last => cases ended

end Course

/-! ## Runners -/

structure Executed extends Finish where
  runner : Runner

namespace Runner

def stateAfter : ExecutionResult → RunnerState
  | .ok _ => .completed
  | .error error =>
      match error.failure with
      | .timeout => .timedOut
      | .runner (.depleted _) => .depleted
      | _ => .failed

/-- Asks the pool to start a command. A command whose limits are reached already is not started. -/
def call (pool : Pool) (runner : Runner) (command : String) (limits : Limits)
    (channel : Option Channel) : Activity Course := do
  let started ← Activity.now
  if let some failure := limits.reached? started then
    return .failed started ⟨failure, .empty, .zero⟩ channel
  else
    let history ← Activity.history
    Activity.note (.attach command)
    let answer := pool.attach history runner command
    answer.noteCalls
    return .attaching limits channel (Course.decide limits started answer.reply)

theorem perform_call_of_reached (pool : Pool) (runner : Runner) (command : String)
    (limits : Limits) (channel : Option Channel) {world : World} {failure : ExecutionFailure}
    (reached : limits.reached? world.now = some failure) :
    (call pool runner command limits channel).perform world =
      (some (.failed world.now ⟨failure, .empty, .zero⟩ channel), world) := by
  rw [call, Activity.perform_bind_of_some (Activity.perform_now world)]
  simp only [reached, Activity.perform_pure]

theorem perform_call (pool : Pool) (runner : Runner) (command : String) (limits : Limits)
    (channel : Option Channel) {world : World} (unreached : limits.reached? world.now = none) :
    (call pool runner command limits channel).perform world =
      let answer := pool.attach world.log runner command
      (some (.attaching limits channel (Course.decide limits world.now answer.reply)),
        { world with
          log := (world.noting (.attach command)).log ++ answer.callEntries world.now }) := by
  rw [call, Activity.perform_bind_of_some (Activity.perform_now world)]
  simp only [unreached]
  rw [Activity.perform_bind_of_some (Activity.perform_history world),
    Activity.perform_bind_of_some (Activity.perform_note _ world),
    Activity.perform_bind_of_some (Answer.perform_noteCalls _ _)]
  rfl

/-- Starts a job: the executing runner and the command that is under way. A runner that cannot move
to the executing state does nothing. -/
def start (pool : Pool) (runner : Runner) (job : Job) :
    Activity (Except Finish (Runner × Course)) := do
  let started ← Activity.now
  let channel := job.receiver.map (Channel.new · started)
  match runner.move .executing with
  | .error source =>
      return .error ⟨started, .error ⟨.runner source, .empty, .zero⟩, [], channel⟩
  | .ok runner =>
      Activity.note (.move .executing)
      return .ok (runner, ← call pool runner job.command (job.limits started) channel)

theorem perform_start_of_refused (pool : Pool) {runner : Runner} (job : Job) (world : World)
    {source : RunnerError} (refused : runner.move .executing = .error source) :
    (start pool runner job).perform world =
      (some (.error ⟨world.now, .error ⟨.runner source, .empty, .zero⟩, [],
        job.receiver.map (Channel.new · world.now)⟩), world) := by
  rw [start, Activity.perform_bind_of_some (Activity.perform_now world)]
  simp only [refused, Activity.perform_pure]

theorem exists_perform_call (pool : Pool) (runner : Runner) (command : String) (limits : Limits)
    (channel : Option Channel) (world : World) :
    ∃ course later, (call pool runner command limits channel).perform world =
      (some course, later) := by
  cases reached : limits.reached? world.now with
  | none => exact ⟨_, _, perform_call pool runner command limits channel reached⟩
  | some failure => exact ⟨_, _, perform_call_of_reached pool runner command limits channel reached⟩

theorem perform_start (pool : Pool) {runner executing : Runner} (job : Job) {world later : World}
    {course : Course} (moved : runner.move .executing = .ok executing)
    (called : (call pool executing job.command (job.limits world.now)
      (job.receiver.map (Channel.new · world.now))).perform (world.noting (.move .executing)) =
        (some course, later)) :
    (start pool runner job).perform world = (some (.ok (executing, course)), later) := by
  rw [start, Activity.perform_bind_of_some (Activity.perform_now world)]
  simp only [moved]
  rw [Activity.perform_bind_of_some (Activity.perform_note _ world),
    Activity.perform_bind_of_some called, Activity.perform_pure]

theorem exists_perform_start (pool : Pool) (runner : Runner) (job : Job) (world : World) :
    ∃ result later, (start pool runner job).perform world = (some result, later) := by
  cases moved : runner.move .executing with
  | error source => exact ⟨_, _, perform_start_of_refused pool job world moved⟩
  | ok executing =>
      rcases exists_perform_call pool executing job.command (job.limits world.now)
        (job.receiver.map (Channel.new · world.now)) (world.noting (.move .executing)) with
        ⟨course, later, called⟩
      exact ⟨_, _, perform_start pool job moved called⟩

/-- A job that was started moved the runner. Then its limits were reached already, or it asked the
pool for its command. -/
theorem cases_of_start {pool : Pool} {runner executing : Runner} {job : Job}
    {world later : World} {course : Course}
    (started : (start pool runner job).perform world = (some (.ok (executing, course)), later)) :
    runner.move .executing = .ok executing ∧
      let moved := world.noting (.move .executing)
      let channel := job.receiver.map (Channel.new · world.now)
      let answer := pool.attach moved.log executing job.command
      (∃ failure, (job.limits world.now).reached? world.now = some failure ∧
        course = .failed world.now ⟨failure, .empty, .zero⟩ channel ∧ later = moved) ∨
      ((job.limits world.now).reached? world.now = none ∧
        course = .attaching (job.limits world.now) channel
          (Course.decide (job.limits world.now) world.now answer.reply) ∧
        later = { moved with
          log := (moved.noting (.attach job.command)).log ++ answer.callEntries world.now }) := by
  cases moved : runner.move .executing with
  | error source =>
      rw [perform_start_of_refused pool job world moved] at started
      cases started
  | ok runner =>
      cases reached : (job.limits world.now).reached? world.now with
      | some failure =>
          have reachedThen : (job.limits world.now).reached?
              (world.noting (.move .executing)).now = some failure := reached
          have called := perform_call_of_reached pool runner job.command (job.limits world.now)
            (job.receiver.map (Channel.new · world.now)) reachedThen
          rw [perform_start pool job moved called] at started
          cases started
          exact ⟨rfl, .inl ⟨failure, rfl, rfl, rfl⟩⟩
      | none =>
          have unreached : (job.limits world.now).reached?
              (world.noting (.move .executing)).now = none := reached
          have called := perform_call pool runner job.command (job.limits world.now)
            (job.receiver.map (Channel.new · world.now)) unreached
          rw [perform_start pool job moved called] at started
          cases started
          exact ⟨rfl, .inr ⟨rfl, rfl, rfl⟩⟩

/-- Starting a job takes no time. -/
theorem now_of_start {pool : Pool} {runner executing : Runner} {job : Job} {world later : World}
    {course : Course}
    (started : (start pool runner job).perform world = (some (.ok (executing, course)), later)) :
    later.now = world.now := by
  rcases cases_of_start started with ⟨-, ⟨failure, -, -, rfl⟩ | ⟨-, -, rfl⟩⟩ <;> rfl

/-- A job that was refused left everything as it was. -/
theorem eq_of_start_error {pool : Pool} {runner : Runner} {job : Job} {world later : World}
    {finish : Finish}
    (refused : (start pool runner job).perform world = (some (.error finish), later)) :
    later = world ∧ ∃ source, runner.move .executing = .error source ∧
      finish.result = .error ⟨.runner source, .empty, .zero⟩ ∧ finish.heard = [] := by
  cases moved : runner.move .executing with
  | error source =>
      rw [perform_start_of_refused pool job world moved] at refused
      cases refused
      exact ⟨rfl, source, rfl, rfl, rfl⟩
  | ok runner =>
      rcases exists_perform_call pool runner job.command (job.limits world.now)
        (job.receiver.map (Channel.new · world.now)) (world.noting (.move .executing)) with
        ⟨course, middle, called⟩
      rw [perform_start pool job moved called] at refused
      cases refused

/-- A job that is started in this world ends with this finish, unless it is aborted. -/
inductive Ends (pool : Pool) (runner : Runner) (job : Job) (world : World) (finish : Finish) : Prop
  | refused (later : World)
      (refused : (start pool runner job).perform world = (some (.error finish), later)) :
      Ends pool runner job world finish
  | concluded (executing : Runner) (course : Course) (later : World)
      (started : (start pool runner job).perform world =
        (some (.ok (executing, course)), later))
      (concluded : course.conclusion? = some finish) : Ends pool runner job world finish

def settle (runner : Runner) (result : ExecutionResult) : Activity Runner := do
  let runner := runner.moveOrStay (stateAfter result)
  Activity.note (.move runner.state)
  return runner

@[simp] theorem perform_settle (runner : Runner) (result : ExecutionResult) (world : World) :
    (settle runner result).perform world =
      let settled := runner.moveOrStay (stateAfter result)
      (some settled, world.noting (.move settled.state)) := rfl

def execute (pool : Pool) (runner : Runner) (job : Job) : Activity Executed := do
  match ← start pool runner job with
  | .error finish => return { finish with runner }
  | .ok (runner, course) =>
      let finish ← course.conclude
      return { finish with runner := ← settle runner finish.result }

def executeAll (pool : Pool) (runner : Runner) : List Job →
    Activity (Runner × List ExecutionResult)
  | [] => return (runner, [])
  | job :: rest => do
      let executed ← execute pool runner job
      let (runner, results) ← executeAll pool executed.runner rest
      return (runner, executed.result :: results)

/-- Gives a runner back, unless that was done before. It counts as given back even if the pool
fails to take it. -/
def release (pool : Pool) (runner : Runner) : Activity Runner := do
  if runner.state = .released then return runner
  else
    let _ ← pool.releaseRunner runner
    let runner := runner.moveOrStay .released
    Activity.note (.move runner.state)
    return runner

theorem perform_release_of_released (pool : Pool) {runner : Runner} (world : World)
    (isReleased : runner.state = .released) :
    (release pool runner).perform world = (some runner, world) := by
  rw [release, if_pos isReleased, Activity.perform_pure]

/-- A runner that was not given back before moves on when the pool has taken it. -/
theorem exists_of_release {pool : Pool} {runner released : Runner} {world later : World}
    (notReleased : runner.state ≠ .released)
    (ended : (release pool runner).perform world = (some released, later)) :
    released = runner.moveOrStay .released ∧
      ∃ pause, later = ⟨world.now + pause, world.log ++ (⟨world.now, .release runner.id⟩ ::
        (pool.release world.log runner).callEntries world.now ++
          [⟨world.now + pause, .move released.state⟩])⟩ := by
  rw [release, if_neg notReleased] at ended
  rcases Activity.exists_of_perform_bind ended with ⟨reply, middle, taken, ended⟩
  rcases Pool.exists_of_releaseRunner taken with ⟨pause, rfl⟩
  cases ended
  refine ⟨rfl, pause, ?_⟩
  simp [World.noting]

end Runner

end Grading
