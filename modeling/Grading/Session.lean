import Grading.Lease
import Mathlib.Logic.Relation

namespace Grading

/-! Sharing a runner. One client at a time has the lease, and only it can execute commands. It drops
the lease when it is done, and loses it when it is aborted. Between two steps of a client the others
can make theirs. -/

/-- What a client has of a shared runner. -/
inductive Stage
  | away
  /-- The lease, and how its last command went if there was one. -/
  | leased (last : Option Finish)
  /-- The lease, and a command under way. -/
  | busy (course : Course)

namespace Stage

def isBusy : Stage → Bool
  | busy _ => true
  | _ => false

/-- Whether a command of the client is being attached or listened to. -/
def isLive : Stage → Bool
  | busy course => course.isLive
  | _ => false

theorem isBusy_of_isLive {stage : Stage} (isLive : stage.isLive) : stage.isBusy := by
  cases stage with
  | busy course => rfl
  | away | leased => cases isLive

theorem ne_away_of_isLive {stage : Stage} (isLive : stage.isLive) : stage ≠ .away := by
  rintro rfl
  cases isLive

/-- How the last command of the client went, or the one under way will have gone. -/
def conclusion? : Stage → Option Finish
  | away => none
  | leased last => last
  | busy course => course.conclusion?

/-- The next turn of the command of the client is that the pool refuses it. -/
def Refuses (stage : Stage) (error : RunnerError) : Prop :=
  ∃ course turn, stage = .busy course ∧ course.next? = some turn ∧ turn.act = some (.refuse error)

theorem not_refuses_away (error : RunnerError) : ¬away.Refuses error := by
  rintro ⟨course, turn, equal, -⟩
  cases equal

theorem not_refuses_leased (last : Option Finish) (error : RunnerError) :
    ¬(leased last).Refuses error := by
  rintro ⟨course, turn, equal, -⟩
  cases equal

end Stage

/-- A shared runner with the clock and the log, who has the lease, and what each client has. -/
structure Session where
  world : World
  runner : Runner
  holder : Option Nat
  stage : Nat → Stage

namespace Session

def new (world : World) (runner : Runner) : Session := ⟨world, runner, none, fun _ => .away⟩

def put (session : Session) (client : Nat) (stage : Stage) : Session :=
  { session with stage := fun other => if other = client then stage else session.stage other }

@[simp] theorem stage_put_self (session : Session) (client : Nat) (stage : Stage) :
    (session.put client stage).stage client = stage := if_pos rfl

theorem stage_put_of_ne (session : Session) {client other : Nat} (different : other ≠ client)
    (stage : Stage) : (session.put client stage).stage other = session.stage other :=
  if_neg different

def noting (session : Session) (act : Act) : Session :=
  { session with world := session.world.noting act }

def leave (session : Session) (client : Nat) : Session :=
  { session.put client .away with holder := none }

inductive Move
  | wait (instant : Nat)
  | lease (client : Nat)
  | start (client : Nat) (job : Job)
  /-- A command of a client has its next turn. -/
  | advance (client : Nat)
  /-- The runner moves on from a command of a client. -/
  | settle (client : Nat)
  | drop (client : Nat)
  | abort (client : Nat)
  /-- The runner is given back. -/
  | release
  | note (act : Act)

/-- Whether the move goes on without its client. -/
def Move.isUnattended : Move → Bool
  | wait _ | advance _ | settle _ => true
  | _ => false

/-- Whether the move neither takes the lease from its holder nor gives the runner back. -/
def Move.isOrderly : Move → Bool
  | abort _ | release => false
  | _ => true

def Move.isBookkeeping : Move → Bool
  | note _ => true
  | _ => false

/-- How a session goes on. Time does not pass the next turn of a command under way. The lease is
needed for releasing the runner, too. -/
inductive Step (pool : Pool) (session : Session) : Move → Session → Prop
  | wait (instant : Nat) (later : session.world.now ≤ instant)
      (due : ∀ client course turn, session.stage client = .busy course →
        course.next? = some turn → instant ≤ turn.instant) :
      Step pool session (.wait instant) { session with world.now := instant }
  | lease (client : Nat) (isFree : session.holder = none)
      (isAway : session.stage client = .away) :
      Step pool session (.lease client)
        { session.put client (.leased none) with holder := some client }
  | start (client : Nat) (job : Job) (last : Option Finish) (runner : Runner) (course : Course)
      (world : World) (hasLease : session.stage client = .leased last)
      (started : (session.runner.start pool job).perform session.world =
        (some (.ok (runner, course)), world)) :
      Step pool session (.start client job)
        { session.put client (.busy course) with world, runner }
  | refuse (client : Nat) (job : Job) (last : Option Finish) (finish : Finish) (world : World)
      (hasLease : session.stage client = .leased last)
      (refused : (session.runner.start pool job).perform session.world =
        (some (.error finish), world)) :
      Step pool session (.start client job)
        { session.put client (.leased (some finish)) with world }
  | advance (client : Nat) (course next : Course) (world : World)
      (isBusy : session.stage client = .busy course) (isLive : course.isLive)
      (advanced : course.advance.perform session.world = (some next, world)) :
      Step pool session (.advance client) { session.put client (.busy next) with world }
  | settle (client : Nat) (finish : Finish) (runner : Runner) (world : World)
      (isOver : session.stage client = .busy (.closed finish))
      (settled : (session.runner.settle finish.result).perform session.world =
        (some runner, world)) :
      Step pool session (.settle client)
        { session.put client (.leased (some finish)) with world, runner }
  | drop (client : Nat) (last : Option Finish) (hasLease : session.stage client = .leased last) :
      Step pool session (.drop client) (session.leave client)
  | abortAway (client : Nat) (isAway : session.stage client = .away) :
      Step pool session (.abort client) session
  | abortHolder (client : Nat) (isHolder : session.stage client ≠ .away)
      (isIdle : (session.stage client).isLive = false) :
      Step pool session (.abort client) (session.leave client)
  | abortLive (client : Nat) (isLive : (session.stage client).isLive) :
      Step pool session (.abort client) ((session.leave client).noting .detach)
  | release (runner : Runner) (world : World) (isFree : session.holder = none)
      (released : (session.runner.release pool).perform session.world = (some runner, world)) :
      Step pool session .release { session with world, runner }
  | note (act : Act) (isBookkeeping : act.isBookkeeping) :
      Step pool session (.note act) (session.noting act)

/-- What a step adds to the log: bookkeeping is only noted as such, and a refusal is the turn of a
command under way. -/
theorem Step.exists_log {pool : Pool} {session next : Session} {move : Move}
    (step : Step pool session move next) :
    ∃ added : Log, next.world.log = session.world.log ++ added ∧
      ∀ act ∈ added.acts, act.isRoutine ∨ (act.isBookkeeping ∧ move = .note act) ∨
        ∃ client error, act = .refuse error ∧ (session.stage client).Refuses error := by
  have unchanged : ∃ added : Log, session.world.log = session.world.log ++ added ∧
      ∀ act ∈ added.acts, act.isRoutine ∨ (act.isBookkeeping ∧ move = .note act) ∨
        ∃ client error, act = .refuse error ∧ (session.stage client).Refuses error :=
    ⟨[], (List.append_nil _).symm, fun _ member => absurd member List.not_mem_nil⟩
  cases step with
  | wait | lease | drop | abortAway | abortHolder => exact unchanged
  | start client job last runner course world hasLease started =>
      rcases Runner.cases_of_start started with ⟨-, ⟨failure, -, -, rfl⟩ | ⟨-, -, rfl⟩⟩
      · refine ⟨[⟨session.world.now, .move .executing⟩], rfl, ?_⟩
        intro act member
        rw [List.mem_singleton.mp member]
        exact .inl rfl
      · refine ⟨⟨session.world.now, .move .executing⟩ :: ⟨session.world.now, .attach job.command⟩ ::
          Answer.callEntries (pool.attach (session.world.noting (.move .executing)).log runner
            job.command) session.world.now, ?_, ?_⟩
        · simp only [World.log_noting, World.now_noting, List.append_assoc, List.cons_append,
            List.nil_append]
        · intro act member
          rcases List.mem_cons.mp member with rfl | later
          · exact .inl rfl
          · rcases List.mem_cons.mp later with rfl | call
            · exact .inl rfl
            · exact .inl (Answer.isRoutine_of_mem_callEntries call)
  | refuse client job last finish world hasLease refused =>
      rcases Runner.eq_of_start_error refused with ⟨rfl, -⟩
      exact unchanged
  | advance client course following world isBusy isLive advanced =>
      rcases Course.exists_turn_of_advance isLive advanced with ⟨turn, turns, rfl, rfl⟩
      rcases Course.act_of_next? turns with ⟨act, -⟩ | ⟨act, noted, ends, -⟩
      · simp only [Turn.after, act, Option.elim_none]
        exact unchanged
      · refine ⟨[⟨max session.world.now turn.instant, act⟩], ?_, ?_⟩
        · simp only [Turn.after, noted, Option.elim_some, World.log_noting]
        · intro other member
          rw [List.mem_singleton.mp member]
          cases act with
          | refuse error =>
              exact .inr (.inr ⟨client, error, rfl, course, turn, isBusy, turns, noted⟩)
          | _ => first | exact .inl rfl | exact absurd (ends 1) Nat.one_ne_zero
  | settle client finish runner world isOver settled =>
      cases settled
      refine ⟨_, rfl, ?_⟩
      intro act member
      rw [List.mem_singleton.mp member]
      exact .inl rfl
  | abortLive client isLive =>
      refine ⟨_, rfl, ?_⟩
      intro act member
      rw [List.mem_singleton.mp member]
      exact .inl rfl
  | release runner world isFree released =>
      by_cases isReleased : session.runner.state = .released
      · rw [Runner.perform_release_of_released pool session.world isReleased] at released
        cases released
        exact unchanged
      · rcases Runner.exists_of_release isReleased released with ⟨-, pause, rfl⟩
        refine ⟨_, rfl, ?_⟩
        intro act member
        rw [Log.acts_append, List.mem_append] at member
        rcases member with first | last
        · rcases List.mem_cons.mp first with rfl | call
          · exact .inl rfl
          · exact .inl (Answer.isRoutine_of_mem_callEntries call)
        · rw [List.mem_singleton.mp last]
          exact .inl rfl
  | note act isBookkeeping =>
      refine ⟨_, rfl, ?_⟩
      intro other member
      rw [List.mem_singleton.mp member]
      exact .inr (.inl ⟨isBookkeeping, rfl⟩)

/-- Nothing is recorded by using a runner. -/
theorem Step.records_eq {pool : Pool} {session next : Session} {move : Move}
    (step : Step pool session move next) (unrecorded : move.isBookkeeping = false) :
    next.world.log.records = session.world.log.records := by
  rcases step.exists_log with ⟨added, log, acts⟩
  rw [log]
  apply Log.records_append_of_unrecorded
  intro act member
  rcases acts act member with isRoutine | ⟨-, rfl⟩ | ⟨_, _, rfl, -⟩
  · exact Act.isBookkeeping_of_isRoutine isRoutine
  · cases unrecorded
  · rfl

/-- Without its client, a command goes on as it would have gone, until the runner moves on from
it. -/
theorem Step.cases_of_unattended {pool : Pool} {session next : Session} {move : Move}
    (isUnattended : move.isUnattended) (step : Step pool session move next) (client : Nat) :
    next.stage client = session.stage client ∨ ∃ course, session.stage client = .busy course ∧
      ((∃ following, next.stage client = .busy following ∧
          following.conclusion? = course.conclusion?) ∨
        ∃ finish, course = .closed finish ∧ next.stage client = .leased (some finish)) := by
  cases step with
  | wait => exact .inl rfl
  | advance other course following world isBusy isLive advanced =>
      by_cases same : client = other
      · rcases Course.exists_turn_of_advance isLive advanced with ⟨turn, turns, rfl, -⟩
        rw [same]
        exact .inr ⟨course, isBusy, .inl ⟨turn.course, stage_put_self session other _,
          Course.conclusion?_of_next? turns⟩⟩
      · exact .inl (stage_put_of_ne session same _)
  | settle other finish runner world isOver settled =>
      by_cases same : client = other
      · rw [same]
        exact .inr ⟨.closed finish, isOver, .inr ⟨finish, rfl, stage_put_self session other _⟩⟩
      · exact .inl (stage_put_of_ne session same _)
  | lease | start | refuse | drop | abortAway | abortHolder | abortLive | release | note =>
      cases isUnattended

theorem Step.holder_of_unattended {pool : Pool} {session next : Session} {move : Move}
    (isUnattended : move.isUnattended) (step : Step pool session move next) :
    next.holder = session.holder := by
  cases step with
  | wait | advance | settle => rfl
  | lease | start | refuse | drop | abortAway | abortHolder | abortLive | release | note =>
      cases isUnattended

theorem Step.away_iff_of_unattended {pool : Pool} {session next : Session} {move : Move}
    (isUnattended : move.isUnattended) (step : Step pool session move next) (client : Nat) :
    next.stage client = .away ↔ session.stage client = .away := by
  rcases step.cases_of_unattended isUnattended client with
    same | ⟨course, isBusy, ⟨following, goesOn, -⟩ | ⟨finish, -, settled⟩⟩
  · rw [same]
  · rw [isBusy, goesOn]
    exact ⟨nofun, nofun⟩
  · rw [isBusy, settled]
    exact ⟨nofun, nofun⟩

theorem Step.conclusion?_of_unattended {pool : Pool} {session next : Session} {move : Move}
    (isUnattended : move.isUnattended) (step : Step pool session move next) (client : Nat) :
    (next.stage client).conclusion? = (session.stage client).conclusion? := by
  rcases step.cases_of_unattended isUnattended client with
    same | ⟨course, isBusy, ⟨following, goesOn, same⟩ | ⟨finish, rfl, settled⟩⟩
  · rw [same]
  · rw [isBusy, goesOn]
    exact same
  · rw [isBusy, settled]
    rfl

def Reaches (pool : Pool) : Session → Session → Prop :=
  Relation.ReflTransGen fun session next => ∃ move, Step pool session move next

end Session

end Grading
