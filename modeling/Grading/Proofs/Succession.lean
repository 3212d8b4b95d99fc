import Grading.Proofs.Independence
import Grading.Proofs.Timing

namespace Grading

/-! What a pool is asked for, what tasks wait for, and visits that follow each other: the turns of
files on a runner, where the command of one is started when that of the one before has ended. -/

/-- What a pool is asked for by a job that is started at an instant: nothing, if its limits are
reached then. -/
def Job.requests (job : Job) (started : Nat) : List String :=
  if ((job.limits started).reached? started).isSome then [] else [job.command]

namespace Log

/-- The commands that a pool was asked to start. -/
def requests (log : Log) : List String :=
  log.acts.filterMap fun
    | .attach command => some command
    | _ => none

theorem requests_append (log later : Log) :
    requests (log ++ later) = log.requests ++ later.requests := by
  simp only [requests, acts_append, List.filterMap_append]

theorem requests_append_of_unasked (log : Log) {later : Log}
    (unasked : ∀ act ∈ later.acts, ∀ command, act ≠ .attach command) :
    requests (log ++ later) = log.requests := by
  have nothing : later.requests = [] := by
    apply List.filterMap_eq_nil_iff.mpr
    intro act member
    cases act with
    | attach command => exact absurd rfl (unasked _ member command)
    | _ => rfl
  rw [requests_append, nothing, List.append_nil]

theorem requests_append_entry (log : Log) {entry : Entry}
    (unasked : ∀ command, entry.act ≠ .attach command) :
    requests (log ++ [entry]) = log.requests := by
  apply log.requests_append_of_unasked
  intro act member
  rw [List.mem_singleton.mp member]
  exact unasked

theorem requests_append_calls {α : Type} (log : Log) (answer : Answer α) (instant : Nat) :
    requests (log ++ answer.callEntries instant) = log.requests := by
  apply log.requests_append_of_unasked
  intro act member command
  rcases Answer.eq_call_of_mem_callEntries member with ⟨call, rfl⟩
  exact nofun

/-- A turn of a command is no request. -/
theorem requests_of_turn {course : Course} {turn : Turn} (turns : course.next? = some turn)
    (world : World) : (turn.after world).log.requests = world.log.requests := by
  rcases Course.act_of_next? turns with ⟨act, -⟩ | ⟨act, noted, ends, -⟩
  · simp only [Turn.after, act, Option.elim_none]
  · simp only [Turn.after, noted, Option.elim_some, World.log_noting]
    apply requests_append_entry
    intro command same
    cases (same : act = .attach command)
    cases ends 0

/-- A start is a request for the command, unless the limits of the job are reached. -/
theorem requests_of_start {pool : Pool} {runner executing : Runner} {job : Job}
    {world later : World} {course : Course}
    (started : (Runner.start pool runner job).perform world =
      (some (.ok (executing, course)), later)) :
    later.log.requests = world.log.requests ++ job.requests world.now := by
  have moved : (world.noting (.move .executing)).log.requests = world.log.requests :=
    requests_append_entry _ nofun
  rcases Runner.cases_of_start started with ⟨-, ⟨failure, reached, -, rfl⟩ | ⟨unreached, -, rfl⟩⟩
  · rw [moved, Job.requests, reached]
    exact (List.append_nil _).symm
  · rw [requests_append_calls, World.log_noting, requests_append, moved, Job.requests, unreached]
    rfl

end Log

/-! ## Awaiting -/

/-- A command under way has the turns that are due still before it, and is over just when it
ends. -/
structure Course.Ahead (course : Course) (now : Nat) : Prop where
  due : ∀ turn, course.next? = some turn → now ≤ turn.instant
  closes : ∀ finish, course = .closed finish → finish.instant = now
  unreceived : ∀ limits channel decision, course = .attaching limits channel decision →
    channel = none

namespace Course.Ahead

theorem of_closed (finish : Finish) : (Course.closed finish).Ahead finish.instant where
  due turn turns := by cases turns
  closes other same := by
    cases same
    rfl
  unreceived limits channel decision same := by cases same

theorem next {course : Course} {now : Nat} {turn : Turn} (ahead : course.Ahead now)
    (turns : course.next? = some turn) : turn.course.Ahead turn.instant := by
  cases course with
  | closed finish => cases turns
  | listening finish =>
      rcases Option.map_eq_some_iff.mp turns with ⟨finish, -, rfl⟩
      exact of_closed finish
  | attaching limits channel decision =>
      cases ahead.unreceived limits channel decision rfl
      rcases Option.map_eq_some_iff.mp turns with ⟨⟨instant, error | stream⟩, -, rfl⟩
      · exact of_closed _
      · refine ⟨?_, fun _ same => (nomatch same), fun _ _ _ same => (nomatch same)⟩
        intro following later
        rcases Option.map_eq_some_iff.mp later with ⟨finish, ends, rfl⟩
        exact (Connection.timed_of_listen ends).now_le

theorem of_start {pool : Pool} {runner executing : Runner} {job : Job} {world later : World}
    {course : Course} (unreceived : job.receiver = none)
    (started : (Runner.start pool runner job).perform world =
      (some (.ok (executing, course)), later)) : course.Ahead world.now := by
  rcases Runner.cases_of_start started with ⟨-, ⟨failure, -, rfl, -⟩ | ⟨-, rfl, -⟩⟩
  · exact of_closed _
  · refine ⟨?_, fun _ same => (nomatch same), ?_⟩
    · intro turn turns
      rcases Option.map_eq_some_iff.mp turns with ⟨⟨instant, error | stream⟩, decided, rfl⟩
      · exact (Course.bounds_of_decide decided).1
      · exact (Course.bounds_of_decide decided).1
    · intro limits channel decision same
      cases same
      rw [unreceived]
      rfl

end Course.Ahead

namespace Tasks

variable {work : Assignment} {tasks next : Tasks}

/-- Time passes by waiting or because the next turn of a command is later. -/
theorem Step.cases_of_later (step : Step work tasks next)
    (later : tasks.session.world.now < next.session.world.now) :
    (next.task = tasks.task ∧ next.session.stage = tasks.session.stage ∧
      ∀ client course turn, tasks.session.stage client = .busy course →
        course.next? = some turn → next.session.world.now ≤ turn.instant) ∨
      ∃ client course turn, tasks.session.stage client = .busy course ∧
        course.next? = some turn ∧ next.session.world.now = turn.instant := by
  have never : tasks.session.world.now = next.session.world.now → False :=
    fun same => absurd (same ▸ later) (Nat.lt_irrefl _)
  cases step with
  | share move session isUnattended step =>
      cases step with
      | wait instant _ due => exact .inl ⟨rfl, rfl, due⟩
      | advance client course following world isBusy isLive advanced =>
          rcases Course.exists_turn_of_advance isLive advanced with ⟨turn, turns, rfl, rfl⟩
          have now : (turn.after tasks.session.world).now = _ := turn.now_after tasks.session.world
          change tasks.session.world.now < (turn.after tasks.session.world).now at later
          refine .inr ⟨client, course, turn, isBusy, turns, ?_⟩
          change (turn.after tasks.session.world).now = turn.instant
          omega
      | settle client finish runner world isOver settled =>
          cases settled
          exact (never rfl).elim
      | lease | start | refuse | drop | abortAway | abortHolder | abortLive | release | note =>
          cases isUnattended
  | queue | collect => exact (never rfl).elim
  | lease index since session isQueued step =>
      cases step
      exact (never rfl).elim
  | start index waiting file session isWorking tests isFresh step =>
      cases step with
      | start _ _ _ runner course world _ started =>
          exact (never (Runner.now_of_start started).symm).elim
      | refuse _ _ _ finish world _ refused =>
          rcases Runner.eq_of_start_error refused with ⟨rfl, -⟩
          exact (never rfl).elim
  | drop index waiting file finish session isWorking tests isDone step =>
      cases step
      exact (never rfl).elim
  | record index trial session isExecuted inTurn stores =>
      exact (never (now_of_stores stores).symm).elim
  | recordErrors index trial session isRecorded stores =>
      exact (never (now_of_stores stores).symm).elim

namespace Awaits

/-- Everything waits for a command. -/
theorem exists_turn (awaits : tasks.Awaits work) (coherent : Coherent work tasks) :
    ∃ client course turn, tasks.session.stage client = .busy course ∧
      course.next? = some turn ∧ tasks.session.world.now < turn.instant := by
  rcases exists_step coherent awaits.notDone with ⟨next, step, fewer⟩
  rcases awaits.idle next step with rfl | later
  · exact absurd fewer (Nat.lt_irrefl _)
  · rcases step.cases_of_later later with
      ⟨task, stage, -⟩ | ⟨client, course, turn, isBusy, turns, now⟩
    · simp only [remaining, distance, task, stage, Nat.lt_irrefl] at fewer
    · exact ⟨client, course, turn, isBusy, turns, now ▸ later⟩

theorem not_scheduled (awaits : tasks.Awaits work) {index : Nat}
    (bound : index < work.files.length) : tasks.task index ≠ .scheduled := by
  intro isScheduled
  rcases awaits.idle _ (.queue index bound isScheduled) with same | later
  · have queued := task_put_self tasks index (.queued tasks.session.world.now)
    rw [same, isScheduled] at queued
    cases queued
  · exact Nat.lt_irrefl _ later

end Awaits

end Tasks

/-! ## Visits -/

/-- The turn of a file on the runner, from the start of its command. -/
structure Visit where
  index : Nat
  start : Nat
  trial : Trial

namespace Visit

variable (work : Assignment) (answer : String → Answer (Except RunnerError EventStream))

def job (visit : Visit) : Job := work.pass.job visit.trial.file

def duration (visit : Visit) : Duration := visit.trial.finish.outcome.duration

/-- The file waited for its start, and its command went as it has to go from there on. -/
structure Accords (visit : Visit) : Prop where
  tests : work.files[visit.index]? = some visit.trial.file
  waiting : visit.trial.waiting =
    work.pass.acquisition + ⟨visit.start - work.pass.started⟩
  concludes : (visit.job work).conclusionAt? (answer (visit.job work).command) visit.start =
    some visit.trial.finish

end Visit

/-- Visits that follow each other without a gap, from an instant to another one. -/
inductive Succession (work : Assignment)
    (answer : String → Answer (Except RunnerError EventStream)) : Nat → List Visit → Nat → Prop
  | nil (instant : Nat) : Succession work answer instant [] instant
  | cons {visit : Visit} {rest : List Visit} {last : Nat} (accords : visit.Accords work answer)
      (following : Succession work answer visit.trial.finish.instant rest last) :
      Succession work answer visit.start (visit :: rest) last

namespace Succession

variable {work : Assignment} {answer : String → Answer (Except RunnerError EventStream)}
  {first last : Nat} {visits : List Visit}

theorem concat (succession : Succession work answer first visits last) {visit : Visit}
    (accords : visit.Accords work answer) (next : visit.start = last) :
    Succession work answer first (visits ++ [visit]) visit.trial.finish.instant := by
  induction succession with
  | nil instant =>
      rw [← next]
      exact .cons accords (.nil _)
  | cons earlier following induction => exact .cons earlier (induction next)

theorem accords (succession : Succession work answer first visits last) :
    ∀ visit ∈ visits, visit.Accords work answer := by
  induction succession with
  | nil => exact fun _ member => absurd member List.not_mem_nil
  | cons accords following induction =>
      intro visit member
      rcases List.mem_cons.mp member with rfl | later
      · exact accords
      · exact induction visit later

/-- Where the files are visited in their order, the visits are theirs. -/
theorem map_file (succession : Succession work answer first visits last)
    (visited : visits.map Visit.index = List.range work.files.length) :
    visits.map (fun visit => visit.trial.file) = work.files := by
  have tested : visits.map (fun visit => some visit.trial.file) =
      (visits.map Visit.index).map fun index => work.files[index]? := by
    rw [List.map_map]
    apply List.map_congr_left
    intro visit member
    exact (succession.accords visit member).tests.symm
  apply List.map_injective_iff.mpr (Option.some_injective SubmissionFile)
  rw [visited] at tested
  rw [List.map_map]
  refine tested.trans ?_
  apply List.ext_getElem
  · simp
  · intro index bound _
    simp

end Succession

end Grading
