import Grading.Clearance
import Grading.Proofs.Release
import Grading.Proofs.Succession

namespace Grading

/-! When a pass is given up, nothing more is started or recorded, and its runner is given back once:
the tasks that were told to stop make way for the keeper, one after the other. -/

/-! ## Leaving -/

namespace Session

variable {pool : Pool} {session next : Session} {client : Nat}

/-- A client that is aborted has nothing of the runner any more, and its command is not listened
to. -/
structure Left (session : Session) (client : Nat) (next : Session) : Prop where
  away : next.stage client = .away
  others : ∀ other, other ≠ client → next.stage other = session.stage other
  holder : next.holder = none ∨ (next.holder = session.holder ∧ session.stage client = .away)
  runner : next.runner = session.runner
  world : next.world = session.world ∨ next.world = session.world.noting .detach

theorem Step.left (step : Step pool session (.abort client) next) : session.Left client next := by
  have leaves : session.Left client (session.leave client) :=
    ⟨stage_put_self session client .away, fun other different =>
      stage_put_of_ne session different .away, .inl rfl, rfl, .inl rfl⟩
  cases step with
  | abortAway _ isAway => exact ⟨isAway, fun _ _ => rfl, .inr ⟨rfl, isAway⟩, rfl, .inl rfl⟩
  | abortHolder => exact leaves
  | abortLive => exact { leaves with world := .inr rfl }

theorem exists_abort (pool : Pool) (session : Session) (client : Nat) :
    ∃ next, Step pool session (.abort client) next := by
  by_cases isAway : session.stage client = .away
  · exact ⟨_, .abortAway client isAway⟩
  · cases isLive : (session.stage client).isLive with
    | true => exact ⟨_, .abortLive client isLive⟩
    | false => exact ⟨_, .abortHolder client isAway isLive⟩

/-- Leaving is no use of the pool and no record. -/
theorem Left.log_eq (left : session.Left client next) :
    next.world.log.requests = session.world.log.requests ∧
      next.world.log.releases = session.world.log.releases ∧
      next.world.log.records = session.world.log.records := by
  rcases left.world with same | noted
  · rw [same]
    exact ⟨rfl, rfl, rfl⟩
  · rw [noted]
    refine ⟨Log.requests_append_entry _ nofun, Log.releases_append_entry _ rfl, ?_⟩
    apply Log.records_append_of_unrecorded
    intro act member
    rw [List.mem_singleton.mp member]
    rfl

/-- Nor is releasing a request for a command. -/
theorem Step.requests_eq_of_release (step : Step pool session .release next)
    (notReleased : session.runner.state ≠ .released) :
    next.world.log.requests = session.world.log.requests := by
  cases step with
  | release runner world isFree released =>
      rcases Runner.exists_of_release notReleased released with ⟨-, pause, rfl⟩
      apply Log.requests_append_of_unasked
      intro act member command
      rw [Log.acts_append, List.mem_append] at member
      rcases member with asked | last
      · rcases List.mem_cons.mp asked with rfl | call
        · exact nofun
        · rcases Answer.eq_call_of_mem_callEntries call with ⟨call, rfl⟩
          exact nofun
      · rw [List.mem_singleton.mp last]
        exact nofun

end Session

/-! ## The line -/

namespace Lineup

variable {work : Assignment} {lineup next : Lineup}

/-- Those in the line wait for the lease, and each of them is there once. -/
structure Lined (lineup : Lineup) : Prop where
  distinct : lineup.line.Nodup
  queued : ∀ index ∈ lineup.line, ∃ since, lineup.tasks.task index = .queued since

theorem Lined.opening (tasks : Tasks) (order : List Nat) : Lined (.opening tasks order) :=
  ⟨List.nodup_nil, nofun⟩

theorem Lined.step (lined : lineup.Lined) (step : Step work lineup next) : next.Lined := by
  cases step with
  | queue index rest isNext bound isScheduled =>
      -- A task that is still scheduled is not in the line yet.
      have notLined : index ∉ lineup.line := by
        intro member
        rcases lined.queued index member with ⟨since, isQueued⟩
        cases isScheduled.symm.trans isQueued
      refine ⟨List.nodup_append.mpr ⟨lined.distinct, List.nodup_singleton index, ?_⟩, ?_⟩
      · rintro other member _ last rfl
        exact notLined (List.mem_singleton.mp last ▸ member)
      · intro other member
        rcases List.mem_append.mp member with member | last
        · have different : other ≠ index := fun same => notLined (same ▸ member)
          exact (Tasks.task_put_of_ne lineup.tasks different _).symm ▸ lined.queued other member
        · rw [List.mem_singleton.mp last]
          exact ⟨_, Tasks.task_put_self lineup.tasks index _⟩
  | lease index since rest session isFirst isQueued step =>
      have distinct := lined.distinct
      rw [isFirst, List.nodup_cons] at distinct
      refine ⟨distinct.2, fun other member => ?_⟩
      have different : other ≠ index := fun same => distinct.1 (same ▸ member)
      have wasLined : other ∈ lineup.line := isFirst ▸ List.mem_cons_of_mem index member
      exact (Tasks.task_put_of_ne lineup.tasks different _).symm ▸ lined.queued other wasLined
  | go next step apart =>
      refine ⟨lined.distinct, fun index member => ?_⟩
      rcases lined.queued index member with ⟨since, isQueued⟩
      exact ⟨since, (apart index (by rw [isQueued]; rfl)).trans isQueued⟩

theorem Lined.steps (lined : lineup.Lined)
    (steps : Relation.ReflTransGen (Step work) lineup next) : next.Lined := by
  induction steps with
  | refl => exact lined
  | tail _ step induction => exact induction.step step

end Lineup

/-! ## Clearing -/

/-- How many steps the keeper has still to make. -/
def Keeper.remaining : Keeper → Nat
  | called => 2
  | waiting => 1
  | done => 0

namespace Clearance

variable {work : Assignment} {start : Lineup} {clearance next : Clearance}

/-- How much is left to be done. -/
def remaining (clearance : Clearance) : Nat :=
  clearance.present.length + clearance.keeper.remaining

/-- The tasks that were given up at `start` have not gone on. Those that are left are in the line
before the keeper, and nobody else has anything of the runner, until it is given back. -/
structure Clearing (work : Assignment) (start : Lineup) (clearance : Clearance) : Prop where
  stopped : clearance.stopped = List.range work.files.length
  task : clearance.lineup.tasks.task = start.tasks.task
  indexed : ∀ index, start.tasks.task index ≠ .scheduled → index < work.files.length
  bound : ∀ index ∈ clearance.present, index < work.files.length
  staged : ∀ client, clearance.session.stage client ≠ .away → client ∈ clearance.present
  held : ∀ client, clearance.session.holder = some client → clearance.session.stage client ≠ .away
  lined : ∃ queued : List Nat, (∀ index ∈ queued, index ∈ clearance.present) ∧
    clearance.lineup.line =
      queued ++ if clearance.keeper = .waiting then [work.files.length] else []
  requests : clearance.session.world.log.requests = start.tasks.session.world.log.requests
  records : clearance.session.world.log.records = start.tasks.session.world.log.records
  runnerId : clearance.session.runner.id = start.tasks.session.runner.id
  kept : clearance.keeper ≠ .done →
    clearance.session.world.log.releases = start.tasks.session.world.log.releases ∧
      clearance.session.runner.state ≠ .released
  released : clearance.keeper = .done →
    clearance.session.world.log.releases =
      start.tasks.session.world.log.releases ++ [start.tasks.session.runner.id] ∧
      clearance.session.runner.state = .released

namespace Clearing

/-- A task that was told to stop does nothing, so that all that happens is that time passes. -/
theorem eq_of_spares (clearing : Clearing work start clearance) {later : Lineup}
    (step : Lineup.Step work clearance.lineup later) (spares : clearance.Spares later) :
    ∃ instant, later = clearance.lineup.waited instant := by
  have spared : ∀ index < work.files.length,
      later.tasks.task index = clearance.lineup.tasks.task index ∧
        later.tasks.session.stage index = clearance.session.stage index :=
    fun index bound => spares index (clearing.stopped ▸ List.mem_range.mpr bound)
  have sameTask : ∀ {index : Nat} {was is : Task}, clearance.lineup.tasks.task index = was →
      was ≠ .scheduled → later.tasks.task index = is → was = is := by
    rintro index was is rfl notScheduled rfl
    exact (spared index (clearing.indexed index (clearing.task ▸ notScheduled))).1.symm
  have sameStage : ∀ {client : Nat} {was is : Stage}, clearance.session.stage client = was →
      was ≠ .away → later.tasks.session.stage client = is → was = is := by
    rintro client was is rfl present rfl
    exact (spared client (clearing.bound client (clearing.staged client present))).2.symm
  cases step with
  | queue index rest isNext bound isScheduled =>
      cases isScheduled.symm.trans
        ((spared index bound).1.symm.trans (Tasks.task_put_self _ index _))
  | lease index since rest session isFirst isQueued step =>
      cases sameTask isQueued nofun (Tasks.task_put_self _ index _)
  | go next step =>
      cases step with
      | share move session isUnattended step =>
          cases step with
          | wait instant => exact ⟨instant, rfl⟩
          | advance client course following world isBusy isLive advanced =>
              rcases Course.exists_turn_of_advance isLive advanced with ⟨turn, turns, rfl, -⟩
              have nearer := Course.distance_lt_of_next? turns
              cases sameStage isBusy nofun (Session.stage_put_self _ client _)
              exact absurd nearer (Nat.lt_irrefl _)
          | settle client finish runner world isOver settled =>
              cases sameStage isOver nofun (Session.stage_put_self _ client _)
          | lease | start | refuse | drop | abortAway | abortHolder | abortLive | release | note =>
              cases isUnattended
      | queue index bound isScheduled =>
          cases isScheduled.symm.trans
            ((spared index bound).1.symm.trans (Tasks.task_put_self _ index _))
      | lease index since session isQueued step =>
          cases sameTask isQueued nofun (Tasks.task_put_self _ index _)
      | start index waiting file session isWorking tests isFresh step =>
          cases step with
          | start | refuse => cases sameStage isFresh nofun (Session.stage_put_self _ index _)
      | drop index waiting file finish session isWorking tests isDone step =>
          cases sameTask isWorking nofun (Tasks.task_put_self _ index _)
      | record index trial session isExecuted inTurn stores =>
          cases sameTask isExecuted nofun (Tasks.task_put_self _ index _)
      | recordErrors index trial session isRecorded stores =>
          cases sameTask isRecorded nofun (Tasks.task_put_self _ index _)
      | collect index trial isEnded =>
          cases sameTask isEnded nofun (Tasks.task_put_self _ index _)

theorem go (clearing : Clearing work start clearance) (instant : Nat) :
    Clearing work start { clearance with lineup := clearance.lineup.waited instant } :=
  { clearing with }

theorem leave (clearing : Clearing work start clearance) {index : Nat} {session : Session}
    (isPresent : index ∈ clearance.present) (left : clearance.session.Left index session) :
    Clearing work start (clearance.without index session) := by
  rcases left.log_eq with ⟨requests, releases, records⟩
  exact { clearing with
    bound := fun other member => clearing.bound other (List.mem_of_mem_filter member)
    staged := by
      intro client present
      have different : client ≠ index := by
        rintro rfl
        exact present left.away
      have wasPresent : clearance.session.stage client ≠ .away :=
        left.others client different ▸ present
      exact List.mem_filter.mpr ⟨clearing.staged client wasPresent, by simpa using different⟩
    held := by
      intro client held
      rcases left.holder with isFree | ⟨same, wasAway⟩
      · cases isFree.symm.trans held
      · have present := clearing.held client (same.symm.trans held)
        have different : client ≠ index := by
          rintro rfl
          exact present wasAway
        exact (left.others client different).symm ▸ present
    lined := by
      rcases clearing.lined with ⟨queued, arePresent, line⟩
      refine ⟨queued.filter (· ≠ index), ?_, ?_⟩
      · intro other member
        rcases List.mem_filter.mp member with ⟨earlier, different⟩
        exact List.mem_filter.mpr ⟨arePresent other earlier, different⟩
      · have notKeeper : work.files.length ≠ index := Nat.ne_of_gt (clearing.bound index isPresent)
        have goesOn : (clearance.without index session).keeper = clearance.keeper := rfl
        change clearance.lineup.line.filter _ = _
        rw [goesOn, line, List.filter_append]
        congr 1
        split
        · exact List.filter_cons_of_pos (by simpa using notKeeper)
        · rfl
    requests := requests.trans clearing.requests
    records := records.trans clearing.records
    runnerId := (congrArg Runner.id left.runner).trans clearing.runnerId
    kept := by
      intro notDone
      rcases clearing.kept notDone with ⟨unreleased, state⟩
      exact ⟨releases.trans unreleased, left.runner.symm ▸ state⟩
    released := by
      intro isDone
      rcases clearing.released isDone with ⟨once, state⟩
      exact ⟨releases.trans once, left.runner.symm ▸ state⟩ }

theorem queue (clearing : Clearing work start clearance) (isCalled : clearance.keeper = .called) :
    Clearing work start (queued work clearance) :=
  { clearing with
    lined := by
      rcases clearing.lined with ⟨queued, arePresent, line⟩
      refine ⟨queued, arePresent, ?_⟩
      rw [isCalled] at line
      exact congrArg (· ++ [work.files.length]) (line.trans (List.append_nil queued))
    kept := fun _ => clearing.kept (by rw [isCalled]; exact nofun)
    released := nofun }

theorem release (clearing : Clearing work start clearance) {rest : List Nat} {session : Session}
    (isWaiting : clearance.keeper = .waiting)
    (isFirst : clearance.lineup.line = work.files.length :: rest)
    (releases : Session.Step work.pool clearance.session .release session) :
    Clearing work start (clearance.settled rest session) := by
  rcases clearing.kept (by rw [isWaiting]; exact nofun) with ⟨unreleased, notReleased⟩
  have requests := releases.requests_eq_of_release notReleased
  have records := releases.records_eq rfl
  have runnerId := releases.runner_id_eq
  have alone : rest = [] := by
    rcases clearing.lined with ⟨queued, arePresent, line⟩
    rw [isWaiting, isFirst, if_pos rfl] at line
    cases queued with
    | nil => exact (List.cons.inj line).2
    | cons first others =>
        have bound := clearing.bound first (arePresent first List.mem_cons_self)
        exact absurd (List.cons.inj line).1 (Nat.ne_of_gt bound)
  cases releases with
  | release runner world isFree released =>
      rcases Runner.releases_of_release notReleased released with ⟨once, state⟩
      exact { clearing with
        held := clearing.held
        lined := ⟨[], fun _ member => absurd member List.not_mem_nil, alone⟩
        requests := requests.trans clearing.requests
        records := records.trans clearing.records
        runnerId := runnerId.trans clearing.runnerId
        kept := fun notDone => absurd rfl notDone
        released := fun _ => ⟨by rw [← clearing.runnerId, ← unreleased]; exact once, state⟩ }

/-- Whatever happens, the tasks are being cleared. -/
theorem step (clearing : Clearing work start clearance) (step : Step work clearance next) :
    Clearing work start next := by
  cases step with
  | go later step spares =>
      rcases clearing.eq_of_spares step spares with ⟨instant, rfl⟩
      exact clearing.go instant
  | leave index session isPresent aborts => exact clearing.leave isPresent aborts.left
  | queue isCalled => exact clearing.queue isCalled
  | release rest session isWaiting isFirst releases =>
      exact clearing.release isWaiting isFirst releases

theorem reaches (clearing : Clearing work start clearance) (reaches : Reaches work clearance next) :
    Clearing work start next := by
  induction reaches with
  | refl => exact clearing
  | tail _ step induction => exact induction.step step

/-- What is left to be done gets less, except where only time passes. -/
theorem remaining_lt (clearing : Clearing work start clearance) (step : Step work clearance next) :
    (∃ instant, next = { clearance with lineup := clearance.lineup.waited instant }) ∨
      next.remaining < clearance.remaining := by
  cases step with
  | go later step spares =>
      rcases clearing.eq_of_spares step spares with ⟨instant, rfl⟩
      exact .inl ⟨instant, rfl⟩
  | leave index session isPresent aborts =>
      refine .inr (Nat.add_lt_add_right ?_ _)
      exact List.length_filter_lt_length_iff_exists.mpr ⟨index, isPresent, by simp⟩
  | queue isCalled =>
      refine .inr (Nat.add_lt_add_left ?_ _)
      rw [isCalled]
      exact Nat.lt_succ_self 1
  | release rest session isWaiting =>
      refine .inr (Nat.add_lt_add_left ?_ _)
      rw [isWaiting]
      exact Nat.zero_lt_one

/-- When all tasks are gone, the lease is free. -/
theorem isFree_of_gone (clearing : Clearing work start clearance) (gone : clearance.present = []) :
    clearance.session.holder = none := by
  cases held : clearance.session.holder with
  | none => rfl
  | some client =>
      have present := clearing.staged client (clearing.held client held)
      exact absurd (gone ▸ present) List.not_mem_nil

/-- The keeper is then the only one in the line. -/
theorem line_of_gone (clearing : Clearing work start clearance) (gone : clearance.present = [])
    (isWaiting : clearance.keeper = .waiting) : clearance.lineup.line = [work.files.length] := by
  rcases clearing.lined with ⟨queued, arePresent, line⟩
  have nobody : queued = [] := by
    apply List.eq_nil_iff_forall_not_mem.mpr
    intro index member
    exact absurd (gone ▸ arePresent index member) List.not_mem_nil
  rw [line, nobody, isWaiting, if_pos rfl, List.nil_append]

/-- Until everything is cleared, something can be done. -/
theorem exists_step {scripted : ScriptedPool} (isScripted : work.pool = scripted.toPool)
    (clearing : Clearing work start clearance) (notClear : ¬clearance.IsClear) :
    ∃ next, Step work clearance next ∧ next.remaining < clearance.remaining := by
  by_cases gone : clearance.present = []
  · cases keeper : clearance.keeper with
    | called =>
        refine ⟨_, .queue keeper, Nat.add_lt_add_left ?_ _⟩
        rw [keeper]
        exact Nat.lt_succ_self 1
    | waiting =>
        rcases Grader.exists_perform_release scripted clearance.session.runner
          clearance.session.world with ⟨released, later, releases⟩
        rw [← isScripted] at releases
        refine ⟨_, .release [] _ keeper (clearing.line_of_gone gone keeper)
          (.release released later (clearing.isFree_of_gone gone) releases),
          Nat.add_lt_add_left ?_ _⟩
        rw [keeper]
        exact Nat.zero_lt_one
    | done => exact absurd ⟨gone, keeper⟩ notClear
  · rcases List.exists_mem_of_ne_nil _ gone with ⟨index, isPresent⟩
    rcases Session.exists_abort work.pool clearance.session index with ⟨session, aborts⟩
    have step : Step work clearance _ := .leave index session isPresent aborts
    exact ⟨_, step, Nat.add_lt_add_right
      (List.length_filter_lt_length_iff_exists.mpr ⟨index, isPresent, by simp⟩) _⟩

/-- So everything is cleared in the end. -/
theorem exists_reaches_isClear {scripted : ScriptedPool} (isScripted : work.pool = scripted.toPool)
    (clearing : Clearing work start clearance) :
    ∃ clear, Reaches work clearance clear ∧ clear.IsClear := by
  induction remaining : clearance.remaining using Nat.strongRecOn generalizing clearance with
  | ind count induction =>
      by_cases isClear : clearance.IsClear
      · exact ⟨clearance, .refl, isClear⟩
      · rcases clearing.exists_step isScripted isClear with ⟨next, step, fewer⟩
        rcases induction _ (remaining ▸ fewer) (clearing.step step) rfl with
          ⟨clear, reaches, isClear⟩
        exact ⟨clear, .head step reaches, isClear⟩

/-- Tasks that are given up while some of them are in the line are being cleared. -/
theorem giveUp {lineup : Lineup} (coherent : lineup.tasks.Coherent work) (lined : lineup.Lined)
    (notReleased : lineup.tasks.session.runner.state ≠ .released) :
    Clearing work lineup (lineup.giveUp work) := by
  have present : ∀ {index : Nat} {task : Task}, lineup.tasks.task index = task →
      task ≠ .scheduled → task.ended? = none → index ∈ (lineup.giveUp work).present := by
    rintro index task rfl started notEnded
    exact List.mem_filter.mpr ⟨List.mem_range.mpr (coherent.indexed index started),
      by rw [notEnded]; rfl⟩
  exact {
    stopped := rfl
    task := rfl
    indexed := coherent.indexed
    bound := fun index member => List.mem_range.mp (List.mem_of_mem_filter member)
    staged := by
      intro client staged
      rcases (coherent.working client).mp staged with ⟨waiting, isWorking⟩
      exact present isWorking nofun rfl
    held := coherent.held
    lined := by
      refine ⟨lineup.line, ?_, (List.append_nil _).symm⟩
      intro index member
      rcases lined.queued index member with ⟨since, isQueued⟩
      exact present isQueued nofun rfl
    requests := rfl
    records := rfl
    runnerId := rfl
    kept := fun _ => ⟨rfl, notReleased⟩
    released := nofun }

end Clearing

end Clearance

end Grading
