import Grading.Lineup
import Grading.Proofs.TaskRuns

namespace Grading

/-! Grading file by file is one of the ways in which the tasks of a submission can go on. It is how
a single thread lets them go on. -/

namespace Session

theorem put_put (session : Session) (client : Nat) (first second : Stage) :
    (session.put client first).put client second = session.put client second := by
  simp only [put, Session.mk.injEq, true_and]
  funext other
  split <;> rfl

end Session

namespace Tasks

variable {work : Assignment} {tasks : Tasks}

/-- The tasks where the one at `index` is at this stage, with this runner in this world. -/
def staged (tasks : Tasks) (index : Nat) (stage : Stage) (world : World) (runner : Runner) :
    Tasks :=
  { tasks with session := { tasks.session.put index stage with world, runner } }

theorem staged_staged (index : Nat) (first second : Stage) (between world : World)
    (middle runner : Runner) :
    (tasks.staged index first between middle).staged index second world runner =
      tasks.staged index second world runner := by
  simp only [staged, Tasks.mk.injEq, and_true]
  have puts := Session.put_put tasks.session index first second
  simp only [Session.put, Session.mk.injEq, true_and] at puts ⊢
  exact puts

/-! ## One task at a time -/

/-- The tasks on a thread that has come to all of them. -/
def inLine (tasks : Tasks) (line : List Nat) : Lineup := ⟨tasks, [], line⟩

theorem reaches_of_go (line : List Nat) {next : Tasks} (step : Step work tasks next)
    (apart : ∀ index, (tasks.task index).isWaiting → next.task index = tasks.task index)
    (prompt : tasks.session.world.now < next.session.world.now → tasks.Awaits work) :
    Lineup.Reaches work (tasks.inLine line) (next.inLine line) :=
  .single ⟨.go next step apart, prompt⟩

/-- What takes no time can always happen. -/
theorem reaches_of_go_now (line : List Nat) {next : Tasks} (step : Step work tasks next)
    (apart : ∀ index, (tasks.task index).isWaiting → next.task index = tasks.task index)
    (now : next.session.world.now = tasks.session.world.now) :
    Lineup.Reaches work (tasks.inLine line) (next.inLine line) :=
  reaches_of_go line step apart fun later => absurd later (now ▸ Nat.lt_irrefl _)

theorem apart_of_put {index : Nat} {task : Task} (notWaiting : (tasks.task index).isWaiting = false)
    (other : Nat) (isWaiting : (tasks.task other).isWaiting) :
    (tasks.put index task).task other = tasks.task other := by
  refine task_put_of_ne tasks ?_ task
  rintro rfl
  rw [notWaiting] at isWaiting
  cases isWaiting

/-- The task waits for the lease, or is done, or there is none. -/
inductive Passive (work : Assignment) (tasks : Tasks) (index : Nat) : Prop
  | queued (since : Nat) (isQueued : tasks.task index = .queued since)
  | collected (trial : Trial) (isCollected : tasks.task index = .collected trial)
  | missing (isScheduled : tasks.task index = .scheduled) (unbound : work.files.length ≤ index)

theorem not_passive_of_scheduled {index : Nat} (isScheduled : tasks.task index = .scheduled)
    (bound : index < work.files.length) : ¬Passive work tasks index := by
  rintro (⟨since, isQueued⟩ | ⟨trial, isCollected⟩ | ⟨-, unbound⟩)
  · cases isScheduled.symm.trans isQueued
  · cases isScheduled.symm.trans isCollected
  · exact absurd bound (Nat.not_lt.mpr unbound)

/-- A task with a trial that is not collected has still to go on. -/
theorem not_passive_of_trial {index : Nat} (tried : (tasks.task index).trial?.isSome)
    (notCollected : (tasks.task index).collected? = none) : ¬Passive work tasks index := by
  rintro (⟨since, isQueued⟩ | ⟨trial, isCollected⟩ | ⟨isScheduled, -⟩)
  · rw [isQueued] at tried
    cases tried
  · rw [isCollected] at notCollected
    cases notCollected
  · rw [isScheduled] at tried
    cases tried

/-- One task has the lease, and the others are passive. -/
structure Solo (work : Assignment) (tasks : Tasks) (index : Nat) : Prop where
  bound : index < work.files.length
  isHolder : tasks.session.holder = some index
  isWorking : ∃ waiting, tasks.task index = .working waiting
  isAway : ∀ other, other ≠ index → tasks.session.stage other = .away
  passive : ∀ other, other ≠ index → Passive work tasks other

namespace Solo

theorem staged {index : Nat} (solo : Solo work tasks index) (stage : Stage) (world : World)
    (runner : Runner) : Solo work (tasks.staged index stage world runner) index where
  bound := solo.bound
  isHolder := solo.isHolder
  isWorking := solo.isWorking
  isAway other different :=
    (Session.stage_put_of_ne tasks.session different stage).trans (solo.isAway other different)
  passive other different := by
    cases solo.passive other different with
    | queued since isQueued => exact .queued since isQueued
    | collected trial isCollected => exact .collected trial isCollected
    | missing isScheduled unbound => exact .missing isScheduled unbound

theorem eq_of_present {index other : Nat} (solo : Solo work tasks index) {stage : Stage}
    (present : tasks.session.stage other = stage) (notAway : stage ≠ .away) : other = index := by
  by_contra different
  exact notAway (present.symm.trans (solo.isAway other different))

/-- A task with the lease is the only one that is past waiting and not done. -/
theorem eq_of_active {index other : Nat} (solo : Solo work tasks index)
    (active : ¬Passive work tasks other) : other = index := by
  by_contra different
  exact active (solo.passive other different)

/-- While its command goes on and nothing of it is due, everything waits. -/
theorem awaits {index : Nat} (solo : Solo work tasks index) {course : Course} {turn : Turn}
    (isBusy : tasks.session.stage index = .busy course) (turns : course.next? = some turn)
    (ahead : tasks.session.world.now < turn.instant) : tasks.Awaits work where
  notDone isDone := by
    rcases isDone index solo.bound with ⟨trial, isCollected⟩
    rcases solo.isWorking with ⟨waiting, isWorking⟩
    rw [isWorking] at isCollected
    cases isCollected
  idle next step := by
    rcases solo.isWorking with ⟨waiting, isWorking⟩
    cases step with
    | share move session isUnattended step =>
        cases step with
        | wait instant later due =>
            rcases Nat.eq_or_lt_of_le later with now | later
            · subst now
              exact .inl rfl
            · exact .inr later
        | advance client following reached world isBusyToo isLive advanced =>
            cases solo.eq_of_present isBusyToo nofun
            cases isBusy.symm.trans isBusyToo
            rcases Course.exists_turn_of_advance isLive advanced with ⟨turn, turnsToo, rfl, rfl⟩
            cases turns.symm.trans turnsToo
            refine .inr ?_
            change tasks.session.world.now < (turn.after tasks.session.world).now
            rw [Turn.now_after]
            exact Nat.lt_of_lt_of_le ahead (Nat.le_max_right _ _)
        | settle client finish runner world isOver settled =>
            cases solo.eq_of_present isOver nofun
            cases isBusy.symm.trans isOver
            cases turns
        | lease | start | refuse | drop | abortAway | abortHolder | abortLive | release | note =>
            cases isUnattended
    | queue other bound isScheduled =>
        cases solo.eq_of_active (not_passive_of_scheduled isScheduled bound)
        cases isWorking.symm.trans isScheduled
    | lease other since session isQueued step =>
        cases step with
        | lease _ isFree =>
            rw [solo.isHolder] at isFree
            cases isFree
    | start other waited file session isWorkingToo tests isFresh step =>
        cases solo.eq_of_present isFresh nofun
        cases isBusy.symm.trans isFresh
    | drop other waited file finish session isWorkingToo tests isOver step =>
        cases solo.eq_of_present isOver nofun
        cases isBusy.symm.trans isOver
    | record other trial session isExecuted =>
        cases solo.eq_of_active (not_passive_of_trial (by rw [isExecuted]; rfl)
          (by rw [isExecuted]; rfl))
        cases isWorking.symm.trans isExecuted
    | recordErrors other trial session isRecorded =>
        cases solo.eq_of_active (not_passive_of_trial (by rw [isRecorded]; rfl)
          (by rw [isRecorded]; rfl))
        cases isWorking.symm.trans isRecorded
    | collect other trial isEnded =>
        cases solo.eq_of_active (not_passive_of_trial (by rw [isEnded]; rfl)
          (by rw [isEnded]; rfl))
        cases isWorking.symm.trans isEnded

end Solo

/-! ## One command -/

theorem reaches_of_advance (line : List Nat) {index : Nat} (solo : Solo work tasks index)
    {course next : Course} {world later : World} {runner : Runner}
    (advanced : course.advance.perform world = (some next, later)) :
    Lineup.Reaches work ((tasks.staged index (.busy course) world runner).inLine line)
      ((tasks.staged index (.busy next) later runner).inLine line) := by
  have isBusy : (tasks.staged index (.busy course) world runner).session.stage index =
      .busy course := Session.stage_put_self tasks.session index _
  by_cases isLive : course.isLive
  · have step : Step work _ _ :=
      .share (.advance index) _ rfl (.advance index course next later isBusy isLive advanced)
    have going : Step work (tasks.staged index (.busy course) world runner)
        (tasks.staged index (.busy next) later runner) :=
      staged_staged index _ _ world later runner runner ▸ step
    refine reaches_of_go line going (fun _ _ => rfl) fun passes => ?_
    rcases Course.exists_turn_of_advance isLive advanced with ⟨turn, turns, rfl, rfl⟩
    refine (solo.staged _ world runner).awaits isBusy turns ?_
    change world.now < (turn.after world).now at passes
    rw [Turn.now_after] at passes
    change world.now < turn.instant
    omega
  · cases course with
    | closed finish =>
        cases advanced
        exact .refl
    | attaching => exact absurd rfl isLive
    | listening => exact absurd rfl isLive

theorem reaches_of_settle (line : List Nat) {index : Nat} {finish : Finish} {world : World}
    {runner : Runner} :
    let settled := runner.moveOrStay (Runner.stateAfter finish.result)
    Lineup.Reaches work ((tasks.staged index (.busy (.closed finish)) world runner).inLine line)
      ((tasks.staged index (.leased (some finish)) (world.noting (.move settled.state))
        settled).inLine line) := by
  intro settled
  have isOver : (tasks.staged index (.busy (.closed finish)) world runner).session.stage index =
      .busy (.closed finish) := Session.stage_put_self tasks.session index _
  have step : Step work _ _ := .share (.settle index) _ rfl
    (.settle index finish settled (world.noting (.move settled.state)) isOver rfl)
  have going : Step work (tasks.staged index (.busy (.closed finish)) world runner)
      (tasks.staged index (.leased (some finish)) (world.noting (.move settled.state)) settled) :=
    staged_staged index _ _ world _ runner settled ▸ step
  exact reaches_of_go_now line going (fun _ _ => rfl) rfl

/-- A working task executes its command as it would be executed alone. -/
theorem reaches_of_execute (line : List Nat) {index : Nat} {waiting : Duration}
    {file : SubmissionFile} {executed : Executed} {later : World} (solo : Solo work tasks index)
    (isWorking : tasks.task index = .working waiting)
    (tests : work.files[index]? = some file) (isFresh : tasks.session.stage index = .leased none)
    (executes : (tasks.session.runner.execute work.pool (work.pass.job file)).perform
      tasks.session.world = (some executed, later)) :
    Lineup.Reaches work (tasks.inLine line)
      ((tasks.staged index (.leased (some executed.toFinish)) later executed.runner).inLine
        line) := by
  rw [Runner.execute] at executes
  rcases Activity.exists_of_perform_bind executes with
    ⟨finish | ⟨executing, course⟩, world, started, ended⟩
  · cases ended
    have step : Step work tasks
        (tasks.staged index (.leased (some finish)) later tasks.session.runner) :=
      .start index waiting file _ isWorking tests isFresh
        (.refuse index _ none finish later isFresh started)
    exact reaches_of_go_now line step (fun _ _ => rfl)
      (congrArg World.now (Runner.eq_of_start_error started).1)
  · rcases Activity.exists_of_perform_bind ended with ⟨finish, settling, concluded, ended⟩
    rcases Course.exists_of_conclude concluded with ⟨middle, between, first, second⟩
    cases ended
    have step : Step work tasks (tasks.staged index (.busy course) world executing) :=
      .start index waiting file _ isWorking tests isFresh
        (.start index _ none executing course world isFresh started)
    have starts := reaches_of_go_now line step (fun _ _ => rfl) (Runner.now_of_start started)
    exact ((starts.trans (reaches_of_advance line solo first)).trans
      (reaches_of_advance line solo second)).trans (reaches_of_settle line)

/-! ## One file -/

/-- The tasks, where one task is somewhere else, and so are the clock, the log and the runner. -/
def moved (tasks : Tasks) (index : Nat) (task : Task) (world : World) (runner : Runner) : Tasks :=
  { tasks.put index task with session := { tasks.session with world, runner } }

theorem moved_put (index : Nat) (first second : Task) (between world : World)
    (middle runner : Runner) (outputs : List (Option (ScoredOutput Float))) :
    ({ (tasks.moved index first between middle).put index second with
      session := { tasks.session with world, runner }, outputs } : Tasks) =
      { tasks.moved index second world runner with outputs } := by
  simp only [moved, put, Tasks.mk.injEq, true_and, and_true]
  funext other
  split <;> rfl

theorem apart_of_moved {index : Nat} {first second : Task} {between world : World}
    {middle runner : Runner} {outputs : List (Option (ScoredOutput Float))}
    (notWaiting : first.isWaiting = false) (other : Nat)
    (isWaiting : ((tasks.moved index first between middle).task other).isWaiting) :
    ({ tasks.moved index second world runner with outputs } : Tasks).task other =
      (tasks.moved index first between middle).task other := by
  have different : other ≠ index := by
    rintro rfl
    rw [show (tasks.moved other first between middle).task other = first from
      task_put_self tasks other first, notWaiting] at isWaiting
    cases isWaiting
  exact (task_put_of_ne tasks different second).trans
    (task_put_of_ne tasks different first).symm

/-- Nobody uses the runner, and all tasks are passive. -/
structure Resting (work : Assignment) (tasks : Tasks) : Prop where
  isFree : tasks.session.holder = none
  isAway : ∀ client, tasks.session.stage client = .away
  passive : ∀ index, Passive work tasks index

/-- The first task in the line gets the lease of a free runner. -/
theorem reaches_of_lease (line : List Nat) {index since : Nat} (resting : Resting work tasks)
    (isQueued : tasks.task index = .queued since) :
    Lineup.Reaches work (tasks.inLine (index :: line))
      (({ tasks.put index
          (.working (work.pass.acquisition + ⟨tasks.session.world.now - since⟩)) with
          session := { tasks.session.put index (.leased none) with
            holder := some index } } : Tasks).inLine line) :=
  .single ⟨.lease index since line _ rfl isQueued
      (.lease index resting.isFree (resting.isAway index)),
    fun later => absurd later (Nat.lt_irrefl _)⟩

theorem reaches_of_run (line : List Nat) {index since : Nat} {file : SubmissionFile}
    {executed : Executed} {later : World} (resting : Resting work tasks)
    (isQueued : tasks.task index = .queued since) (tests : work.files[index]? = some file)
    (executes : (tasks.session.runner.execute work.pool (work.pass.job file)).perform
      tasks.session.world = (some executed, later)) :
    Lineup.Reaches work (tasks.inLine (index :: line)) ((tasks.moved index (.executed ⟨file,
      work.pass.acquisition + ⟨tasks.session.world.now - since⟩, executed.toFinish⟩) later
        executed.runner).inLine line) := by
  let waiting : Duration := work.pass.acquisition + ⟨tasks.session.world.now - since⟩
  let leased : Tasks := { tasks.put index (.working waiting) with
    session := { tasks.session.put index (.leased none) with holder := some index } }
  have isFresh : leased.session.stage index = .leased none :=
    Session.stage_put_self tasks.session index _
  have isWorking : leased.task index = .working waiting := task_put_self tasks index _
  have solo : Solo work leased index := by
    refine ⟨(List.getElem?_eq_some_iff.mp tests).1, rfl, ⟨waiting, isWorking⟩, ?_, ?_⟩
    · intro other different
      exact (Session.stage_put_of_ne tasks.session different _).trans (resting.isAway other)
    · intro other different
      have same : leased.task other = tasks.task other := task_put_of_ne tasks different _
      cases resting.passive other with
      | queued since isQueued => exact .queued since (same.trans isQueued)
      | collected trial isCollected => exact .collected trial (same.trans isCollected)
      | missing isScheduled unbound => exact .missing (same.trans isScheduled) unbound
  have execution := reaches_of_execute line solo isWorking tests isFresh executes
  let done : Tasks := leased.staged index (.leased (some executed.toFinish)) later executed.runner
  have isDone : done.session.stage index = .leased (some executed.toFinish) :=
    Session.stage_put_self leased.session index _
  have stillWorking : done.task index = .working waiting := isWorking
  have dropped : Step work done _ := .drop index waiting file executed.toFinish _ stillWorking
    tests isDone (.drop index _ isDone)
  have same : { done.put index (.executed ⟨file, waiting, executed.toFinish⟩) with
      session := done.session.leave index } =
      tasks.moved index (.executed ⟨file, waiting, executed.toFinish⟩) later executed.runner := by
    simp only [done, leased, staged, moved, put, Session.leave, Session.put, Tasks.mk.injEq,
      Session.mk.injEq, resting.isFree, and_true, true_and]
    constructor
    · funext other
      by_cases here : other = index
      · simp [here, resting.isAway index]
      · simp [here]
    · funext other
      by_cases here : other = index
      · simp [here]
      · simp [here]
  have apart : ∀ other, (done.task other).isWaiting →
      (tasks.moved index (.executed ⟨file, waiting, executed.toFinish⟩) later
        executed.runner).task other = done.task other := by
    rw [← same]
    exact apart_of_put (by rw [stillWorking]; rfl)
  rw [same] at dropped
  exact ((reaches_of_lease line resting isQueued).trans execution).trans
    (reaches_of_go_now line dropped apart rfl)

/-! ## Records -/

/-- The store of the tasks can do what the store of the grader does. -/
def Admits (work : Assignment) (grader : Grader) : Prop :=
  work.storeFails = false → ∀ history, grader.keeps history

theorem Admits.storeFails {grader : Grader} (admits : Admits work grader) {history : Log}
    (lost : ¬grader.keeps history) : work.storeFails := by
  cases fails : work.storeFails with
  | true => rfl
  | false => exact absurd (admits fails history) lost

theorem stores_of_keep {grader : Grader} (admits : Admits work grader) {testrun : Testrun}
    {world later : World} (kept : (grader.keep testrun).perform world = (some (), later))
    (session : Session) (runner : Runner) :
    work.Stores { session with world, runner } (some (.record testrun))
      { session with world := later, runner } := by
  rw [Grader.keep, Activity.perform_bind_of_some (Activity.perform_history world)] at kept
  by_cases keeps : grader.keeps world.log
  · rw [if_pos keeps] at kept
    cases kept
    exact .kept _
  · rw [if_neg keeps] at kept
    cases kept
    exact .lost _ (admits.storeFails keeps)

theorem stores_of_keepErrors {grader : Grader} (admits : Admits work grader) {trial : Trial}
    {world later : World}
    (kept : (grader.keepErrors work.pass.submissionId (trial.analysis work.pass).errors).perform
      world = (some (), later))
    (session : Session) (runner : Runner) :
    work.Stores { session with world, runner } (trial.errorsAct? work.pass)
      { session with world := later, runner } := by
  rw [Grader.keepErrors] at kept
  by_cases nothing : (trial.analysis work.pass).errors.isEmpty
  · rw [if_pos nothing] at kept
    cases kept
    rw [Trial.errorsAct?, if_pos nothing]
    exact .nothing
  · rw [if_neg nothing] at kept
    rw [Trial.errorsAct?, if_neg nothing]
    rcases Activity.exists_of_perform_bind kept with ⟨history, middle, read, kept⟩
    cases read
    by_cases keeps : grader.keeps world.log
    · rw [if_pos keeps] at kept
      cases kept
      exact .kept _
    · rw [if_neg keeps] at kept
      cases kept
      exact .lost _ (admits.storeFails keeps)

theorem now_of_stores {act : Option Act} {session later : Session}
    (stores : work.Stores session act later) : later.world.now = session.world.now := by
  cases stores <;> rfl

/-- A file that is scored alone is a task that goes on while the others wait. -/
theorem reaches_of_scoreFile (line : List Nat) {grader : Grader} (admits : Admits work grader)
    (pool : work.pool = grader.pool) {index : Nat} {file : SubmissionFile} {runner : Runner}
    {output : ScoredOutput Float} {later : World} (resting : Resting work tasks)
    (isQueued : tasks.task index = .queued work.pass.started)
    (tests : work.files[index]? = some file)
    (scored : (grader.scoreFile work.pass tasks.session.runner file).perform tasks.session.world =
      (some (runner, output), later)) :
    ∃ trial, output = trial.output work.pass ∧
      Lineup.Reaches work (tasks.inLine (index :: line))
        (({ tasks.moved index (.collected trial) later runner with
          outputs := tasks.outputs.set index (some (trial.output work.pass)) } : Tasks).inLine
            line) := by
  rw [Grader.scoreFile, Activity.perform_bind_of_some (Activity.perform_now _)] at scored
  rcases Activity.exists_of_perform_bind scored with ⟨executed, ended, executes, scored⟩
  rcases Activity.exists_of_perform_bind scored with ⟨_, recorded, kept, scored⟩
  rcases Activity.exists_of_perform_bind scored with ⟨_, classified, keptErrors, scored⟩
  cases scored
  rw [← pool] at executes
  have run := reaches_of_run line resting isQueued tests executes
  let trial : Trial := ⟨file, work.pass.acquisition +
    ⟨tasks.session.world.now - work.pass.started⟩, executed.toFinish⟩
  have here : ∀ (task : Task) (world : World),
      (tasks.moved index task world executed.runner).task index = task :=
    fun task _ => task_put_self tasks index task
  have inTurn : ∀ other last,
      (tasks.moved index (.executed trial) ended executed.runner).task other ≠ .recorded last := by
    intro other last isRecorded
    by_cases same : other = index
    · rw [same, here] at isRecorded
      cases isRecorded
    · have isRecorded := (task_put_of_ne tasks same (.executed trial)).symm.trans isRecorded
      exact not_passive_of_trial (by rw [isRecorded]; rfl) (by rw [isRecorded]; rfl)
        (resting.passive other)
  have recordStores := stores_of_keep admits kept tasks.session executed.runner
  have record : Step work (tasks.moved index (.executed trial) ended executed.runner) _ :=
    .record index trial _ (here _ _) (fun _ => inTurn) recordStores
  have keptErrors : (grader.keepErrors work.pass.submissionId
      (trial.analysis work.pass).errors).perform recorded = (some (), later) := keptErrors
  have errorsStores := stores_of_keepErrors admits keptErrors tasks.session executed.runner
  have recordErrors : Step work (tasks.moved index (.recorded trial) recorded executed.runner) _ :=
    .recordErrors index trial _ (here _ _) errorsStores
  have collect : Step work (tasks.moved index (.ended trial) later executed.runner)
      { (tasks.moved index (.ended trial) later executed.runner).put index (.collected trial) with
        session := { tasks.session with world := later, runner := executed.runner }
        outputs := tasks.outputs.set index (some (trial.output work.pass)) } :=
    .collect index trial (here _ _)
  rw [moved_put] at record recordErrors collect
  have first := reaches_of_go_now line record (apart_of_moved rfl) (now_of_stores recordStores)
  have second := reaches_of_go_now line recordErrors (apart_of_moved rfl)
    (now_of_stores errorsStores)
  have third := reaches_of_go_now line collect (apart_of_moved rfl) rfl
  exact ⟨trial, rfl, ((run.trans first).trans second).trans third⟩

/-! ## File by file -/

/-- The tasks of files that are scored in an order go on in this order. -/
theorem reaches_of_scoreFiles {grader : Grader} (admits : Admits work grader)
    (pool : work.pool = grader.pool) {order : List Nat} (nodup : order.Nodup)
    (bound : ∀ index ∈ order, index < work.files.length)
    (isQueued : ∀ index ∈ order, tasks.task index = .queued work.pass.started)
    (resting : Resting work tasks) {runner : Runner} {outputs : List (Nat × ScoredOutput Float)}
    {later : World}
    (scored : (grader.scoreFiles work.pass work.files tasks.session.runner order).perform
      tasks.session.world = (some (runner, outputs), later)) :
    ∃ done : Tasks, Lineup.Reaches work (tasks.inLine order) (done.inLine []) ∧
      done.session = { tasks.session with world := later, runner } ∧
      (∀ index ∈ order, ∃ trial, done.task index = .collected trial ∧
        outputs.lookup index = some (trial.output work.pass)) ∧
      ∀ index ∉ order, done.task index = tasks.task index ∧ outputs.lookup index = none := by
  induction order generalizing tasks runner outputs later with
  | nil =>
      cases scored
      exact ⟨tasks, .refl, rfl, nofun, fun _ _ => ⟨rfl, rfl⟩⟩
  | cons index rest induction =>
      rcases List.nodup_cons.mp nodup with ⟨notLater, nodupRest⟩
      have within := bound index List.mem_cons_self
      have tests : work.files[index]? = some work.files[index] := List.getElem?_eq_getElem within
      simp only [Grader.scoreFiles, tests] at scored
      rcases Activity.exists_of_perform_bind scored with ⟨⟨middle, output⟩, between, first, scored⟩
      rcases Activity.exists_of_perform_bind scored with ⟨⟨last, others⟩, ended, following, scored⟩
      cases scored
      rcases reaches_of_scoreFile rest admits pool resting
        (isQueued index List.mem_cons_self) tests first with ⟨trial, rfl, reaches⟩
      let after : Tasks := { tasks.moved index (.collected trial) between middle with
        outputs := tasks.outputs.set index (some (trial.output work.pass)) }
      have here : after.task index = .collected trial := task_put_self tasks index _
      have elsewhere : ∀ other, other ≠ index → after.task other = tasks.task other :=
        fun other different => task_put_of_ne tasks different _
      have different : ∀ other ∈ rest, other ≠ index :=
        fun other member same => notLater (same ▸ member)
      have stillQueued : ∀ other ∈ rest, after.task other = .queued work.pass.started := by
        intro other member
        rw [elsewhere other (different other member)]
        exact isQueued other (List.mem_cons_of_mem index member)
      have stillResting : Resting work after := by
        refine ⟨resting.isFree, resting.isAway, fun other => ?_⟩
        by_cases same : other = index
        · exact .collected trial (same ▸ here)
        · cases resting.passive other with
          | queued since isQueued => exact .queued since ((elsewhere other same).trans isQueued)
          | collected trial isCollected =>
              exact .collected trial ((elsewhere other same).trans isCollected)
          | missing isScheduled unbound =>
              exact .missing ((elsewhere other same).trans isScheduled) unbound
      rcases induction nodupRest (fun other member => bound other (List.mem_cons_of_mem _ member))
        stillQueued stillResting following with ⟨done, reachesDone, session, isDone, untouched⟩
      refine ⟨done, reaches.trans reachesDone, session, ?_, ?_⟩
      · intro other member
        by_cases same : other = index
        · subst same
          refine ⟨trial, (untouched other notLater).1.trans here, ?_⟩
          exact List.lookup_cons_self
        · rcases List.mem_cons.mp member with equal | later
          · exact absurd equal same
          · rcases isDone other later with ⟨last, collected, found⟩
            refine ⟨last, collected, ?_⟩
            rw [List.lookup_cons, beq_false_of_ne same]
            exact found
      · intro other notMember
        rcases not_or.mp (fun present => notMember (List.mem_cons.mpr present)) with
          ⟨same, notLater⟩
        rcases untouched other notLater with ⟨task, missing⟩
        refine ⟨task.trans (elsewhere other same), ?_⟩
        rw [List.lookup_cons, beq_false_of_ne same]
        exact missing

/-- The tasks where those of an order queue up for the runner. -/
def queueing (tasks : Tasks) (order : List Nat) : Tasks :=
  { tasks with
    task := fun index =>
      if index ∈ order then .queued tasks.session.world.now else tasks.task index }

/-- At first the thread comes to all tasks, and they queue up. -/
theorem reaches_of_queue (line order : List Nat) (nodup : order.Nodup)
    (bound : ∀ index ∈ order, index < work.files.length)
    (isScheduled : ∀ index ∈ order, tasks.task index = .scheduled) :
    Lineup.Reaches work ⟨tasks, order, line⟩ ⟨tasks.queueing order, [], line ++ order⟩ := by
  induction order generalizing tasks line with
  | nil =>
      have same : tasks.queueing [] = tasks := by simp [queueing]
      rw [same, List.append_nil]
      exact .refl
  | cons index rest induction =>
      rcases List.nodup_cons.mp nodup with ⟨notLater, nodupRest⟩
      let first := tasks.put index (.queued tasks.session.world.now)
      have step : Lineup.Step work ⟨tasks, index :: rest, line⟩ ⟨first, rest, line ++ [index]⟩ :=
        .queue index rest rfl (bound index List.mem_cons_self)
          (isScheduled index List.mem_cons_self)
      have stillScheduled : ∀ other ∈ rest, first.task other = .scheduled := by
        intro other member
        refine (task_put_of_ne tasks ?_ _).trans
          (isScheduled other (List.mem_cons_of_mem index member))
        rintro rfl
        exact notLater member
      have following := induction (line ++ [index]) nodupRest
        (fun other member => bound other (List.mem_cons_of_mem index member)) stillScheduled
      have same : first.queueing rest = tasks.queueing (index :: rest) := by
        simp only [queueing, first, put, Tasks.mk.injEq, true_and, and_true]
        funext other
        by_cases here : other = index
        · simp [here]
        · simp [here]
      rw [same, List.append_assoc] at following
      exact .head ⟨step, fun later => absurd later (Nat.lt_irrefl _)⟩ following

/-- When the files are scored in an order, all tasks are done in this order, with the same
outputs. -/
theorem exists_turns_of_scoreFiles {grader : Grader} (admits : Admits work grader)
    (pool : work.pool = grader.pool) {order : List Nat}
    (perm : order.Perm (List.range work.files.length)) {runner last : Runner}
    {outputs : List (Nat × ScoredOutput Float)} {world later : World}
    (started : work.pass.started = world.now)
    (scored : (grader.scoreFiles work.pass work.files runner order).perform world =
      (some (last, outputs), later)) :
    ∃ done, Lineup.Reaches work (.opening (opening work.files runner world) order) done ∧
      done.tasks.IsDone work ∧ done.tasks.session = .new later last ∧
      done.tasks.outputs = Grader.arrange work.files.length outputs := by
  have bound : ∀ index, index ∈ order ↔ index < work.files.length :=
    fun index => perm.mem_iff.trans List.mem_range
  have nodup := perm.nodup_iff.mpr List.nodup_range
  let queued := (opening work.files runner world).queueing order
  have queues : Lineup.Reaches work (.opening (opening work.files runner world) order)
      (queued.inLine order) :=
    reaches_of_queue [] order nodup (fun index => (bound index).mp) fun _ _ => rfl
  have isQueued : ∀ index ∈ order, queued.task index = .queued work.pass.started := by
    intro index member
    rw [started]
    exact if_pos member
  have resting : Resting work queued := by
    refine ⟨rfl, fun _ => rfl, fun index => ?_⟩
    by_cases member : index ∈ order
    · exact .queued _ (isQueued index member)
    · exact .missing (if_neg member) (Nat.not_lt.mp fun within => member ((bound index).mpr within))
  rcases reaches_of_scoreFiles admits pool nodup (fun index => (bound index).mp) isQueued resting
    scored with ⟨done, reaches, session, collected, -⟩
  have turns := queues.trans reaches
  refine ⟨done.inLine [], turns, ?_, session, ?_⟩
  · intro index within
    rcases collected index ((bound index).mpr within) with ⟨trial, isCollected, -⟩
    exact ⟨trial, isCollected⟩
  · have routed : done.outputs = outputsOf work done.task :=
      outputs_of_reaches (Lineup.Reaches.tasks_reaches turns)
    change done.outputs = _
    rw [routed, outputsOf, Grader.arrange]
    apply List.map_congr_left
    intro index member
    rcases collected index ((bound index).mpr (List.mem_range.mp member)) with
      ⟨trial, isCollected, found⟩
    rw [isCollected, found]
    rfl

end Tasks

namespace Grader

variable {grader : Grader} {submission : Submission} {cancellation : Option Nat}
  {world later : World}

/-- A submission that is graded file by file, in any order, is graded by tasks that a single thread
comes to in this order. -/
theorem exists_turns_of_scoreInOrder (storeFails storeMixes : Bool)
    (lossless : storeFails = false → ∀ history, grader.keeps history)
    {order : List Nat} (perm : order.Perm (List.range submission.gradableFiles.length))
    {score : SubmissionScore Float}
    (scored : (grader.scoreInOrder submission cancellation order).perform world =
      (some (.ok score), later)) :
    ∃ work opening done,
      grader.CompletesInTurn submission cancellation world work opening order done ∧
      work.storeFails = storeFails ∧ work.storeMixes = storeMixes ∧
      (done.tasks.close work submission).perform done.tasks.session.world =
        (some score, later) := by
  rw [scoreInOrder] at scored
  rcases prepared : setup submission.environment with error | ⟨setup, classifier⟩
  · rw [prepared] at scored
    cases scored
  rw [prepared] at scored
  rcases Activity.exists_of_perform_bind scored with
    ⟨error | ⟨runner, waiting⟩, opened, acquired, scored⟩
  · cases scored
  rw [Activity.perform_bind_of_some (Activity.perform_now opened)] at scored
  rcases Activity.exists_of_perform_bind scored with ⟨⟨last, outputs⟩, ended, filesScored, scored⟩
  rcases Activity.exists_of_perform_bind scored with ⟨released, between, releases, scored⟩
  rcases Activity.exists_of_perform_bind scored with ⟨total, combined, combines, scored⟩
  cases scored
  let work : Assignment := ⟨grader.pool, grader.passOf submission setup classifier
    cancellation waiting opened.now, submission.gradableFiles, storeFails, storeMixes⟩
  have admits : Tasks.Admits work grader := lossless
  rcases Tasks.exists_turns_of_scoreFiles admits rfl perm rfl filesScored with
    ⟨done, reaches, isDone, session, outputs⟩
  refine ⟨work, Tasks.opening work.files runner opened, done,
    ⟨⟨⟨setup, classifier, runner, waiting, opened, prepared, acquired, rfl, rfl⟩, rfl, rfl⟩,
      reaches, isDone⟩, rfl, rfl, ?_⟩
  rw [Tasks.close, session, outputs]
  exact (Activity.perform_bind_of_some releases).trans combines

theorem exists_run_of_scoreInOrder (storeFails storeMixes : Bool)
    (lossless : storeFails = false → ∀ history, grader.keeps history)
    {order : List Nat} (perm : order.Perm (List.range submission.gradableFiles.length))
    {score : SubmissionScore Float}
    (scored : (grader.scoreInOrder submission cancellation order).perform world =
      (some (.ok score), later)) :
    ∃ work opening done, grader.Completes submission cancellation world work opening done ∧
      work.storeFails = storeFails ∧ work.storeMixes = storeMixes ∧
      (done.close work submission).perform done.session.world = (some score, later) := by
  rcases exists_turns_of_scoreInOrder storeFails storeMixes lossless perm scored with
    ⟨work, opening, done, completes, fails, mixes, closes⟩
  exact ⟨work, opening, done.tasks, completes.completes, fails, mixes, closes⟩

end Grader

end Grading
