import Grading.Proofs.Succession

namespace Grading

/-! On one thread and on a virtual clock, the files take turns on the runner in the order in which
the thread comes to them, without a gap: when the command of one ends, that of the next one
starts. -/

/-- What is done with the runner since an instant, for which file of which task, and what the pool
was asked for. -/
inductive Engagement (work : Assignment)
    (answer : String → Answer (Except RunnerError EventStream)) (session : Session) (since : Nat) :
    Option (Nat × SubmissionFile) → List String → Prop
  | free (isFree : session.holder = none) (now : session.world.now = since) :
      Engagement work answer session since none []
  | fresh {index : Nat} {file : SubmissionFile} (isFresh : session.stage index = .leased none)
      (now : session.world.now = since) :
      Engagement work answer session since (some (index, file)) []
  | busy {index : Nat} {file : SubmissionFile} (course : Course) (finish : Finish)
      (isBusy : session.stage index = .busy course)
      (concludes : (work.pass.job file).conclusionAt? (answer (work.pass.job file).command) since =
        some finish)
      (concluded : course.conclusion? = some finish) (ahead : course.Ahead session.world.now) :
      Engagement work answer session since (some (index, file))
        ((work.pass.job file).requests since)
  | finished {index : Nat} {file : SubmissionFile} (finish : Finish)
      (isOver : session.stage index = .leased (some finish))
      (concludes : (work.pass.job file).conclusionAt? (answer (work.pass.job file).command) since =
        some finish)
      (now : session.world.now = finish.instant) :
      Engagement work answer session since (some (index, file))
        ((work.pass.job file).requests since)

namespace Engagement

variable {work : Assignment} {answer : String → Answer (Except RunnerError EventStream)}
  {session next : Session} {since : Nat} {engaged : Option (Nat × SubmissionFile)}
  {requests : List String}

theorem of_same (engagement : Engagement work answer session since engaged requests)
    (stage : next.stage = session.stage) (holder : next.holder = session.holder)
    (now : next.world.now = session.world.now) :
    Engagement work answer next since engaged requests := by
  cases engagement with
  | free isFree isNow => exact .free (holder.trans isFree) (now.trans isNow)
  | fresh isFresh isNow => exact .fresh (stage ▸ isFresh) (now.trans isNow)
  | busy course finish isBusy concludes concluded ahead =>
      exact .busy course finish (stage ▸ isBusy) concludes concluded (now.symm ▸ ahead)
  | finished finish isOver concludes isNow =>
      exact .finished finish (stage ▸ isOver) concludes (now.trans isNow)

/-- Who is engaged has something of the runner, so nobody else has. -/
theorem eq_of_present (engagement : Engagement work answer session since engaged requests)
    {before : Log} (exclusive : session.Exclusive before) {client : Nat}
    (present : session.stage client ≠ .away) : ∃ file, engaged = some (client, file) := by
  have only : ∀ {index : Nat}, session.stage index ≠ .away → index = client := by
    intro index alsoPresent
    have held := exclusive.onlyHolder client present
    have alsoHeld := exclusive.onlyHolder index alsoPresent
    exact Option.some.inj (alsoHeld.symm.trans held)
  cases engagement with
  | free isFree => exact absurd (exclusive.eq_away_of_free isFree client) present
  | fresh isFresh =>
      cases only (by rw [isFresh]; exact nofun)
      exact ⟨_, rfl⟩
  | busy course finish isBusy =>
      cases only (by rw [isBusy]; exact nofun)
      exact ⟨_, rfl⟩
  | finished finish isOver =>
      cases only (by rw [isOver]; exact nofun)
      exact ⟨_, rfl⟩

end Engagement

/-- The visits that are over follow each other until `since`, when the runner was engaged in what it
does now, and the other tasks wait in the order. -/
structure InTurn (work : Assignment)
    (answer : String → Answer (Except RunnerError EventStream)) (before : Log) (order : List Nat)
    (lineup : Lineup) (visits : List Visit) (since : Nat) (engaged : Option (Nat × SubmissionFile))
    (requests : List String) : Prop where
  succession : Succession work answer work.pass.started visits since
  tried : ∀ visit ∈ visits, (lineup.tasks.task visit.index).trial? = some visit.trial
  working : ∀ index file, engaged = some (index, file) → work.files[index]? = some file ∧
    lineup.tasks.task index = .working (work.pass.acquisition + ⟨since - work.pass.started⟩)
  engagement : Engagement work answer lineup.tasks.session since engaged requests
  ordered : visits.map Visit.index ++ engaged.toList.map Prod.fst ++ lineup.line ++ lineup.fresh =
    order
  queued : ∀ index ∈ lineup.line, lineup.tasks.task index = .queued work.pass.started
  scheduled : ∀ index ∈ lineup.fresh, lineup.tasks.task index = .scheduled
  early : lineup.fresh ≠ [] → lineup.tasks.session.world.now = work.pass.started
  asked : lineup.tasks.session.world.log.requests = before.requests ++
    visits.flatMap (fun visit => (visit.job work).requests visit.start) ++ requests

namespace InTurn

variable {work : Assignment} {answer : String → Answer (Except RunnerError EventStream)}
  {before : Log} {order : List Nat} {lineup next : Lineup} {visits : List Visit} {since : Nat}
  {engaged : Option (Nat × SubmissionFile)} {requests : List String}

theorem opening {runner : Runner} {world : World} (started : work.pass.started = world.now) :
    InTurn work answer world.log order (.opening (.opening work.files runner world) order) []
      work.pass.started none [] where
  succession := .nil _
  tried _ member := absurd member List.not_mem_nil
  working _ _ same := nomatch same
  engagement := .free rfl started.symm
  ordered := rfl
  queued _ member := absurd member List.not_mem_nil
  scheduled _ _ := rfl
  early _ := started.symm
  asked := by
    simp only [List.flatMap_nil, List.append_nil]
    rfl

/-- The runner can be used by who is engaged. -/
theorem use (inTurn : InTurn work answer before order lineup visits since engaged requests)
    {session : Session} {asked : List String}
    (engagement : Engagement work answer session since engaged asked)
    (log : session.world.log.requests = before.requests ++
      visits.flatMap (fun visit => (visit.job work).requests visit.start) ++ asked)
    (early : lineup.fresh ≠ [] → session.world.now = work.pass.started) :
    InTurn work answer before order { lineup with tasks := { lineup.tasks with session } } visits
      since engaged asked :=
  { inTurn with engagement, early, asked := log }

/-- A task whose trial is over can go on. -/
theorem put (inTurn : InTurn work answer before order lineup visits since engaged requests)
    {index : Nat} {task : Task} {trial : Trial} {session : Session}
    (tried : (lineup.tasks.task index).trial? = some trial) (same : task.trial? = some trial)
    (stage : session.stage = lineup.tasks.session.stage)
    (holder : session.holder = lineup.tasks.session.holder)
    (now : session.world.now = lineup.tasks.session.world.now)
    (log : session.world.log.requests = lineup.tasks.session.world.log.requests)
    (outputs : List (Option (ScoredOutput Float))) :
    InTurn work answer before order
      { lineup with tasks := { lineup.tasks.put index task with session, outputs } } visits since
      engaged requests where
  succession := inTurn.succession
  tried visit member := by
    have triedBefore := inTurn.tried visit member
    by_cases here : visit.index = index
    · rw [here] at triedBefore ⊢
      change ((lineup.tasks.put index task).task index).trial? = _
      rw [Tasks.task_put_self, same, ← tried, triedBefore]
    · exact (congrArg Task.trial? (Tasks.task_put_of_ne lineup.tasks here task)).trans triedBefore
  working other file isEngaged := by
    rcases inTurn.working other file isEngaged with ⟨tests, isWorking⟩
    have different : other ≠ index := by
      rintro rfl
      rw [isWorking] at tried
      cases tried
    exact ⟨tests, (Tasks.task_put_of_ne lineup.tasks different task).trans isWorking⟩
  engagement := inTurn.engagement.of_same stage holder now
  ordered := inTurn.ordered
  queued other member := by
    have isQueued := inTurn.queued other member
    have different : other ≠ index := by
      rintro rfl
      rw [isQueued] at tried
      cases tried
    exact (Tasks.task_put_of_ne lineup.tasks different task).trans isQueued
  scheduled other member := by
    have isScheduled := inTurn.scheduled other member
    have different : other ≠ index := by
      rintro rfl
      rw [isScheduled] at tried
      cases tried
    exact (Tasks.task_put_of_ne lineup.tasks different task).trans isScheduled
  early isFresh := now.trans (inTurn.early isFresh)
  asked := log.trans inTurn.asked

/-- A task that is put somewhere else does not concern those that are not where it was. -/
theorem task_put_of_eq {tasks : Tasks} {index other : Nat} {was is task : Task}
    (here : tasks.task index = was) (there : tasks.task other = is) (different : is ≠ was) :
    (tasks.put index task).task other = is := by
  have apart : other ≠ index := by
    rintro rfl
    exact different (there.symm.trans here)
  exact (Tasks.task_put_of_ne tasks apart task).trans there

theorem trial?_put_of_none {tasks : Tasks} {index other : Nat} {task : Task} {trial : Trial}
    (untried : (tasks.task index).trial? = none) (tried : (tasks.task other).trial? = some trial) :
    ((tasks.put index task).task other).trial? = some trial := by
  have apart : other ≠ index := by
    rintro rfl
    rw [untried] at tried
    cases tried
  exact (congrArg Task.trial? (Tasks.task_put_of_ne tasks apart task)).trans tried

theorem queue (inTurn : InTurn work answer before order lineup visits since engaged requests)
    (nodup : order.Nodup) {index : Nat} {rest : List Nat} (isNext : lineup.fresh = index :: rest) :
    InTurn work answer before order
      ⟨lineup.tasks.put index (.queued lineup.tasks.session.world.now), rest,
        lineup.line ++ [index]⟩ visits since engaged requests := by
  have isScheduled := inTurn.scheduled index (by rw [isNext]; exact List.mem_cons_self)
  have now := inTurn.early (by rw [isNext]; exact List.cons_ne_nil _ _)
  have ordered := inTurn.ordered
  rw [isNext] at ordered
  have notLater : index ∉ rest := by
    rw [← ordered] at nodup
    exact (List.nodup_cons.mp nodup.of_append_right).1
  exact {
    succession := inTurn.succession
    tried := fun visit member =>
      trial?_put_of_none (by rw [isScheduled]; rfl) (inTurn.tried visit member)
    working := by
      intro other file isEngaged
      rcases inTurn.working other file isEngaged with ⟨tests, isWorking⟩
      exact ⟨tests, task_put_of_eq isScheduled isWorking nofun⟩
    engagement := inTurn.engagement
    ordered := by simpa using ordered
    queued := by
      intro other member
      rcases List.mem_append.mp member with earlier | last
      · exact task_put_of_eq isScheduled (inTurn.queued other earlier) nofun
      · rw [List.mem_singleton.mp last, ← now]
        exact Tasks.task_put_self lineup.tasks index _
    scheduled := by
      intro other member
      have different : other ≠ index := by
        rintro rfl
        exact notLater member
      refine (Tasks.task_put_of_ne lineup.tasks different _).trans (inTurn.scheduled other ?_)
      rw [isNext]
      exact List.mem_cons_of_mem index member
    early := fun _ => now
    asked := inTurn.asked }

theorem lease (inTurn : InTurn work answer before order lineup visits since engaged requests)
    (nodup : order.Nodup) (bound : ∀ index ∈ order, index < work.files.length) {log : Log}
    (exclusive : lineup.tasks.session.Exclusive log) {index queuedAt : Nat} {rest : List Nat}
    {session : Session} (isFirst : lineup.line = index :: rest)
    (isQueued : lineup.tasks.task index = .queued queuedAt)
    (step : Session.Step work.pool lineup.tasks.session (.lease index) session) :
    ∃ file, InTurn work answer before order
      ⟨{ lineup.tasks.put index (.working
          (work.pass.acquisition + ⟨lineup.tasks.session.world.now - queuedAt⟩)) with session },
        lineup.fresh, rest⟩ visits since (some (index, file)) [] := by
  have ordered := inTurn.ordered
  have engagement := inTurn.engagement
  have asked := inTurn.asked
  have queued := inTurn.queued
  rw [isFirst] at ordered queued
  cases isQueued.symm.trans (queued index List.mem_cons_self)
  have within : index < work.files.length := bound index (by simp [← ordered])
  have notLater : index ∉ rest := by
    rw [← ordered, List.append_assoc] at nodup
    exact (List.nodup_cons.mp nodup.of_append_right).1 ∘ List.mem_append_left _
  cases step with
  | lease _ isFree =>
      have nobody : engaged = none ∧ requests = [] ∧ lineup.tasks.session.world.now = since := by
        cases engagement with
        | free _ now => exact ⟨rfl, rfl, now⟩
        | fresh isFresh =>
            cases isFree.symm.trans (exclusive.onlyHolder _ (by rw [isFresh]; exact nofun))
        | busy course finish isBusy =>
            cases isFree.symm.trans (exclusive.onlyHolder _ (by rw [isBusy]; exact nofun))
        | finished finish isOver =>
            cases isFree.symm.trans (exclusive.onlyHolder _ (by rw [isOver]; exact nofun))
      rcases nobody with ⟨rfl, rfl, now⟩
      refine ⟨work.files[index], ?_⟩
      exact {
        succession := inTurn.succession
        tried := fun visit member =>
          trial?_put_of_none (by rw [isQueued]; rfl) (inTurn.tried visit member)
        working := by
          rintro other file ⟨⟩
          refine ⟨List.getElem?_eq_getElem within, ?_⟩
          rw [← now]
          exact Tasks.task_put_self lineup.tasks index _
        engagement := .fresh (Session.stage_put_self lineup.tasks.session index _) now
        ordered := by simpa using ordered
        queued := by
          intro other member
          have different : other ≠ index := by
            rintro rfl
            exact notLater member
          exact (Tasks.task_put_of_ne lineup.tasks different _).trans
            (queued other (List.mem_cons_of_mem index member))
        scheduled := fun other member =>
          task_put_of_eq isQueued (inTurn.scheduled other member) nofun
        early := inTurn.early
        asked := asked }

/-- While something is awaited, the thread has come to all tasks. -/
theorem fresh_eq_nil (inTurn : InTurn work answer before order lineup visits since engaged requests)
    (bound : ∀ index ∈ order, index < work.files.length) (awaits : lineup.tasks.Awaits work) :
    lineup.fresh = [] := by
  cases isFresh : lineup.fresh with
  | nil => rfl
  | cons index rest =>
      have isScheduled := inTurn.scheduled index (by rw [isFresh]; exact List.mem_cons_self)
      have within := bound index (by simp [← inTurn.ordered, isFresh])
      exact absurd isScheduled (awaits.not_scheduled within)

theorem wait (inTurn : InTurn work answer before order lineup visits since engaged requests)
    (bound : ∀ index ∈ order, index < work.files.length) {log : Log}
    (exclusive : lineup.tasks.session.Exclusive log) (coherent : lineup.tasks.Coherent work)
    {instant : Nat} (later : lineup.tasks.session.world.now ≤ instant)
    (due : ∀ client course turn, lineup.tasks.session.stage client = .busy course →
      course.next? = some turn → instant ≤ turn.instant)
    (prompt : lineup.tasks.session.world.now < instant → lineup.tasks.Awaits work) :
    InTurn work answer before order
      { lineup with tasks := { lineup.tasks with
        session := { lineup.tasks.session with world.now := instant } } } visits since engaged
      requests := by
  rcases Nat.eq_or_lt_of_le later with now | passes
  · subst now
    exact inTurn
  have awaits := prompt passes
  rcases awaits.exists_turn coherent with ⟨client, course, turn, isBusy, turns, -⟩
  rcases inTurn.engagement.eq_of_present exclusive (by rw [isBusy]; exact nofun) with ⟨file, rfl⟩
  refine inTurn.use ?_ inTurn.asked fun isFresh =>
    absurd (inTurn.fresh_eq_nil bound awaits) isFresh
  cases inTurn.engagement with
  | fresh isFresh => cases isBusy.symm.trans isFresh
  | finished finish isOver => cases isBusy.symm.trans isOver
  | busy other finish isBusyToo concludes concluded ahead =>
      cases isBusy.symm.trans isBusyToo
      refine .busy course finish isBusy concludes concluded ⟨?_, ?_, ahead.unreceived⟩
      · exact fun turn => due client course turn isBusy
      · rintro finish rfl
        cases turns

theorem advance (inTurn : InTurn work answer before order lineup visits since engaged requests)
    (bound : ∀ index ∈ order, index < work.files.length) {log : Log}
    (exclusive : lineup.tasks.session.Exclusive log) {client : Nat} {course : Course} {turn : Turn}
    (isBusy : lineup.tasks.session.stage client = .busy course) (turns : course.next? = some turn)
    (prompt : lineup.tasks.session.world.now < max lineup.tasks.session.world.now turn.instant →
      lineup.tasks.Awaits work) :
    InTurn work answer before order
      { lineup with tasks := { lineup.tasks with
        session := { lineup.tasks.session.put client (.busy turn.course) with
          world := turn.after lineup.tasks.session.world } } } visits since engaged requests := by
  rcases inTurn.engagement.eq_of_present exclusive (by rw [isBusy]; exact nofun) with ⟨file, rfl⟩
  refine inTurn.use ?_ ((Log.requests_of_turn turns _).trans inTurn.asked) ?_
  · cases inTurn.engagement with
    | fresh isFresh => cases isBusy.symm.trans isFresh
    | finished finish isOver => cases isBusy.symm.trans isOver
    | busy other finish isBusyToo concludes concluded ahead =>
        cases isBusy.symm.trans isBusyToo
        refine .busy turn.course finish (Session.stage_put_self _ client _) concludes
          ((Course.conclusion?_of_next? turns).trans concluded) ?_
        change turn.course.Ahead (turn.after lineup.tasks.session.world).now
        rw [Turn.now_after, Nat.max_eq_right (ahead.due turn turns)]
        exact ahead.next turns
  · intro isFresh
    change (turn.after lineup.tasks.session.world).now = _
    rw [Turn.now_after, ← inTurn.early isFresh]
    by_contra passes
    have awaits := prompt (by omega)
    exact isFresh (inTurn.fresh_eq_nil bound awaits)

theorem settle (inTurn : InTurn work answer before order lineup visits since engaged requests)
    {log : Log} (exclusive : lineup.tasks.session.Exclusive log) {client : Nat} {finish : Finish}
    (isOver : lineup.tasks.session.stage client = .busy (.closed finish)) {runner : Runner}
    (state : RunnerState) :
    InTurn work answer before order
      { lineup with tasks := { lineup.tasks with
        session := { lineup.tasks.session.put client (.leased (some finish)) with
          world := lineup.tasks.session.world.noting (.move state), runner } } } visits since
      engaged requests := by
  rcases inTurn.engagement.eq_of_present exclusive (by rw [isOver]; exact nofun) with ⟨file, rfl⟩
  have log : (lineup.tasks.session.world.noting (.move state)).log.requests =
      lineup.tasks.session.world.log.requests := Log.requests_append_entry _ nofun
  refine inTurn.use ?_ (log.trans inTurn.asked) inTurn.early
  cases inTurn.engagement with
  | fresh isFresh => cases isOver.symm.trans isFresh
  | finished last isOverToo => cases isOver.symm.trans isOverToo
  | busy course last isBusy concludes concluded ahead =>
      cases isOver.symm.trans isBusy
      cases concluded
      exact .finished finish (Session.stage_put_self _ client _) concludes
        (ahead.closes finish rfl).symm

theorem start {scripted : ScriptedPool} (isScripted : work.pool = scripted.toPool)
    (inTurn : InTurn work scripted.answer before order lineup visits since engaged requests)
    {log : Log} (exclusive : lineup.tasks.session.Exclusive log) (fit : lineup.tasks.session.Fit)
    {index : Nat} {file : SubmissionFile} {session : Session}
    (tests : work.files[index]? = some file)
    (isFresh : lineup.tasks.session.stage index = .leased none)
    (step : Session.Step work.pool lineup.tasks.session (.start index (work.pass.job file))
      session) :
    InTurn work scripted.answer before order
      { lineup with tasks := { lineup.tasks with session } } visits since engaged
      ((work.pass.job file).requests since) := by
  rcases inTurn.engagement.eq_of_present exclusive (by rw [isFresh]; exact nofun) with ⟨_, rfl⟩
  cases tests.symm.trans (inTurn.working index _ rfl).1
  have unasked : requests = [] ∧ lineup.tasks.session.world.now = since := by
    cases inTurn.engagement with
    | fresh _ now => exact ⟨rfl, now⟩
    | busy course finish isBusy => cases isFresh.symm.trans isBusy
    | finished finish isOver => cases isFresh.symm.trans isOver
  rcases unasked with ⟨rfl, now⟩
  have movable := fit.canMove_of_leased exclusive isFresh
  have idle := exclusive.live_executing_eq_zero isFresh
  cases step with
  | refuse _ _ last finish world hasLease refused =>
      rcases Runner.eq_of_start_error refused with ⟨-, source, notMoved, -⟩
      rw [Runner.move, if_pos movable] at notMoved
      cases notMoved
  | start _ _ last runner course world hasLease started =>
      rcases Runner.exists_conclusion?_of_start rfl started with ⟨finish, concluded⟩
      have concludes := Runner.conclusion?_of_start rfl started
      rw [isScripted] at concludes
      change _ = (work.pass.job file).conclusionAt? (scripted.attachment _ _ _) _ at concludes
      rw [scripted.attachment_of_idle idle, concluded, now] at concludes
      have asked := Log.requests_of_start started
      refine inTurn.use (.busy course finish (Session.stage_put_self _ index _) concludes.symm
        concluded ?_) ?_ ?_
      · change course.Ahead world.now
        rw [Runner.now_of_start started]
        exact .of_start rfl started
      · change world.log.requests = _
        rw [asked, inTurn.asked, now, List.append_nil]
      · intro isFresh
        exact (Runner.now_of_start started).trans (inTurn.early isFresh)

theorem drop (inTurn : InTurn work answer before order lineup visits since engaged requests)
    {log : Log} (exclusive : lineup.tasks.session.Exclusive log) {index : Nat}
    {waiting : Duration} {file : SubmissionFile} {finish : Finish}
    (isWorking : lineup.tasks.task index = .working waiting)
    (tests : work.files[index]? = some file)
    (isOver : lineup.tasks.session.stage index = .leased (some finish)) :
    InTurn work answer before order
      { lineup with tasks := { lineup.tasks.put index (.executed ⟨file, waiting, finish⟩) with
        session := lineup.tasks.session.leave index } }
      (visits ++ [⟨index, since, ⟨file, waiting, finish⟩⟩]) finish.instant none [] := by
  rcases inTurn.engagement.eq_of_present exclusive (by rw [isOver]; exact nofun) with ⟨_, rfl⟩
  cases tests.symm.trans (inTurn.working index _ rfl).1
  cases isWorking.symm.trans (inTurn.working index _ rfl).2
  have concluded : (work.pass.job file).conclusionAt? (answer (work.pass.job file).command) since =
      some finish ∧ lineup.tasks.session.world.now = finish.instant ∧
        requests = (work.pass.job file).requests since := by
    cases inTurn.engagement with
    | fresh isFresh => cases isOver.symm.trans isFresh
    | busy course last isBusy => cases isOver.symm.trans isBusy
    | finished last isOverToo concludes now =>
        cases isOver.symm.trans isOverToo
        exact ⟨concludes, now, rfl⟩
  rcases concluded with ⟨concludes, now, rfl⟩
  have ordered := inTurn.ordered
  have apart : ∀ {other : Nat} {is : Task} {task : Task}, lineup.tasks.task other = is →
      is ≠ .working (work.pass.acquisition + ⟨since - work.pass.started⟩) →
      (lineup.tasks.put index task).task other = is := fun there => task_put_of_eq isWorking there
  exact {
    succession := inTurn.succession.concat ⟨tests, rfl, concludes⟩ rfl
    tried := by
      intro other member
      rcases List.mem_append.mp member with earlier | last
      · exact trial?_put_of_none (by rw [isWorking]; rfl) (inTurn.tried other earlier)
      · rw [List.mem_singleton.mp last]
        exact congrArg Task.trial? (Tasks.task_put_self lineup.tasks index _)
    working := nofun
    engagement := .free rfl now
    ordered := by simpa using ordered
    queued := fun other member => apart (inTurn.queued other member) nofun
    scheduled := fun other member => apart (inTurn.scheduled other member) nofun
    early := inTurn.early
    asked := by
      rw [List.flatMap_append, List.append_nil, ← List.append_assoc]
      refine inTurn.asked.trans ?_
      simp [Visit.job] }

/-- Storing is no request. -/
theorem requests_of_stores {session later : Session} {act : Option Act}
    (isBookkeeping : ∀ other, act = some other → other.isBookkeeping)
    (stores : work.Stores session act later) :
    later.world.log.requests = session.world.log.requests := by
  cases stores with
  | nothing | lost => rfl
  | kept other =>
      apply Log.requests_append_entry
      intro command same
      have noted := isBookkeeping other rfl
      cases (same : other = .attach command)
      cases noted

theorem store (inTurn : InTurn work answer before order lineup visits since engaged requests)
    {index : Nat} {task : Task} {trial : Trial} {act : Option Act} {session : Session}
    (tried : (lineup.tasks.task index).trial? = some trial) (same : task.trial? = some trial)
    (isBookkeeping : ∀ other, act = some other → other.isBookkeeping)
    (stores : work.Stores lineup.tasks.session act session) :
    InTurn work answer before order
      { lineup with tasks := { lineup.tasks.put index task with session } } visits since engaged
      requests := by
  rcases Tasks.stage_of_stores stores with ⟨stage, holder, -⟩
  exact inTurn.put tried same stage holder (Tasks.now_of_stores stores)
    (requests_of_stores isBookkeeping stores) _

/-- Whatever happens, the files stay in turn. -/
theorem step {scripted : ScriptedPool} (isScripted : work.pool = scripted.toPool)
    (inTurn : InTurn work scripted.answer before order lineup visits since engaged requests)
    (nodup : order.Nodup) (bound : ∀ index ∈ order, index < work.files.length) {log : Log}
    (exclusive : lineup.tasks.session.Exclusive log) (fit : lineup.tasks.session.Fit)
    (coherent : lineup.tasks.Coherent work) (step : Lineup.Step work lineup next)
    (prompt : Lineup.Prompt work lineup next) :
    ∃ visits since engaged requests,
      InTurn work scripted.answer before order next visits since engaged requests := by
  cases step with
  | queue index rest isNext => exact ⟨_, _, _, _, inTurn.queue nodup isNext⟩
  | lease index queuedAt rest session isFirst isQueued step =>
      rcases inTurn.lease nodup bound exclusive isFirst isQueued step with ⟨file, leased⟩
      exact ⟨_, _, _, _, leased⟩
  | go next step apart =>
      cases step with
      | queue index within isScheduled =>
          have kept := apart index (by rw [isScheduled]; rfl)
          rw [Tasks.task_put_self, isScheduled] at kept
          cases kept
      | lease index queuedAt session isQueued step =>
          have kept := apart index (by rw [isQueued]; rfl)
          change (lineup.tasks.put index _).task index = _ at kept
          rw [Tasks.task_put_self, isQueued] at kept
          cases kept
      | share move session isUnattended step =>
          cases step with
          | wait instant later due =>
              exact ⟨_, _, _, _, inTurn.wait bound exclusive coherent later due prompt⟩
          | advance client course following world isBusy isLive advanced =>
              rcases Course.exists_turn_of_advance isLive advanced with ⟨turn, turns, rfl, rfl⟩
              refine ⟨_, _, _, _, inTurn.advance bound exclusive isBusy turns fun passes => ?_⟩
              exact prompt (passes.trans_eq (Turn.now_after turn _).symm)
          | settle client finish runner world isOver settled =>
              cases settled
              exact ⟨_, _, _, _, inTurn.settle exclusive isOver _⟩
          | lease | start | refuse | drop | abortAway | abortHolder | abortLive | release | note =>
              cases isUnattended
      | start index waiting file session isWorking tests isFresh step =>
          exact ⟨_, _, _, _, inTurn.start isScripted exclusive fit tests isFresh step⟩
      | drop index waiting file finish session isWorking tests isOver step =>
          cases step
          exact ⟨_, _, _, _, inTurn.drop exclusive isWorking tests isOver⟩
      | record index trial session isExecuted inOrder stores =>
          refine ⟨_, _, _, _, inTurn.store (by rw [isExecuted]; rfl) rfl ?_ stores⟩
          rintro other ⟨⟩
          rfl
      | recordErrors index trial session isRecorded stores =>
          exact ⟨_, _, _, _, inTurn.store (by rw [isRecorded]; rfl) rfl
            (fun _ => Tasks.isBookkeeping_of_errorsAct?) stores⟩
      | collect index trial isEnded =>
          exact ⟨_, _, _, _, inTurn.put (by rw [isEnded]; rfl) rfl rfl rfl rfl rfl _⟩

end InTurn

/-- However the tasks go on that a single thread comes to in an order, they stay in turn. -/
theorem Lineup.Reaches.exists_inTurn {work : Assignment} {scripted : ScriptedPool}
    (isScripted : work.pool = scripted.toPool) {runner : Runner} {world : World}
    (idle : world.log.live = 0) (ready : runner.state.canMove .executing)
    (started : work.pass.started = world.now) {order : List Nat}
    (perm : order.Perm (List.range work.files.length)) {lineup : Lineup}
    (reaches : Lineup.Reaches work (.opening (.opening work.files runner world) order) lineup) :
    ∃ visits since engaged requests,
      InTurn work scripted.answer world.log order lineup visits since engaged requests := by
  have nodup := perm.nodup_iff.mpr List.nodup_range
  have bound : ∀ index ∈ order, index < work.files.length :=
    fun index member => List.mem_range.mp (perm.mem_iff.mp member)
  induction reaches with
  | refl => exact ⟨[], _, none, [], .opening started⟩
  | tail earlier step induction =>
      rcases induction with ⟨visits, since, engaged, requests, inTurn⟩
      have before := Lineup.Reaches.tasks_reaches earlier
      rcases Tasks.exclusive_and_fit_of_reaches idle ready before with ⟨exclusive, fit⟩
      exact inTurn.step isScripted nodup bound exclusive fit
        ((Tasks.Coherent.opening runner world).reaches before) step.1 step.2

namespace InTurn

/-- When all tasks are done, all files have had their turn, in the order. -/
theorem of_isDone {work : Assignment} {answer : String → Answer (Except RunnerError EventStream)}
    {before : Log} {order : List Nat} {lineup : Lineup} {visits : List Visit} {since : Nat}
    {engaged : Option (Nat × SubmissionFile)} {requests : List String}
    (inTurn : InTurn work answer before order lineup visits since engaged requests)
    (bound : ∀ index ∈ order, index < work.files.length) (isDone : lineup.tasks.IsDone work) :
    visits.map Visit.index = order ∧ lineup.tasks.session.holder = none ∧
      (∀ visit ∈ visits, lineup.tasks.task visit.index = .collected visit.trial) ∧
      lineup.tasks.session.world.log.requests = before.requests ++
        visits.flatMap fun visit => (visit.job work).requests visit.start := by
  have done : ∀ index ∈ order, ∀ task, lineup.tasks.task index = task →
      ∃ trial, task = .collected trial := by
    rintro index member task rfl
    exact isDone index (bound index member)
  have ordered := inTurn.ordered
  have nobody : engaged = none := by
    cases engaged with
    | none => rfl
    | some engaged =>
        rcases done engaged.1 (by simp [← ordered]) _
          (inTurn.working engaged.1 engaged.2 rfl).2 with ⟨trial, same⟩
        cases same
  have empty : lineup.line = [] ∧ lineup.fresh = [] := by
    constructor
    · apply List.eq_nil_iff_forall_not_mem.mpr
      intro index member
      rcases done index (by simp [← ordered, member]) _ (inTurn.queued index member) with
        ⟨trial, same⟩
      cases same
    · apply List.eq_nil_iff_forall_not_mem.mpr
      intro index member
      rcases done index (by simp [← ordered, member]) _ (inTurn.scheduled index member) with
        ⟨trial, same⟩
      cases same
  subst nobody
  have visited : visits.map Visit.index = order := by
    simpa [empty.1, empty.2] using ordered
  refine ⟨visited, ?_, ?_, ?_⟩
  · cases inTurn.engagement with
    | free isFree => exact isFree
  · intro visit member
    rcases isDone visit.index (bound _ (visited ▸ List.mem_map_of_mem member)) with
      ⟨trial, isCollected⟩
    have tried := inTurn.tried visit member
    rw [isCollected] at tried
    cases tried
    exact isCollected
  · have asked := inTurn.asked
    cases inTurn.engagement with
    | free => rwa [List.append_nil] at asked

end InTurn

/-! ## Passes -/

namespace Grader.CompletesInTurn

variable {grader : Grader} {scripted : ScriptedPool} {submission : Submission}
  {cancellation : Option Nat} {world : World} {work : Assignment} {opening : Tasks}
  {order : List Nat} {done : Lineup}

/-- The visits of a pass on a scripted pool, and what the pool was asked for. -/
theorem exists_visits
    (completes : grader.CompletesInTurn submission cancellation world work opening order done)
    (isScripted : grader.pool = scripted.toPool) (provides : scripted.acquireError = none)
    (idle : world.log.live = 0)
    (perm : order.Perm (List.range submission.gradableFiles.length)) :
    ∃ visits last, Succession work scripted.answer work.pass.started visits last ∧
      visits.map Visit.index = order ∧
      (∀ visit ∈ visits, done.tasks.task visit.index = .collected visit.trial) ∧
      done.tasks.session.world.log.requests = world.log.requests ++
        visits.flatMap fun visit => (visit.job work).requests visit.start := by
  have opens := completes.opens
  rcases opens.exists_ready isScripted provides with ⟨setup, classifier, -, pass, rfl⟩
  rw [← opens.files] at perm
  have bound : ∀ index ∈ order, index < work.files.length :=
    fun index member => List.mem_range.mp (perm.mem_iff.mp member)
  have started : work.pass.started = (readyWorld scripted submission world).now := by
    rw [pass]
    rfl
  have ready : (readyWorld scripted submission world).log.live = 0 :=
    (live_readyWorld scripted submission world).trans idle
  rcases Lineup.Reaches.exists_inTurn (opens.pool.trans isScripted) ready rfl started perm
    completes.reaches with ⟨visits, since, engaged, requests, inTurn⟩
  rcases inTurn.of_isDone bound completes.isDone with ⟨visited, -, collected, asked⟩
  refine ⟨visits, since, inTurn.succession, visited, collected, ?_⟩
  have acquiring : (readyWorld scripted submission world).log.requests = world.log.requests := by
    apply Log.requests_append_of_unasked
    intro act member command
    rcases List.mem_cons.mp member with rfl | member
    · exact nofun
    · rw [List.mem_singleton.mp member]
      exact nofun
  rw [asked, acquiring]

/-- Where the files are visited in their order, their outputs are those of the visits. -/
theorem outputs_eq
    (completes : grader.CompletesInTurn submission cancellation world work opening order done)
    {visits : List Visit} (visited : visits.map Visit.index = List.range work.files.length)
    (collected : ∀ visit ∈ visits, done.tasks.task visit.index = .collected visit.trial) :
    done.tasks.outputs = (visits.map fun visit => visit.trial.output work.pass).map some := by
  rcases completes.opens.prepared with ⟨_, _, runner, waiting, later, -, -, -, rfl⟩
  rw [Tasks.outputs_of_reaches (Lineup.Reaches.tasks_reaches completes.reaches), Tasks.outputsOf,
    ← visited, List.map_map, List.map_map]
  apply List.map_congr_left
  intro visit member
  simp only [Function.comp_apply, collected visit member, Task.collected?, Option.map_some]

end Grader.CompletesInTurn

end Grading
