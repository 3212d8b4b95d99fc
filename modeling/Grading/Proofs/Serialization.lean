import Grading.Pool.Scripted
import Grading.Session
import Mathlib.Tactic.ByContra

namespace Grading.Session

/-! Commands on a shared runner are serialized. Whatever its clients do and however their commands
end, only the holder of the lease has a command that is attached or listened to, and the log counts
the same. So a scripted pool never has a command to refuse because of another one. -/

variable {pool : Pool} {before : Log} {session next : Session}

/-! ## One command at a time -/

/-- Only the holder of the lease has anything of the runner, and the log, which was `before` at
first, counts its command as long as it is live. -/
structure Exclusive (before : Log) (session : Session) : Prop where
  onlyHolder : ∀ client, session.stage client ≠ .away → session.holder = some client
  live : ∀ client, (session.stage client).isLive → session.world.log.live = 1
  idle : (∀ client, (session.stage client).isLive = false) → session.world.log.live = 0
  peak : session.world.log.peak ≤ max before.peak 1

theorem Exclusive.new {world : World} (idle : world.log.live = 0) (runner : Runner) :
    Exclusive world.log (new world runner) where
  onlyHolder _ present := absurd rfl present
  live _ isLive := nomatch isLive
  idle _ := idle
  peak := Nat.le_max_left _ _

namespace Exclusive

theorem eq_away (exclusive : Exclusive before session) {client other : Nat}
    (present : session.stage client ≠ .away) (different : other ≠ client) :
    session.stage other = .away := by
  by_contra alsoPresent
  have held := exclusive.onlyHolder client present
  have alsoHeld := exclusive.onlyHolder other alsoPresent
  exact different (Option.some.inj (alsoHeld.symm.trans held))

theorem eq_away_of_free (exclusive : Exclusive before session) (isFree : session.holder = none)
    (client : Nat) : session.stage client = .away := by
  by_contra present
  have held := exclusive.onlyHolder client present
  rw [isFree] at held
  cases held

theorem live_eq_zero (exclusive : Exclusive before session) {client : Nat}
    (present : session.stage client ≠ .away) (notLive : (session.stage client).isLive = false) :
    session.world.log.live = 0 := by
  apply exclusive.idle
  intro other
  by_cases same : other = client
  · rw [same, notLive]
  · rw [exclusive.eq_away present same]
    rfl

theorem live_eq_zero_of_free (exclusive : Exclusive before session)
    (isFree : session.holder = none) : session.world.log.live = 0 := by
  apply exclusive.idle
  intro client
  rw [exclusive.eq_away_of_free isFree client]
  rfl

/-- Where all others are away, one client can have the lease and the command that the log counts. -/
theorem of_holder (client : Nat) (isHolder : session.holder = some client)
    (others : ∀ other, other ≠ client → session.stage other = .away)
    (counted : session.world.log.live = if (session.stage client).isLive then 1 else 0)
    (peak : session.world.log.peak ≤ max before.peak 1) : Exclusive before session where
  onlyHolder other present := by
    by_cases same : other = client
    · rw [same, isHolder]
    · exact absurd (others other same) present
  live other isLive := by
    by_cases same : other = client
    · rw [counted, if_pos (same ▸ isLive)]
    · rw [others other same] at isLive
      cases isLive
  idle notLive := by
    rw [counted, if_neg (by rw [notLive client]; exact Bool.false_ne_true)]
  peak := peak

/-- Where all clients are away, nothing is counted. -/
theorem of_free (away : ∀ client, session.stage client = .away)
    (counted : session.world.log.live = 0) (peak : session.world.log.peak ≤ max before.peak 1) :
    Exclusive before session where
  onlyHolder client present := absurd (away client) present
  live client isLive := by
    rw [away client] at isLive
    cases isLive
  idle _ := counted
  peak := peak

/-- The holder can go on to another stage, if the log counts its command. -/
theorem use (exclusive : Exclusive before session) {client : Nat}
    (present : session.stage client ≠ .away) (stage : Stage) (runner : Runner) {world : World}
    (counted : world.log.live = if stage.isLive then 1 else 0)
    (peak : world.log.peak ≤ max before.peak 1) :
    Exclusive before { session.put client stage with world, runner } := by
  refine of_holder client ?_ ?_ ?_ ?_
  · exact exclusive.onlyHolder client present
  · intro other different
    exact (stage_put_of_ne session different stage).trans (exclusive.eq_away present different)
  · rw [counted]
    exact congrArg (if Stage.isLive · then 1 else 0) (stage_put_self session client stage).symm
  · exact peak

/-- When the holder leaves, nobody has anything of the runner. -/
theorem leave (exclusive : Exclusive before session) {client : Nat}
    (present : session.stage client ≠ .away) {world : World} (counted : world.log.live = 0)
    (peak : world.log.peak ≤ max before.peak 1) :
    Exclusive before { session.leave client with world } := by
  refine of_free ?_ counted peak
  intro other
  by_cases same : other = client
  · rw [same]
    exact stage_put_self session client .away
  · exact (stage_put_of_ne session same .away).trans (exclusive.eq_away present same)

end Exclusive

/-! ## Steps -/

/-- What a start does to the log: it notes the executing runner and, for a live command, the request
to the pool, before which nothing was live. -/
theorem live_and_peak_of_start {runner executing : Runner} {job : Job} {world later : World}
    {course : Course} (idle : world.log.live = 0) (peak : world.log.peak ≤ max before.peak 1)
    (started : (runner.start pool job).perform world = (some (.ok (executing, course)), later)) :
    later.log.live = (if course.isLive then 1 else 0) ∧
      later.log.peak ≤ max before.peak 1 := by
  have movedLive : (world.noting (.move .executing)).log.live = 0 := by
    rw [World.log_noting, Log.live_append_entry, idle]
    rfl
  have movedPeak : (world.noting (.move .executing)).log.peak ≤ max before.peak 1 := by
    rw [World.log_noting, Log.peak_append_entry, idle]
    exact Nat.max_le.mpr ⟨peak, Nat.zero_le _⟩
  rcases Runner.cases_of_start started with ⟨-, ⟨failure, -, rfl, rfl⟩ | ⟨-, rfl, rfl⟩⟩
  · exact ⟨movedLive, movedPeak⟩
  · have quiet := Answer.isQuiet_callEntries
      (pool.attach (world.noting (.move .executing)).log executing job.command) world.now
    constructor
    · change Log.live (_ ++ _) = 1
      rw [Log.live_append_of_isQuiet _ quiet, World.log_noting, Log.live_append_entry, movedLive]
      rfl
    · change Log.peak (_ ++ _) ≤ _
      rw [Log.peak_append_of_isQuiet _ quiet, World.log_noting, Log.peak_append_entry, movedLive]
      exact Nat.max_le.mpr ⟨movedPeak, Nat.le_max_right _ _⟩

/-- A turn of a live command notes its end, or leaves it live. -/
theorem live_and_peak_of_turn {course : Course} {turn : Turn} {world : World}
    (live : world.log.live = 1) (peak : world.log.peak ≤ max before.peak 1)
    (next : course.next? = some turn) :
    (turn.after world).log.live = (if turn.course.isLive then 1 else 0) ∧
      (turn.after world).log.peak ≤ max before.peak 1 := by
  rcases Course.act_of_next? next with ⟨act, isLive⟩ | ⟨act, noted, ends, notLive⟩
  · simp only [Turn.after, act, isLive, Option.elim_none, if_true]
    exact ⟨live, peak⟩
  · simp only [Turn.after, noted, notLive, Option.elim_some, World.log_noting,
      Log.live_append_entry, Log.peak_append_entry, live, ends, Bool.false_eq_true, if_false]
    exact ⟨trivial, Nat.max_le.mpr ⟨peak, Nat.zero_le _⟩⟩

/-- What releasing a runner does to the log is not about commands. -/
theorem live_and_peak_of_release {runner released : Runner} {world later : World}
    (ended : (runner.release pool).perform world = (some released, later)) :
    later.log.live = world.log.live ∧ later.log.peak = world.log.peak := by
  by_cases isReleased : runner.state = .released
  · rw [Runner.perform_release_of_released pool world isReleased] at ended
    cases ended
    exact ⟨rfl, rfl⟩
  · rcases Runner.exists_of_release isReleased ended with ⟨-, pause, rfl⟩
    have quiet : Log.IsQuiet (⟨world.now, .release runner.id⟩ ::
        (pool.release world.log runner).callEntries world.now ++
        [⟨world.now + pause, .move released.state⟩]) := by
      intro act member live
      rcases List.mem_map.mp member with ⟨entry, entryMember, rfl⟩
      rcases List.mem_append.mp entryMember with earlier | last
      · rcases List.mem_cons.mp earlier with rfl | call
        · rfl
        · exact Answer.isQuiet_callEntries _ _ _ (List.mem_map_of_mem call) live
      · rw [List.mem_singleton.mp last]
        rfl
    exact ⟨Log.live_append_of_isQuiet _ quiet, Log.peak_append_of_isQuiet _ quiet⟩

theorem live_and_peak_of_bookkeeping {act : Act} (isBookkeeping : act.isBookkeeping)
    (world : World) :
    (world.noting act).log.live = world.log.live ∧
      (world.noting act).log.peak = world.log.peak := by
  have quiet : Log.IsQuiet [⟨world.now, act⟩] := by
    intro other member live
    rw [List.mem_singleton.mp member]
    cases act <;> first | rfl | cases isBookkeeping
  exact ⟨Log.live_append_of_isQuiet _ quiet, Log.peak_append_of_isQuiet _ quiet⟩

theorem live_and_peak_of_move (state : RunnerState) (world : World) :
    (world.noting (.move state)).log.live = world.log.live ∧
      (world.noting (.move state)).log.peak = world.log.peak := by
  have quiet : Log.IsQuiet [⟨world.now, .move state⟩] := by
    intro other member live
    rw [List.mem_singleton.mp member]
    rfl
  exact ⟨Log.live_append_of_isQuiet _ quiet, Log.peak_append_of_isQuiet _ quiet⟩

/-- Every step keeps commands exclusive. -/
theorem Exclusive.step {move : Move} (exclusive : Exclusive before session)
    (step : Step pool session move next) : Exclusive before next := by
  cases step with
  | wait instant later due => exact { exclusive with }
  | lease client isFree isAway =>
      have away := exclusive.eq_away_of_free isFree
      refine Exclusive.of_holder client rfl ?_ ?_ exclusive.peak
      · intro other different
        exact (stage_put_of_ne session different _).trans (away other)
      · rw [if_neg (by simp [Stage.isLive])]
        exact exclusive.live_eq_zero_of_free isFree
  | start client job last runner course world hasLease started =>
      have present : session.stage client ≠ .away := by rw [hasLease]; exact nofun
      have idle := exclusive.live_eq_zero present (by rw [hasLease]; rfl)
      have counts := live_and_peak_of_start idle exclusive.peak started
      exact exclusive.use present (.busy course) runner counts.1 counts.2
  | refuse client job last finish world hasLease refused =>
      have present : session.stage client ≠ .away := by rw [hasLease]; exact nofun
      have idle := exclusive.live_eq_zero present (by rw [hasLease]; rfl)
      rcases Runner.eq_of_start_error refused with ⟨rfl, -⟩
      exact exclusive.use present (.leased finish) session.runner idle exclusive.peak
  | advance client course following world isBusy isLive advanced =>
      have present : session.stage client ≠ .away := by rw [isBusy]; exact nofun
      have live := exclusive.live client (by rw [isBusy]; exact isLive)
      rcases Course.exists_turn_of_advance isLive advanced with ⟨turn, turns, rfl, rfl⟩
      have counts := live_and_peak_of_turn live exclusive.peak turns
      exact exclusive.use present (.busy turn.course) session.runner counts.1 counts.2
  | settle client finish runner world isOver settled =>
      have present : session.stage client ≠ .away := by rw [isOver]; exact nofun
      have idle := exclusive.live_eq_zero present (by rw [isOver]; rfl)
      cases settled
      have counts := live_and_peak_of_move
        (session.runner.moveOrStay (Runner.stateAfter finish.result)).state session.world
      exact exclusive.use present (.leased finish) _ (counts.1.trans idle)
        (by rw [counts.2]; exact exclusive.peak)
  | drop client last hasLease =>
      have present : session.stage client ≠ .away := by rw [hasLease]; exact nofun
      exact exclusive.leave present (exclusive.live_eq_zero present (by rw [hasLease]; rfl))
        exclusive.peak
  | abortAway client isAway => exact exclusive
  | abortHolder client isHolder isIdle =>
      exact exclusive.leave isHolder (exclusive.live_eq_zero isHolder isIdle) exclusive.peak
  | abortLive client isLive =>
      have present : session.stage client ≠ .away := by
        intro away
        rw [away] at isLive
        cases isLive
      have counted : (session.world.noting .detach).log.live = 0 := by
        rw [World.log_noting, Log.live_append_entry, exclusive.live client isLive]
        rfl
      have peak : (session.world.noting .detach).log.peak ≤ max before.peak 1 := by
        rw [World.log_noting, Log.peak_append_entry, exclusive.live client isLive]
        exact Nat.max_le.mpr ⟨exclusive.peak, Nat.zero_le _⟩
      exact exclusive.leave present counted peak
  | release runner world isFree released =>
      have counts := live_and_peak_of_release released
      exact Exclusive.of_free (exclusive.eq_away_of_free isFree)
        (counts.1.trans (exclusive.live_eq_zero_of_free isFree))
        (by rw [counts.2]; exact exclusive.peak)
  | note act isBookkeeping =>
      have counts := live_and_peak_of_bookkeeping isBookkeeping session.world
      exact {
        onlyHolder := exclusive.onlyHolder
        live := fun client isLive => counts.1.trans (exclusive.live client isLive)
        idle := fun notLive => counts.1.trans (exclusive.idle notLive)
        peak := counts.2.symm ▸ exclusive.peak }

theorem Exclusive.reaches (exclusive : Exclusive before session)
    (reaches : Reaches pool session next) : Exclusive before next := by
  induction reaches with
  | refl => exact exclusive
  | tail _ step induction => exact induction.step step.choose_spec

/-! ## Refusals -/

/-- A scripted pool refuses only what it is told to refuse. So it was after `before`, and so it is
of the commands under way. -/
structure Sanctioned (scripted : ScriptedPool) (before : Log) (session : Session) : Prop where
  noted : ∀ error, .refuse error ∈ session.world.log.acts →
    .refuse error ∈ before.acts ∨ scripted.attachError = some error
  decided : ∀ client error, (session.stage client).Refuses error →
    scripted.attachError = some error

namespace Sanctioned

variable {scripted : ScriptedPool}

theorem new (world : World) (runner : Runner) :
    Sanctioned scripted world.log (new world runner) where
  noted _ member := .inl member
  decided _ error refuses := absurd refuses (Stage.not_refuses_away error)

/-- A client can go on to another stage, if the pool is told to refuse what it refuses there. -/
theorem decided_put (sanctioned : Sanctioned scripted before session) (client : Nat)
    {stage : Stage} (decided : ∀ error, stage.Refuses error → scripted.attachError = some error) :
    ∀ other error, ((session.put client stage).stage other).Refuses error →
      scripted.attachError = some error := by
  intro other error refuses
  by_cases same : other = client
  · rw [same, stage_put_self] at refuses
    exact decided error refuses
  · rw [stage_put_of_ne session same] at refuses
    exact sanctioned.decided other error refuses

/-- What is decided about the command of a scripted pool, where no other one is listened to. -/
theorem of_decide {history : Log} (idle : history.live = 0) {runner : Runner} {command : String}
    {limits : Limits} {started : Nat} {channel : Option Channel} {turn : Turn}
    {error : RunnerError}
    (next : (Course.attaching limits channel (Course.decide limits started
      (scripted.attachment history runner command).reply)).next? = some turn)
    (refuses : turn.act = some (.refuse error)) : scripted.attachError = some error := by
  rcases Option.map_eq_some_iff.mp next with ⟨⟨instant, failure | stream⟩, decided, rfl⟩
  · simp only [Course.decide] at decided
    cases cut : limits.cutoff? started ((scripted.attachment history runner command).reply.map
      fun reply => started + reply.1) with
    | some ending =>
        rw [cut] at decided
        cases decided
        rcases Limits.failure_of_cutoff? cut with timeout | cancelled
        · simp [timeout, Course.failureAct] at refuses
        · simp [cancelled, Course.failureAct] at refuses
    | none =>
        rw [cut] at decided
        rcases Option.map_eq_some_iff.mp decided with ⟨⟨pause, answer⟩, replied, equal⟩
        rw [scripted.attachment_of_idle idle, ScriptedPool.answer] at replied
        cases configured : scripted.attachError with
        | some given =>
            rw [configured] at replied
            cases replied
            cases equal
            cases refuses
            rfl
        | none =>
            rw [configured] at replied
            by_cases stalls : (scripted.scriptOf command).stalls
            · rw [if_pos stalls] at replied
              cases replied
            · rw [if_neg stalls] at replied
              cases replied
              cases equal
  · cases refuses

theorem step {move : Move} (sanctioned : Sanctioned scripted before session)
    (exclusive : Exclusive before session) (step : Step scripted.toPool session move next) :
    Sanctioned scripted before next where
  noted := by
    rcases step.exists_log with ⟨added, log, acts⟩
    intro error member
    rw [log, Log.acts_append, List.mem_append] at member
    rcases member with earlier | now
    · exact sanctioned.noted error earlier
    · rcases acts _ now with routine | ⟨bookkeeping, -⟩ | ⟨client, _, equal, refuses⟩
      · cases routine
      · cases bookkeeping
      · cases equal
        exact .inr (sanctioned.decided client error refuses)
  decided := by
    cases step with
    | wait | abortAway | release | note => exact sanctioned.decided
    | lease client =>
        exact sanctioned.decided_put client
          fun error refuses => absurd refuses (Stage.not_refuses_leased none error)
    | start client job last runner course world hasLease started =>
        refine sanctioned.decided_put client ?_
        rintro error ⟨_, turn, same, next, refuses⟩
        cases same
        have present : session.stage client ≠ .away := by rw [hasLease]; exact nofun
        have idle := exclusive.live_eq_zero present (by rw [hasLease]; rfl)
        have moved := (live_and_peak_of_move .executing session.world).1.trans idle
        rcases Runner.cases_of_start started with ⟨-, ⟨failure, -, rfl, rfl⟩ | ⟨-, rfl, rfl⟩⟩
        · cases next
        · exact of_decide moved next refuses
    | refuse client job last finish =>
        exact sanctioned.decided_put client
          fun error refuses => absurd refuses (Stage.not_refuses_leased finish error)
    | advance client course following world isBusy isLive advanced =>
        refine sanctioned.decided_put client ?_
        rintro error ⟨_, later, same, next, refuses⟩
        cases same
        rcases Course.exists_turn_of_advance isLive advanced with ⟨turn, turns, rfl, rfl⟩
        rw [Course.act_of_next?_next? turns next] at refuses
        cases refuses
    | settle client finish =>
        exact sanctioned.decided_put client
          fun error refuses => absurd refuses (Stage.not_refuses_leased finish error)
    | drop client | abortHolder client | abortLive client =>
        exact sanctioned.decided_put client
          fun error refuses => absurd refuses (Stage.not_refuses_away error)

end Sanctioned

/-! ## Serialization -/

/-- The commands of a session are serialized: one at a time is attached or listened to, and the log
counts no more since `before`. What the pool refused since then, or will refuse, it is told to
refuse. -/
structure Serialized (scripted : ScriptedPool) (before : Log) (session : Session) : Prop where
  oneLive : ∀ left right, (session.stage left).isLive → (session.stage right).isLive → left = right
  counted : ∀ client, (session.stage client).isLive → session.world.log.live = 1
  peak : session.world.log.peak ≤ max before.peak 1
  refused : ∀ error, .refuse error ∈ session.world.log.acts →
    .refuse error ∈ before.acts ∨ scripted.attachError = some error
  refuses : ∀ client error, (session.stage client).Refuses error →
    scripted.attachError = some error

theorem Serialized.of_exclusive {scripted : ScriptedPool}
    (exclusive : Exclusive before session) (sanctioned : Sanctioned scripted before session) :
    Serialized scripted before session where
  oneLive := by
    intro left right leftLive rightLive
    by_contra different
    have present : session.stage left ≠ .away := by
      intro away
      rw [away] at leftLive
      cases leftLive
    rw [exclusive.eq_away present (Ne.symm different)] at rightLive
    cases rightLive
  counted := exclusive.live
  peak := exclusive.peak
  refused := sanctioned.noted
  refuses := sanctioned.decided

theorem Sanctioned.reaches {scripted : ScriptedPool}
    (sanctioned : Sanctioned scripted before session) (exclusive : Exclusive before session)
    (reaches : Reaches scripted.toPool session next) : Sanctioned scripted before next := by
  induction reaches with
  | refl => exact sanctioned
  | tail earlier step induction =>
      rcases step with ⟨move, step⟩
      exact induction.step (exclusive.reaches earlier) step

/-- Whatever the clients of a runner do, in whatever order, and however their commands end: if no
command is live when they begin, their commands are serialized. -/
theorem serialized_of_reaches (scripted : ScriptedPool) (runner : Runner) {world : World}
    (idle : world.log.live = 0) (reaches : Reaches scripted.toPool (new world runner) session) :
    Serialized scripted world.log session :=
  .of_exclusive ((Exclusive.new idle runner).reaches reaches)
    ((Sanctioned.new world runner).reaches (Exclusive.new idle runner) reaches)

/-! ### A command that hangs -/

/-- Its commands never exit. -/
def hangingPool : ScriptedPool := ⟨.zero, none, none, none, [], .hanging "Testing"⟩

def readyRunner : Runner := ⟨"stub", "learner", 1, .ready⟩

/-- It times out after a second. -/
def shortJob : Job := ⟨"test", .ofSeconds 1, none, none⟩

/-- The runner can be used by the next client when a command has timed out. -/
theorem serialized_after_timeout :
    World.start.log.live = 0 ∧ World.start.log.peak = 0 ∧ ∃ session,
      Reaches hangingPool.toPool (new .start readyRunner) session ∧
        (session.stage 1).isLive ∧ Serialized hangingPool World.start.log session := by
  have idle : World.start.log.live = 0 := rfl
  have leased : Reaches hangingPool.toPool (new .start readyRunner) _ :=
    .single ⟨_, .lease 0 rfl rfl⟩
  have started := leased.tail ⟨_, .start 0 shortJob none _ _ _ rfl rfl⟩
  have attached := started.tail ⟨_, .advance 0 _ _ _ rfl rfl rfl⟩
  have timedOut := attached.tail ⟨_, .advance 0 _ _ _ rfl rfl rfl⟩
  have settled := timedOut.tail ⟨_, .settle 0 _ _ _ rfl rfl⟩
  have dropped := settled.tail ⟨_, .drop 0 _ rfl⟩
  have leasedAgain := dropped.tail ⟨_, .lease 1 rfl rfl⟩
  have startedAgain := leasedAgain.tail ⟨_, .start 1 shortJob none _ _ _ rfl rfl⟩
  exact ⟨idle, rfl, _, startedAgain, rfl,
    serialized_of_reaches hangingPool readyRunner idle startedAgain⟩

end Grading.Session
