import Grading.Lineup
import Grading.Proofs.Release

namespace Grading

/-! Where a pool answers at once, everything is noted at the instant at which it happens. So what
was noted before an instant is what had happened by then. The log also knows the runner. -/

/-! ## Instants -/

/-- An answer of a scripted pool to a command takes no calls. -/
theorem ScriptedPool.callEntries_attachment (scripted : ScriptedPool) (history : Log)
    (runner : Runner) (command : String) (instant : Nat) :
    (scripted.attachment history runner command).callEntries instant = [] := by
  simp only [attachment]
  split
  · rfl
  · split
    · rfl
    · split <;> rfl

/-- What happens after an instant, up to a later one, as it is noted. -/
structure World.Continues (world later : World) (first : Nat) : Prop where
  now_le : world.now ≤ later.now
  noted : ∃ added : Log, later.log = world.log ++ added ∧
    ∀ entry ∈ added, first ≤ entry.instant ∧ entry.instant ≤ later.now

namespace World.Continues

variable {world middle later : World} {first : Nat}

theorem refl (world : World) (first : Nat) : world.Continues world first where
  now_le := Nat.le_refl _
  noted := ⟨[], (List.append_nil _).symm, fun _ member => absurd member List.not_mem_nil⟩

theorem trans (continues : world.Continues middle first) (goesOn : middle.Continues later first) :
    world.Continues later first := by
  rcases continues.noted with ⟨added, log, bounds⟩
  rcases goesOn.noted with ⟨more, logToo, boundsToo⟩
  refine ⟨Nat.le_trans continues.now_le goesOn.now_le, added ++ more, ?_, ?_⟩
  · rw [logToo, log, List.append_assoc]
  · intro entry member
    rcases List.mem_append.mp member with earlier | last
    · exact ⟨(bounds entry earlier).1, Nat.le_trans (bounds entry earlier).2 goesOn.now_le⟩
    · exact boundsToo entry last

theorem weaken (continues : world.Continues later first) {other : Nat} (earlier : other ≤ first) :
    world.Continues later other where
  now_le := continues.now_le
  noted := by
    rcases continues.noted with ⟨added, log, bounds⟩
    exact ⟨added, log, fun entry member =>
      ⟨Nat.le_trans earlier (bounds entry member).1, (bounds entry member).2⟩⟩

/-- Acts that are noted when the clock has come to an instant. -/
theorem of_acts (acts : List Act) (now : world.now ≤ later.now)
    (log : later.log = world.log ++ acts.map (Entry.mk later.now)) :
    world.Continues later later.now where
  now_le := now
  noted := by
    refine ⟨_, log, ?_⟩
    intro entry member
    rcases List.mem_map.mp member with ⟨act, -, rfl⟩
    exact ⟨Nat.le_refl _, Nat.le_refl _⟩

theorem of_silent (now : world.now ≤ later.now) (log : later.log = world.log) :
    world.Continues later later.now :=
  of_acts [] now (log.trans (List.append_nil _).symm)

theorem noting (world : World) (act : Act) : world.Continues (world.noting act) world.now :=
  of_acts [act] (Nat.le_refl _) rfl

/-- Before the first instant of what follows, the log is what it was. -/
theorem before_eq (continues : world.Continues later first) :
    later.log.before first = world.log.before first := by
  rcases continues.noted with ⟨added, log, bounds⟩
  rw [log, Log.before_append, Log.before_eq_nil fun entry member => (bounds entry member).1,
    List.append_nil]

/-- From an empty log on, everything is noted by the end. -/
theorem before_eq_self (continues : world.Continues later first) (empty : world.log = [])
    {instant : Nat} (early : later.now < instant) : later.log.before instant = later.log := by
  rcases continues.noted with ⟨added, log, bounds⟩
  rw [empty, List.nil_append] at log
  rw [Log.before, List.filter_eq_self]
  intro entry member
  exact decide_eq_true (Nat.lt_of_le_of_lt (bounds entry (log ▸ member)).2 early)

end World.Continues

namespace Session

variable {scripted : ScriptedPool} {session next : Session} {move : Move}

/-- What is noted by a step is noted when it is over. -/
theorem Step.continues (step : Step scripted.toPool session move next) :
    session.world.Continues next.world next.world.now := by
  cases step with
  | wait instant later => exact .of_silent later rfl
  | lease | drop | abortAway | abortHolder => exact .refl _ _
  | start client job last runner course world hasLease started =>
      rcases Runner.cases_of_start started with ⟨-, ⟨failure, -, -, rfl⟩ | ⟨-, -, rfl⟩⟩
      · exact .noting _ _
      · refine .of_acts [.move .executing, .attach job.command] (Nat.le_refl _) ?_
        refine (congrArg _ (scripted.callEntries_attachment _ runner job.command _)).trans ?_
        simp [World.noting]
  | refuse client job last finish world hasLease refused =>
      rcases Runner.eq_of_start_error refused with ⟨rfl, -⟩
      exact .refl _ _
  | advance client course following world isBusy isLive advanced =>
      rcases Course.exists_turn_of_advance isLive advanced with ⟨turn, turns, rfl, rfl⟩
      have later : session.world.now ≤ (turn.after session.world).now := by
        rw [Turn.now_after]
        exact Nat.le_max_left _ _
      obtain ⟨instant, act | act, course⟩ := turn
      · exact .of_silent later rfl
      · exact .of_acts [act] later rfl
  | settle client finish runner world isOver settled =>
      cases settled
      exact .noting _ _
  | abortLive => exact .noting _ _
  | release runner world isFree released =>
      by_cases isReleased : session.runner.state = .released
      · rw [Runner.perform_release_of_released _ session.world isReleased] at released
        cases released
        exact .refl _ _
      · rw [scripted.perform_release isReleased] at released
        cases released
        exact .of_acts [.release session.runner.id, .move .released] (Nat.le_refl _) rfl
  | note act isBookkeeping => exact .noting _ _

end Session

/-! ## The runner -/

namespace Log

/-- The log shows a runner in its last state. -/
def Tracks (log : Log) (runner : Runner) : Prop := log.runner? = some runner

namespace Tracks

variable {log : Log} {runner : Runner}

theorem append_entry (tracks : log.Tracks runner) (entry : Entry) :
    runner? (log ++ [entry]) = runnerAfter (some runner) entry.act := by
  rw [← tracks]
  simp only [runner?, acts_append, List.foldl_append]
  rfl

theorem note (tracks : log.Tracks runner) (instant : Nat) (act : Act)
    (kept : ∀ other, runnerAfter other act = other) : Tracks (log ++ [⟨instant, act⟩]) runner :=
  (tracks.append_entry _).trans (kept _)

theorem move (tracks : log.Tracks runner) (instant : Nat) (state : RunnerState) :
    Tracks (log ++ [⟨instant, .move state⟩]) { runner with state } :=
  tracks.append_entry _

end Tracks

end Log

namespace Session

variable {scripted : ScriptedPool} {session next : Session} {move : Move}

/-- Whatever happens to the runner, the log shows it. -/
theorem Step.tracks (step : Step scripted.toPool session move next)
    (tracks : session.world.log.Tracks session.runner) : next.world.log.Tracks next.runner := by
  cases step with
  | wait | lease | drop | abortAway | abortHolder => exact tracks
  | start client job last runner course world hasLease started =>
      rcases Runner.cases_of_start started with ⟨moved, ⟨failure, -, -, rfl⟩ | ⟨-, -, rfl⟩⟩
      · rw [Runner.eq_of_move moved]
        exact tracks.move _ _
      · have asked := (tracks.move session.world.now .executing).note session.world.now
          (.attach job.command) fun _ => rfl
        rw [Runner.eq_of_move moved]
        refine Eq.trans (congrArg Log.runner? ?_) asked
        refine (congrArg _ (scripted.callEntries_attachment _ _ job.command _)).trans ?_
        exact List.append_nil _
  | refuse client job last finish world hasLease refused =>
      rcases Runner.eq_of_start_error refused with ⟨rfl, -⟩
      exact tracks
  | advance client course following world isBusy isLive advanced =>
      rcases Course.exists_turn_of_advance isLive advanced with ⟨turn, turns, rfl, rfl⟩
      change (turn.after session.world).log.Tracks session.runner
      rcases Course.act_of_next? turns with ⟨act, -⟩ | ⟨act, noted, ends, -⟩
      · simpa only [Turn.after, act, Option.elim_none] using tracks
      · simp only [Turn.after, noted, Option.elim_some, World.log_noting]
        apply tracks.note
        intro other
        cases act with
        | acquired runner => cases ends 1
        | move state => cases ends 1
        | _ => rfl
  | settle client finish runner world isOver settled =>
      cases settled
      rw [Runner.moveOrStay_eq]
      exact tracks.move _ _
  | abortLive client isLive => exact tracks.note _ _ fun _ => rfl
  | release runner world isFree released =>
      by_cases isReleased : session.runner.state = .released
      · rw [Runner.perform_release_of_released _ session.world isReleased] at released
        cases released
        exact tracks
      · rw [scripted.perform_release isReleased] at released
        cases released
        have given := (tracks.note session.world.now (.release session.runner.id)
          fun _ => rfl).move session.world.now .released
        rw [Runner.moveOrStay_eq, Runner.state_moveOrStay_released]
        rwa [List.append_assoc] at given
  | note act isBookkeeping =>
      apply tracks.note
      intro other
      cases act <;> first | rfl | cases isBookkeeping

end Session

namespace Tasks

variable {work : Assignment} {scripted : ScriptedPool} {tasks next : Tasks}

theorem Reaches.continues (isScripted : work.pool = scripted.toPool)
    (reaches : Reaches work tasks next) :
    tasks.session.world.Continues next.session.world tasks.session.world.now := by
  induction reaches with
  | refl => exact .refl _ _
  | tail _ step induction =>
      rcases step.cases_of_session with same | ⟨move, -, step⟩
      · exact same ▸ induction
      · rw [isScripted] at step
        have goesOn := step.continues
        exact induction.trans (goesOn.weaken (Nat.le_trans induction.now_le goesOn.now_le))

theorem Reaches.tracks (isScripted : work.pool = scripted.toPool)
    (reaches : Reaches work tasks next)
    (tracks : tasks.session.world.log.Tracks tasks.session.runner) :
    next.session.world.log.Tracks next.session.runner := by
  induction reaches with
  | refl => exact tracks
  | tail _ step induction =>
      rcases step.cases_of_session with same | ⟨move, -, step⟩
      · exact same ▸ induction
      · rw [isScripted] at step
        exact step.tracks induction

/-- When they are done, no more time passes. -/
theorem continues_of_close (isScripted : work.pool = scripted.toPool) {submission : Submission}
    {score : SubmissionScore Float} {later : World}
    (closes : (tasks.close work submission).perform tasks.session.world = (some score, later)) :
    tasks.session.world.Continues later later.now ∧ later.now = tasks.session.world.now := by
  rcases Activity.exists_of_perform_bind closes with ⟨released, middle, releases, combines⟩
  have given : tasks.session.world.Continues middle middle.now ∧
      middle.now = tasks.session.world.now := by
    rw [isScripted] at releases
    by_cases isReleased : tasks.session.runner.state = .released
    · rw [Runner.perform_release_of_released _ _ isReleased] at releases
      cases releases
      exact ⟨.refl _ _, rfl⟩
    · rw [scripted.perform_release isReleased] at releases
      cases releases
      exact ⟨.of_acts [.release tasks.session.runner.id, .move .released] (Nat.le_refl _) rfl, rfl⟩
  simp only [Grader.combine] at combines
  split at combines
  · cases combines
    exact ⟨given.1.trans (.noting middle _), given.2⟩
  · cases combines
    exact given

end Tasks

namespace Lineup

variable {work : Assignment} {scripted : ScriptedPool} {start done : Lineup} {instant : Nat}

/-- A run that goes past an instant awaits it. -/
theorem Reaches.exists_awaits (isScripted : work.pool = scripted.toPool)
    (reaches : Reaches work start done) (before : start.tasks.session.world.now < instant)
    (after : instant ≤ done.tasks.session.world.now) :
    ∃ lineup next, Reaches work start lineup ∧ Lineup.Step work lineup next ∧
      lineup.tasks.Awaits work ∧ lineup.tasks.session.world.now < instant ∧
      instant ≤ next.tasks.session.world.now ∧
      lineup.tasks.session.world.Continues done.tasks.session.world instant := by
  induction reaches using Relation.ReflTransGen.head_induction_on with
  | refl => exact absurd after (Nat.not_le.mpr before)
  | @head first second step rest induction =>
      by_cases reached : instant ≤ second.tasks.session.world.now
      · refine ⟨first, second, .refl, step.1, step.2 (by omega), before, reached, ?_⟩
        have stepped : first.tasks.session.world.Continues second.tasks.session.world instant := by
          rcases step.1.tasks_step.cases_of_session with same | ⟨move, -, moves⟩
          · rw [same] at reached
            exact absurd reached (Nat.not_le.mpr before)
          · rw [isScripted] at moves
            exact moves.continues.weaken reached
        exact stepped.trans
          ((Tasks.Reaches.continues isScripted (Lineup.Reaches.tasks_reaches rest)).weaken reached)
      · rcases induction (Nat.lt_of_not_le reached) with ⟨lineup, next, toLineup, others⟩
        exact ⟨lineup, next, .head step toLineup, others⟩

end Lineup

namespace Grader

variable (scripted : ScriptedPool) (submission : Submission) (world : World)

theorem continues_readyWorld :
    world.Continues (readyWorld scripted submission world) world.now := by
  have later : world.now ≤ (readyWorld scripted submission world).now := Nat.le_add_right _ _
  refine ⟨later, _, rfl, ?_⟩
  intro entry member
  rcases List.mem_cons.mp member with rfl | member
  · exact ⟨Nat.le_refl _, later⟩
  · rw [List.mem_singleton.mp member]
    exact ⟨later, Nat.le_refl _⟩

theorem tracks_readyWorld :
    (readyWorld scripted submission world).log.Tracks
      (ScriptedPool.runnerFor submission.userId submission.environment) := by
  simp [Log.Tracks, Log.runner?, readyWorld, Log.acts, Log.runnerAfter]

end Grader

end Grading
