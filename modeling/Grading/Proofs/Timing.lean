import Grading.Proofs.Listening

namespace Grading

/-! When commands end that nobody is told of: not before they start, and not after their deadline.
If the pool answers at once, their time is counted from the start. -/

/-! ## Limits -/

namespace Limits

/-- The limit that a failure is about, if it is about one. -/
def limitOf? (limits : Limits) : ExecutionFailure → Option Nat
  | .timeout => some limits.deadline
  | .cancelled => limits.cancellation
  | .runner _ => none

/-- What ends a waiting is one of its limits, and nothing that is waited for is due before it. -/
structure Cuts (limits : Limits) (now : Nat) (due : Option Nat) (instant : Nat)
    (failure : ExecutionFailure) : Prop where
  isLimit : ∃ limit, limits.limitOf? failure = some limit ∧ instant = max now limit
  le_limit : ∀ other limit, limits.limitOf? other = some limit → instant ≤ max now limit
  le_due : ∀ happens, due = some happens → instant ≤ happens

variable {limits : Limits} {now instant : Nat} {due : Option Nat}

theorem cuts_of_cutoff? {failure : ExecutionFailure}
    (cut : limits.cutoff? now due = some (instant, failure)) :
    limits.Cuts now due instant failure := by
  obtain ⟨deadline, cancellation⟩ := limits
  have ofAll : ∀ {bound : Nat}, due.all (bound ≤ ·) = true → ∀ happens, due = some happens →
      bound ≤ happens := by
    intro bound early happens isDue
    rw [isDue] at early
    exact of_decide_eq_true early
  cases cancellation with
  | none =>
      simp only [cutoff?, Option.map_none, Option.ite_none_right_eq_some] at cut
      rcases cut with ⟨early, equal⟩
      cases equal
      refine ⟨⟨deadline, rfl, rfl⟩, ?_, ofAll early⟩
      rintro (_ | _ | _) limit ⟨⟩
      exact Nat.le_refl _
  | some cancelled =>
      simp only [cutoff?, Option.map_some] at cut
      split at cut
      · rename_i first
        cases cut
        refine ⟨⟨cancelled, rfl, rfl⟩, ?_, ofAll first.2⟩
        rintro (_ | _ | _) limit ⟨⟩
        · exact first.1
        · exact Nat.le_refl _
      · rename_i notFirst
        split at cut
        · rename_i early
          cases cut
          refine ⟨⟨deadline, rfl, rfl⟩, ?_, ofAll early⟩
          rintro (_ | _ | _) limit ⟨⟩
          · exact Nat.le_refl _
          · rcases Nat.le_total (max now deadline) (max now cancelled) with le | ge
            · exact le
            · refine absurd ⟨ge, ?_⟩ notFirst
              cases due with
              | none => rfl
              | some happens => exact decide_eq_true (Nat.le_trans ge (ofAll early happens rfl))
        · cases cut

/-- What is not cut off happens before each limit. -/
theorem exists_due_of_cutoff?_eq_none (uncut : limits.cutoff? now due = none) :
    ∃ happens, due = some happens ∧
      ∀ failure limit, limits.limitOf? failure = some limit → happens < max now limit := by
  obtain ⟨deadline, cancellation⟩ := limits
  cases due with
  | none =>
      have isCut := isSome_cutoff?_none ⟨deadline, cancellation⟩ now
      rw [uncut] at isCut
      cases isCut
  | some happens =>
      refine ⟨happens, rfl, ?_⟩
      simp only [cutoff?, Option.all_some, decide_eq_true_eq] at uncut
      cases cancellation with
      | none =>
          rw [Option.map_none] at uncut
          simp only [ite_eq_right_iff] at uncut
          rintro (_ | _ | _) limit ⟨⟩
          exact Nat.lt_of_not_le fun late => Option.some_ne_none _ (uncut late)
      | some cancelled =>
          simp only [Option.map_some] at uncut
          split at uncut
          · cases uncut
          · split at uncut
            · cases uncut
            · rename_i notCancelled notDue
              have inTime : happens < max now deadline := Nat.lt_of_not_le notDue
              rintro (_ | _ | _) limit ⟨⟩
              · exact inTime
              · exact Nat.lt_of_not_le fun late =>
                  notCancelled ⟨Nat.le_trans late (Nat.le_of_lt inTime), late⟩

theorem bounds_of_cutoff? {ending : Nat × ExecutionFailure}
    (cut : limits.cutoff? now due = some ending) :
    now ≤ ending.1 ∧ ending.1 ≤ max now limits.deadline := by
  have cuts := cuts_of_cutoff? cut
  rcases cuts.isLimit with ⟨limit, -, reached⟩
  rw [reached]
  refine ⟨Nat.le_max_left _ _, ?_⟩
  rw [← reached]
  exact cuts.le_limit .timeout limits.deadline rfl

/-- What is not cut off happens before the deadline. -/
theorem lt_of_cutoff?_eq_none (uncut : limits.cutoff? now (some instant) = none) :
    instant < max now limits.deadline := by
  rcases exists_due_of_cutoff?_eq_none uncut with ⟨happens, equal, early⟩
  cases equal
  exact early .timeout limits.deadline rfl

end Limits

/-! ## Listening -/

namespace Connection

section

variable {started now : Nat} {limits : Limits} {ending : StreamEnd} {output : CapturedOutput}
  {item : StreamItem} {rest : List StreamItem}

theorem listen_nil_of_cut {instant : Nat} {failure : ExecutionFailure}
    (cut : limits.cutoff? now (ending.instant? now) = some (instant, failure)) :
    listen started limits ending now output none [] =
      some ⟨instant, failed started instant output failure, [], none⟩ := by
  simp only [listen, cut]

/-- Listening to a stream that closes early is over when it closes. -/
theorem listen_nil_of_uncut {closing : Nat} (closes : ending.instant? now = some closing)
    (uncut : limits.cutoff? now (some closing) = none) :
    listen started limits ending now output none [] =
      some ⟨closing, failed started closing output (.runner closedEarly), [], none⟩ := by
  simp only [listen, closes, uncut, Option.getD_some]

theorem listen_cons_of_cut {instant : Nat} {failure : ExecutionFailure}
    (cut : limits.cutoff? now (some (now + item.pause)) = some (instant, failure)) :
    listen started limits ending now output none (item :: rest) =
      some ⟨instant, failed started instant output failure, [], none⟩ := by
  simp only [listen, cut]

theorem listen_cons_of_error {source : RunnerError}
    (uncut : limits.cutoff? now (some (now + item.pause)) = none)
    (content : item.content = .error source) :
    listen started limits ending now output none (item :: rest) =
      some ⟨now + item.pause, failed started (now + item.pause) output (.runner source), [],
        none⟩ := by
  simp only [listen, uncut, content]

theorem listen_cons_of_exit {code : Int32}
    (uncut : limits.cutoff? now (some (now + item.pause)) = none)
    (content : item.content = .ok (.exit code)) :
    listen started limits ending now output none (item :: rest) =
      some ⟨now + item.pause, .ok ⟨code, output, ⟨now + item.pause - started⟩⟩, [.exit code],
        none⟩ := by
  simp only [listen, uncut, content, forward]

theorem listen_cons_of_event {event : Event}
    (uncut : limits.cutoff? now (some (now + item.pause)) = none)
    (content : item.content = .ok event) (goesOn : ∀ code, event ≠ .exit code) :
    listen started limits ending now output none (item :: rest) =
      (listen started limits ending (now + item.pause) (output.append event) none rest).map
        (Finish.after event) := by
  simp only [listen, uncut, content, forward]

end

end Connection

/-- A finish that keeps to the limits: it is not after any of them, an exit is before each of them,
and a failure that is about a limit is reported when that is reached. -/
structure Finish.KeepsTo (finish : Finish) (now : Nat) (limits : Limits) : Prop where
  le_limit : ∀ failure limit, limits.limitOf? failure = some limit →
    finish.instant ≤ max now limit
  exited : ∀ done, finish.result = .ok done →
    ∀ failure limit, limits.limitOf? failure = some limit → finish.instant < max now limit
  reported : ∀ error, finish.result = .error error →
    (∃ source, error.failure = .runner source) ∨
      ∃ limit, limits.limitOf? error.failure = some limit ∧ finish.instant = max now limit

namespace Connection

variable {started now : Nat} {limits : Limits} {ending : StreamEnd} {output : CapturedOutput}
  {items : List StreamItem} {finish : Finish}

theorem keepsTo_of_cuts {due : Option Nat} {instant : Nat} {failure : ExecutionFailure}
    (cuts : limits.Cuts now due instant failure) (channel : Option Channel) :
    Finish.KeepsTo ⟨instant, failed started instant output failure, [], channel⟩ now limits where
  le_limit := cuts.le_limit
  exited := nofun
  reported := by
    rintro error equal
    cases equal
    exact .inr cuts.isLimit

theorem keepsTo_of_failed {instant : Nat} {source : RunnerError}
    (early : ∀ failure limit, limits.limitOf? failure = some limit → instant < max now limit)
    (channel : Option Channel) :
    Finish.KeepsTo ⟨instant, failed started instant output (.runner source), [], channel⟩ now
      limits where
  le_limit := fun failure limit isLimit => Nat.le_of_lt (early failure limit isLimit)
  exited := nofun
  reported := by
    rintro error equal
    cases equal
    exact .inl ⟨source, rfl⟩

end Connection

/-- A finish that keeps to the limits later does so now, if none of them comes in between. -/
theorem Finish.KeepsTo.of_later {finish : Finish} {now later : Nat} {limits : Limits}
    (keeps : finish.KeepsTo later limits) (passed : now ≤ later)
    (early : ∀ failure limit, limits.limitOf? failure = some limit → later < max now limit) :
    finish.KeepsTo now limits := by
  have same : ∀ failure limit, limits.limitOf? failure = some limit →
      max later limit = max now limit := by
    intro failure limit isLimit
    have next := early failure limit isLimit
    omega
  constructor
  · intro failure limit isLimit
    rw [← same failure limit isLimit]
    exact keeps.le_limit failure limit isLimit
  · intro done exited failure limit isLimit
    rw [← same failure limit isLimit]
    exact keeps.exited done exited failure limit isLimit
  · intro error failed
    rcases keeps.reported error failed with source | ⟨limit, isLimit, reached⟩
    · exact .inl source
    · exact .inr ⟨limit, isLimit, reached.trans (same _ limit isLimit)⟩

/-- Without a receiver, listening keeps to the limits. -/
theorem Connection.Listens.keepsTo {started now : Nat} {limits : Limits} {ending : StreamEnd}
    {output : CapturedOutput} {channel : Option Channel} {items : List StreamItem} {finish : Finish}
    (listens : Listens started limits ending now output channel items finish)
    (unreceived : channel = none) : finish.KeepsTo now limits := by
  have early : ∀ {now arrival : Nat}, limits.cutoff? now (some arrival) = none →
      ∀ failure limit, limits.limitOf? failure = some limit → arrival < max now limit := by
    intro now arrival uncut
    rcases Limits.exists_due_of_cutoff?_eq_none uncut with ⟨due, equal, early⟩
    cases equal
    exact early
  induction listens with
  | expires cut => exact keepsTo_of_cuts (Limits.cuts_of_cutoff? cut) _
  | closes closes uncut => exact keepsTo_of_failed (early uncut) _
  | cut cut => exact keepsTo_of_cuts (Limits.cuts_of_cutoff? cut) _
  | fails uncut content => exact keepsTo_of_failed (early uncut) _
  | exits uncut content forwarded =>
      subst unreceived
      cases forwarded
      exact ⟨fun failure limit isLimit => Nat.le_of_lt (early uncut failure limit isLimit),
        fun _ _ => early uncut, nofun⟩
  | goesOn uncut content different forwarded listens induction =>
      subst unreceived
      cases forwarded
      have later := (induction rfl).of_later (Nat.le_add_right _ _) (early uncut)
      exact ⟨later.le_limit, later.exited, later.reported⟩

namespace Connection

/-- A finish within the limits of what is listened to since an instant, whose time is counted from
the start. -/
structure Timed (started now : Nat) (limits : Limits) (finish : Finish) : Prop where
  now_le : now ≤ finish.instant
  le_deadline : finish.instant ≤ max now limits.deadline
  duration : finish.outcome.duration = ⟨finish.instant - started⟩

section

variable {started now : Nat} {limits : Limits} {ending : StreamEnd} {output : CapturedOutput}
  {channel : Option Channel} {items : List StreamItem} {finish : Finish}

theorem Listens.now_le
    (listens : Listens started limits ending now output channel items finish) :
    now ≤ finish.instant := by
  induction listens with
  | expires cut => exact (Limits.bounds_of_cutoff? cut).1
  | closes closes uncut =>
      cases ending with
      | hangs => cases closes
      | closes pause =>
          cases closes
          exact Nat.le_add_right _ _
  | cut cut => exact (Limits.bounds_of_cutoff? cut).1
  | fails uncut content => exact Nat.le_add_right _ _
  | exits uncut content forwarded =>
      exact Nat.le_trans (Nat.le_add_right _ _) (le_of_forward forwarded)
  | goesOn uncut content different forwarded listens induction =>
      exact Nat.le_trans (Nat.le_add_right _ _) (Nat.le_trans (le_of_forward forwarded) induction)

theorem Listens.duration
    (listens : Listens started limits ending now output channel items finish) :
    finish.outcome.duration = ⟨finish.instant - started⟩ := by
  induction listens with
  | goesOn uncut content different forwarded listens induction => exact induction
  | _ => rfl

/-- Listening is timed, if nobody else is told of the events. -/
theorem Listens.timed (listens : Listens started limits ending now output channel items finish)
    (unreceived : channel = none) : Timed started now limits finish where
  now_le := listens.now_le
  le_deadline := (listens.keepsTo unreceived).le_limit .timeout limits.deadline rfl
  duration := listens.duration

end

theorem timed_of_listen {started now : Nat} {limits : Limits} {ending : StreamEnd}
    {output : CapturedOutput} {items : List StreamItem} {finish : Finish}
    (ends : listen started limits ending now output none items = some finish) :
    Timed started now limits finish :=
  (listens_of_listen ends).timed rfl

end Connection

/-! ## Commands -/

/-- A request is decided by a limit that is reached, or by the reply. -/
theorem Course.cases_of_decide {limits : Limits} {started instant : Nat}
    {reply : Option (Nat × Except RunnerError EventStream)}
    {answer : Except ExecutionError EventStream}
    (decision : decide limits started reply = some (instant, answer)) :
    (∃ failure, limits.cutoff? started (reply.map fun (pause, _) => started + pause) =
        some (instant, failure) ∧
      answer = .error ⟨failure, .empty, ⟨instant - started⟩⟩) ∨
    ∃ pause replied, reply = some (pause, replied) ∧
      limits.cutoff? started (some (started + pause)) = none ∧ instant = started + pause ∧
      answer = replied.mapError fun source => ⟨.runner source, .empty, ⟨pause⟩⟩ := by
  rw [decide] at decision
  split at decision
  · rename_i ending failure cut
    cases decision
    exact .inl ⟨failure, cut, rfl⟩
  · rename_i uncut
    rcases Option.map_eq_some_iff.mp decision with ⟨⟨pause, replied⟩, rfl, equal⟩
    cases equal
    exact .inr ⟨pause, replied, rfl, uncut, rfl, rfl⟩

/-- A decision is made within the limits of the request. -/
theorem Course.bounds_of_decide {limits : Limits} {started : Nat}
    {reply : Option (Nat × Except RunnerError EventStream)}
    {decided : Nat × Except ExecutionError EventStream}
    (decision : decide limits started reply = some decided) :
    started ≤ decided.1 ∧ decided.1 ≤ max started limits.deadline := by
  rcases cases_of_decide decision with ⟨failure, cut, -⟩ | ⟨pause, replied, -, uncut, isInstant, -⟩
  · exact Limits.bounds_of_cutoff? cut
  · rw [isInstant]
    exact ⟨Nat.le_add_right _ _, Nat.le_of_lt (Limits.lt_of_cutoff?_eq_none uncut)⟩

namespace Job

theorem deadline_limits_le (job : Job) (started : Nat) :
    (job.limits started).deadline ≤ started + job.deadline.nanoseconds := by
  simp only [limits]
  split
  · exact Nat.le_refl _
  · rename_i far
    have years : farFuture.nanoseconds ≤ job.deadline.nanoseconds := by
      have bound : Nat.pow 2 63 = 9223372036854775808 := rfl
      simp only [Duration.seconds, farFuture, Duration.ofSeconds, bound] at far ⊢
      omega
    exact Nat.add_le_add_left years started

theorem le_deadline_limits (job : Job) (started : Nat) :
    started ≤ (job.limits started).deadline := Nat.le_add_right _ _

variable {job : Job} {answer : Answer (Except RunnerError EventStream)} {started : Nat}
  {finish : Finish}

/-- A job ends when it is started or later, and not after its deadline. -/
theorem bounds_of_conclusionAt? (concluded : job.conclusionAt? answer started = some finish) :
    started ≤ finish.instant ∧ finish.instant ≤ started + job.deadline.nanoseconds := by
  have deadline := job.deadline_limits_le started
  have later := job.le_deadline_limits started
  cases reached : (job.limits started).reached? started with
  | some failure =>
      rw [conclusionAt?_of_reached reached] at concluded
      cases concluded
      exact ⟨Nat.le_refl _, Nat.le_add_right _ _⟩
  | none =>
      rw [conclusionAt?_of_unreached reached] at concluded
      rcases Option.bind_eq_some_iff.mp concluded with ⟨⟨instant, error | stream⟩, decided, ends⟩
      · cases ends
        have bounds := Course.bounds_of_decide decided
        constructor
        · exact bounds.1
        · exact Nat.le_trans bounds.2 (by omega)
      · have bounds := Course.bounds_of_decide decided
        have timed := Connection.timed_of_listen ends
        have early := timed.now_le
        have late := timed.le_deadline
        simp only at bounds
        omega

/-- The time of a job that a pool answers at once is the time between its start and its end. -/
theorem duration_of_conclusionAt? (immediate : answer.reply.all (·.1 = 0))
    (concluded : job.conclusionAt? answer started = some finish) :
    finish.outcome.duration = ⟨finish.instant - started⟩ := by
  cases reached : (job.limits started).reached? started with
  | some failure =>
      rw [conclusionAt?_of_reached reached] at concluded
      cases concluded
      exact congrArg Duration.mk (Nat.sub_self started).symm
  | none =>
      rw [conclusionAt?_of_unreached reached] at concluded
      rcases Option.bind_eq_some_iff.mp concluded with ⟨⟨instant, decided⟩, decision, ends⟩
      rcases Course.cases_of_decide decision with
        ⟨failure, cut, rfl⟩ | ⟨pause, source | stream, replied, uncut, rfl, rfl⟩
      · cases ends
        rfl
      · cases ends
        exact congrArg Duration.mk (Nat.add_sub_cancel_left started pause).symm
      · have atOnce : pause = 0 := by simpa [replied] using immediate
        have timed := Connection.timed_of_listen ends
        rw [timed.duration, atOnce, Nat.add_zero]

end Job

end Grading
