import Grading.Lease

namespace Grading

/-! What is found by listening to a command: always something if nobody else has to be told of its
events, always what was heard, and the same whenever the listening starts. -/

/-! ## Captured output -/

namespace Event

def stdout? : Event → Option String
  | stdout chunk => some chunk
  | _ => none

def stderr? : Event → Option String
  | stderr chunk => some chunk
  | _ => none

end Event

namespace CapturedOutput

/-- The chunks of each stream one behind the other. -/
def joined (events : List Event) : CapturedOutput :=
  ⟨String.join (events.filterMap Event.stdout?), String.join (events.filterMap Event.stderr?)⟩

theorem foldl_append (output : CapturedOutput) (events : List Event) :
    events.foldl append output =
      ⟨output.stdout ++ (joined events).stdout, output.stderr ++ (joined events).stderr⟩ := by
  induction events generalizing output with
  | nil => simp [joined]
  | cons event rest induction =>
      rw [List.foldl_cons, induction]
      cases event <;>
        simp [append, joined, List.filterMap_cons, Event.stdout?, Event.stderr?,
          String.append_assoc]

theorem ofEvents_eq_joined (events : List Event) : ofEvents events = joined events := by
  rw [ofEvents, foldl_append]
  simp [joined, empty]

end CapturedOutput

/-- What is recorded as a log: the status, and what was heard on each stream. -/
theorem Outcome.log_ofEvents (status : ExecutionStatus) (events : List Event) :
    log status (.ofEvents events) =
      "status: " ++ status.name ++
        "\n stdout: " ++ String.join (events.filterMap Event.stdout?) ++
        "\n stderr: " ++ String.join (events.filterMap Event.stderr?) := by
  rw [CapturedOutput.ofEvents_eq_joined]
  rfl

/-! ## Handing on -/

/-- Sending is done at once if nobody receives any more, and else when there is room or the receiver
leaves. -/
theorem Channel.cases_of_send {channel later : Channel} {now instant : Nat} {event : Event}
    (sent : channel.send now event = some (instant, later)) :
    (instant = now ∧ (channel.isOpen = false ∨ channel.receiptsOf.2.any (· ≤ now) = true)) ∨
      (∃ room, channel.roomFrom? channel.receiptsOf.1 = some room ∧ instant = max now room) ∨
        ∃ left, channel.receiptsOf.2 = some left ∧ now < left ∧ instant = left := by
  simp only [send] at sent
  split at sent
  · rename_i isClosed
    cases sent
    exact .inl ⟨rfl, .inl (by simpa using isClosed)⟩
  · split at sent
    · rename_i isPast
      cases sent
      exact .inl ⟨rfl, .inr isPast⟩
    · rename_i present
      split at sent
      · rename_i room hasRoom
        cases sent
        exact .inr (.inl ⟨room, hasRoom, rfl⟩)
      · rename_i left leaves
        cases sent
        simp only [leaves, Option.any_some, decide_eq_true_eq, Nat.not_le] at present
        exact .inr (.inr ⟨_, leaves, present, rfl⟩)
      · cases sent

theorem Channel.le_of_send {channel later : Channel} {now instant : Nat} {event : Event}
    (sent : channel.send now event = some (instant, later)) : now ≤ instant := by
  rcases cases_of_send sent with ⟨rfl, -⟩ | ⟨room, -, rfl⟩ | ⟨left, -, isLater, rfl⟩
  · exact Nat.le_refl _
  · exact Nat.le_max_left _ _
  · exact Nat.le_of_lt isLater

theorem Connection.le_of_forward {channel later : Option Channel} {now instant : Nat}
    {event : Event} (forwarded : forward channel now event = some (instant, later)) :
    now ≤ instant := by
  cases channel with
  | none =>
      cases forwarded
      exact Nat.le_refl _
  | some channel =>
      rcases Option.map_eq_some_iff.mp forwarded with ⟨⟨instant, later⟩, sent, equal⟩
      cases equal
      exact Channel.le_of_send sent

/-! ## Listening -/

/-- How listening goes from an instant on, with the output and the channel of that instant. -/
inductive Connection.Listens (started : Nat) (limits : Limits) (ending : StreamEnd) :
    Nat → CapturedOutput → Option Channel → List StreamItem → Finish → Prop
  | expires {now : Nat} {output : CapturedOutput} {channel : Option Channel} {instant : Nat}
      {failure : ExecutionFailure}
      (cut : limits.cutoff? now (ending.instant? now) = some (instant, failure)) :
      Listens started limits ending now output channel []
        ⟨instant, failed started instant output failure, [], channel⟩
  | closes {now : Nat} {output : CapturedOutput} {channel : Option Channel} {closing : Nat}
      (closes : ending.instant? now = some closing)
      (uncut : limits.cutoff? now (some closing) = none) :
      Listens started limits ending now output channel []
        ⟨closing, failed started closing output (.runner closedEarly), [], channel⟩
  | cut {now : Nat} {output : CapturedOutput} {channel : Option Channel} {item : StreamItem}
      {rest : List StreamItem} {instant : Nat} {failure : ExecutionFailure}
      (cut : limits.cutoff? now (some (now + item.pause)) = some (instant, failure)) :
      Listens started limits ending now output channel (item :: rest)
        ⟨instant, failed started instant output failure, [], channel⟩
  | fails {now : Nat} {output : CapturedOutput} {channel : Option Channel} {item : StreamItem}
      {rest : List StreamItem} {source : RunnerError}
      (uncut : limits.cutoff? now (some (now + item.pause)) = none)
      (content : item.content = .error source) :
      Listens started limits ending now output channel (item :: rest)
        ⟨now + item.pause, failed started (now + item.pause) output (.runner source), [], channel⟩
  | exits {now : Nat} {output : CapturedOutput} {channel : Option Channel} {item : StreamItem}
      {rest : List StreamItem} {code : Int32} {instant : Nat} {later : Option Channel}
      (uncut : limits.cutoff? now (some (now + item.pause)) = none)
      (content : item.content = .ok (.exit code))
      (forwarded : forward channel (now + item.pause) (.exit code) = some (instant, later)) :
      Listens started limits ending now output channel (item :: rest)
        ⟨instant, .ok ⟨code, output, ⟨instant - started⟩⟩, [.exit code], later⟩
  | goesOn {now : Nat} {output : CapturedOutput} {channel : Option Channel} {item : StreamItem}
      {rest : List StreamItem} {event : Event} {instant : Nat} {later : Option Channel}
      {finish : Finish}
      (uncut : limits.cutoff? now (some (now + item.pause)) = none)
      (content : item.content = .ok event) (different : ∀ code, event ≠ .exit code)
      (forwarded : forward channel (now + item.pause) event = some (instant, later))
      (listens : Listens started limits ending instant (output.append event) later rest finish) :
      Listens started limits ending now output channel (item :: rest) (finish.after event)

/-- What waits for the end of a stream is cut off, unless the stream closes. -/
theorem Connection.exists_closing_of_uncut {now : Nat} {limits : Limits} {ending : StreamEnd}
    (uncut : limits.cutoff? now (ending.instant? now) = none) :
    ∃ closing, ending.instant? now = some closing := by
  cases closes : ending.instant? now with
  | some closing => exact ⟨closing, rfl⟩
  | none =>
      rw [closes] at uncut
      have isCut := limits.isSome_cutoff?_none now
      rw [uncut] at isCut
      cases isCut

theorem Connection.listens_of_listen {started : Nat} {limits : Limits} {ending : StreamEnd}
    {now : Nat} {output : CapturedOutput} {channel : Option Channel} {items : List StreamItem}
    {finish : Finish} (ends : listen started limits ending now output channel items = some finish) :
    Listens started limits ending now output channel items finish := by
  induction items generalizing now output channel finish with
  | nil =>
      cases cut : limits.cutoff? now (ending.instant? now) with
      | some ending =>
          simp only [listen, cut] at ends
          cases ends
          exact .expires cut
      | none =>
          rcases exists_closing_of_uncut cut with ⟨closing, closes⟩
          rw [closes] at cut
          simp only [listen, closes, cut, Option.getD_some] at ends
          cases ends
          exact .closes closes cut
  | cons item rest induction =>
      cases cut : limits.cutoff? now (some (now + item.pause)) with
      | some ending =>
          simp only [listen, cut] at ends
          cases ends
          exact .cut cut
      | none =>
          cases content : item.content with
          | error source =>
              simp only [listen, cut, content] at ends
              cases ends
              exact .fails cut content
          | ok event =>
              cases forwarded : forward channel (now + item.pause) event with
              | none =>
                  simp only [listen, cut, content, forwarded] at ends
                  cases ends
              | some sent =>
                  by_cases exits : ∃ code, event = .exit code
                  · rcases exits with ⟨code, rfl⟩
                    simp only [listen, cut, content, forwarded] at ends
                    cases ends
                    exact .exits cut content forwarded
                  · have different : ∀ code, event ≠ .exit code :=
                      fun code equal => exits ⟨code, equal⟩
                    simp only [listen, cut, content, forwarded] at ends
                    rcases Option.map_eq_some_iff.mp ends with ⟨later, listened, rfl⟩
                    exact .goesOn cut content different forwarded (induction listened)

/-! ## Without a receiver -/

/-- Where events are not handed on, listening ends. -/
theorem Connection.exists_listen (started : Nat) (limits : Limits) (ending : StreamEnd)
    (items : List StreamItem) (now : Nat) (output : CapturedOutput) :
    ∃ finish, listen started limits ending now output none items = some finish ∧
      finish.channel = none := by
  induction items generalizing now output with
  | nil =>
      simp only [listen]
      split
      · exact ⟨_, rfl, rfl⟩
      · exact ⟨_, rfl, rfl⟩
  | cons item rest induction =>
      simp only [listen]
      split
      · exact ⟨_, rfl, rfl⟩
      · cases item.content with
        | error source => exact ⟨_, rfl, rfl⟩
        | ok event =>
            rcases induction (now + item.pause) (output.append event) with ⟨finish, ends, channel⟩
            cases event with
            | exit code => exact ⟨_, rfl, rfl⟩
            | stdout chunk =>
                simp only [forward, ends]
                exact ⟨_, rfl, channel⟩
            | stderr chunk =>
                simp only [forward, ends]
                exact ⟨_, rfl, channel⟩

/-- A request to a pool is decided, because there is a deadline. -/
theorem Course.exists_decide (limits : Limits) (started : Nat)
    (reply : Option (Nat × Except RunnerError EventStream)) :
    ∃ decided, decide limits started reply = some decided := by
  cases reply with
  | none =>
      rcases Option.isSome_iff_exists.mp (limits.isSome_cutoff?_none started) with ⟨ending, cut⟩
      simp only [decide, Option.map_none, cut]
      exact ⟨_, rfl⟩
  | some reply =>
      simp only [decide, Option.map_some]
      split
      · exact ⟨_, rfl⟩
      · exact ⟨_, rfl⟩

/-- A command that nobody else is told of will end. -/
theorem Course.exists_conclusion? (limits : Limits) (started : Nat)
    (reply : Option (Nat × Except RunnerError EventStream)) :
    ∃ finish, (attaching limits none (decide limits started reply)).conclusion? = some finish := by
  rcases exists_decide limits started reply with ⟨⟨instant, error | stream⟩, decided⟩
  · rw [decided]
    exact ⟨_, rfl⟩
  · rw [decided]
    rcases Connection.exists_listen instant limits stream.ending stream.items instant .empty with
      ⟨finish, ends, -⟩
    exact ⟨finish, ends⟩

/-- A job that nobody else is told of ends. -/
theorem Runner.exists_conclusion?_of_start {pool : Pool} {runner executing : Runner} {job : Job}
    {world later : World} {course : Course} (unreceived : job.receiver = none)
    (started : (start pool runner job).perform world = (some (.ok (executing, course)), later)) :
    ∃ finish, course.conclusion? = some finish := by
  rcases cases_of_start started with ⟨-, ⟨failure, -, rfl, -⟩ | ⟨-, rfl, -⟩⟩
  · exact ⟨_, rfl⟩
  · rw [unreceived]
    exact Course.exists_conclusion? _ _ _

/-! ## What was heard -/

namespace Finish

/-- How the execution went. -/
def outcome (finish : Finish) : Outcome := .ofResult finish.result

/-- The output is what was heard, and there is an exit code if it was heard. -/
structure IsFaithful (finish : Finish) : Prop where
  output : finish.outcome.output = .ofEvents finish.heard
  exitCode : ∀ code, finish.outcome.exitCode = some code ↔ .exit code ∈ finish.heard

theorem isFaithful_of_nothing {finish : Finish} {error : ExecutionError}
    (result : finish.result = .error error) (captured : error.output = .empty)
    (heard : finish.heard = []) : finish.IsFaithful where
  output := by
    rw [outcome, result, heard]
    exact captured
  exitCode := by
    intro code
    rw [outcome, result, heard]
    exact ⟨nofun, nofun⟩

end Finish

namespace Connection

variable {started : Nat} {limits : Limits} {ending : StreamEnd} {now : Nat}
  {output : CapturedOutput} {channel : Option Channel} {finish : Finish}

theorem heard_of_failure {failure : ExecutionFailure} {ended : Nat} (heard : finish.heard = [])
    (result : finish.result = failed started ended output failure) :
    finish.outcome.output = finish.heard.foldl CapturedOutput.append output ∧
      ∀ code, finish.outcome.exitCode = some code ↔ .exit code ∈ finish.heard := by
  rw [Finish.outcome, result, heard]
  exact ⟨rfl, fun _ => ⟨nofun, nofun⟩⟩

/-- Listening adds to the output what it hears, and hears an exit code if there is one. -/
theorem Listens.heard {items : List StreamItem}
    (listens : Listens started limits ending now output channel items finish) :
    finish.outcome.output = finish.heard.foldl CapturedOutput.append output ∧
      ∀ code, finish.outcome.exitCode = some code ↔ .exit code ∈ finish.heard := by
  induction listens with
  | expires cut => exact heard_of_failure rfl rfl
  | closes closes uncut => exact heard_of_failure rfl rfl
  | cut cut => exact heard_of_failure rfl rfl
  | fails uncut content => exact heard_of_failure rfl rfl
  | exits uncut content forwarded =>
      refine ⟨rfl, fun other => ?_⟩
      simp [Finish.outcome, Outcome.ofResult, eq_comm]
  | goesOn uncut content different forwarded listens induction =>
      rcases induction with ⟨captured, exited⟩
      refine ⟨captured, fun code => (exited code).trans ?_⟩
      constructor
      · exact List.mem_cons_of_mem _
      · intro member
        rcases List.mem_cons.mp member with equal | later
        · exact absurd equal.symm (different code)
        · exact later

end Connection

theorem Course.isFaithful_of_conclusion? {limits : Limits} {channel : Option Channel}
    {started : Nat} {reply : Option (Nat × Except RunnerError EventStream)} {finish : Finish}
    (concluded : (attaching limits channel (decide limits started reply)).conclusion? =
      some finish) : finish.IsFaithful := by
  rcases Option.bind_eq_some_iff.mp concluded with ⟨⟨instant, error | stream⟩, decided, ends⟩
  · cases ends
    refine Finish.isFaithful_of_nothing rfl ?_ rfl
    simp only [decide] at decided
    split at decided
    · cases decided
      rfl
    · rcases Option.map_eq_some_iff.mp decided with ⟨⟨pause, source | stream⟩, -, equal⟩
      · cases equal
        rfl
      · cases equal
  · rcases (Connection.listens_of_listen ends).heard with ⟨output, exitCode⟩
    exact ⟨output, exitCode⟩

/-- However a job ends, its output is what was heard, and its exit code was heard. -/
theorem Runner.Ends.isFaithful {pool : Pool} {runner : Runner} {job : Job} {world : World}
    {finish : Finish} (ends : Ends pool runner job world finish) : finish.IsFaithful := by
  cases ends with
  | refused later refused =>
      rcases eq_of_start_error refused with ⟨-, source, -, result, heard⟩
      exact Finish.isFaithful_of_nothing result rfl heard
  | concluded executing course later started concluded =>
      rcases cases_of_start started with ⟨-, ⟨failure, -, rfl, -⟩ | ⟨-, rfl, -⟩⟩
      · cases concluded
        exact Finish.isFaithful_of_nothing rfl rfl rfl
      · exact Course.isFaithful_of_conclusion? concluded

/-! ## Later -/

/-- The limits of something that happens later. -/
def Limits.later (limits : Limits) (pause : Nat) : Limits :=
  ⟨limits.deadline + pause, limits.cancellation.map (· + pause)⟩

theorem Limits.cutoff?_later (limits : Limits) (pause now : Nat) (instant : Option Nat) :
    (limits.later pause).cutoff? (now + pause) (instant.map (· + pause)) =
      (limits.cutoff? now instant).map fun (instant, failure) => (instant + pause, failure) := by
  obtain ⟨deadline, cancellation⟩ := limits
  have moved : ∀ bound : Nat, (instant.map (· + pause)).all (bound + pause ≤ ·) =
      instant.all (bound ≤ ·) := by
    intro bound
    cases instant with
    | none => rfl
    | some instant => simp only [Option.map_some, Option.all_some, Nat.add_le_add_iff_right]
  cases cancellation with
  | none =>
      simp only [later, cutoff?, Option.map_none, Nat.add_max_add_right, moved]
      split <;> rfl
  | some cancelled =>
      simp only [later, cutoff?, Option.map_some, Nat.add_max_add_right, moved,
        Nat.add_le_add_iff_right]
      split
      · rfl
      · split <;> rfl

theorem Limits.cutoff?_later_some (limits : Limits) (pause now instant : Nat) :
    (limits.later pause).cutoff? (now + pause) (some (instant + pause)) =
      (limits.cutoff? now (some instant)).map
        fun (instant, failure) => (instant + pause, failure) :=
  limits.cutoff?_later pause now (some instant)

/-- A finish that comes later. -/
def Finish.later (pause : Nat) (finish : Finish) : Finish :=
  { finish with instant := finish.instant + pause }

theorem Connection.failed_later (pause started now : Nat) (output : CapturedOutput)
    (failure : ExecutionFailure) :
    failed (started + pause) (now + pause) output failure = failed started now output failure := by
  simp only [failed, Nat.add_sub_add_right]

/-- Nothing depends on when the listening starts, if nobody else is told of the events. -/
theorem Connection.listen_later (pause started : Nat) (limits : Limits) (ending : StreamEnd)
    (items : List StreamItem) (now : Nat) (output : CapturedOutput) :
    listen (started + pause) (limits.later pause) ending (now + pause) output none items =
      (listen started limits ending now output none items).map (Finish.later pause) := by
  induction items generalizing now output with
  | nil =>
      have closes : ending.instant? (now + pause) = (ending.instant? now).map (· + pause) := by
        cases ending with
        | hangs => rfl
        | closes last =>
            have moved : now + pause + last = now + last + pause := by omega
            exact congrArg some moved
      have cut := limits.cutoff?_later pause now (ending.instant? now)
      simp only [listen, closes, cut]
      cases limits.cutoff? now (ending.instant? now) with
      | some ending =>
          simp only [Option.map_some, failed_later]
          rfl
      | none =>
          have closed : ((ending.instant? now).map (· + pause)).getD (now + pause) =
              (ending.instant? now).getD now + pause := by
            cases ending.instant? now <;> rfl
          simp only [Option.map_none, closed, failed_later]
          rfl
  | cons item rest induction =>
      have arrives : now + pause + item.pause = now + item.pause + pause := by omega
      have cut := limits.cutoff?_later_some pause now (now + item.pause)
      simp only [listen, arrives, cut]
      cases limits.cutoff? now (some (now + item.pause)) with
      | some ending =>
          simp only [Option.map_some, failed_later]
          rfl
      | none =>
          cases item.content with
          | error source =>
              simp only [Option.map_none, failed_later]
              rfl
          | ok event =>
              cases event with
              | exit code =>
                  simp only [Option.map_none, forward, Nat.add_sub_add_right]
                  rfl
              | stdout chunk =>
                  simp only [Option.map_none, forward, induction, Option.map_map]
                  rfl
              | stderr chunk =>
                  simp only [Option.map_none, forward, induction, Option.map_map]
                  rfl

/-- A decision that is later. -/
theorem Course.decide_later (pause started : Nat) (limits : Limits)
    (reply : Option (Nat × Except RunnerError EventStream)) :
    decide (limits.later pause) (started + pause) reply =
      (decide limits started reply).map fun (instant, answer) => (instant + pause, answer) := by
  cases reply with
  | none =>
      have cut := limits.cutoff?_later pause started none
      simp only [decide, Option.map_none] at cut ⊢
      rw [cut]
      cases limits.cutoff? started none with
      | none => rfl
      | some ending => simp only [Option.map_some, Nat.add_sub_add_right]
  | some reply =>
      have arrives : started + pause + reply.1 = started + reply.1 + pause := by omega
      have cut := limits.cutoff?_later_some pause started (started + reply.1)
      simp only [decide, Option.map_some, arrives, cut]
      cases limits.cutoff? started (some (started + reply.1)) with
      | none => rfl
      | some ending => simp only [Option.map_some, Nat.add_sub_add_right]

/-- How a command will have gone does not depend on when it is asked for. -/
theorem Course.conclusion?_later (pause started : Nat) (limits : Limits)
    (reply : Option (Nat × Except RunnerError EventStream)) :
    (attaching (limits.later pause) none
      (decide (limits.later pause) (started + pause) reply)).conclusion? =
      (attaching limits none (decide limits started reply)).conclusion?.map
        (Finish.later pause) := by
  rw [decide_later]
  rcases exists_decide limits started reply with ⟨⟨instant, error | stream⟩, decided⟩
  · rw [decided]
    rfl
  · rw [decided]
    exact Connection.listen_later pause instant limits stream.ending stream.items instant .empty

/-! ## Jobs -/

namespace Job

/-- How a job will have gone that is started at an instant, if a pool has this answer for it and
nobody is told of it. -/
def conclusionAt? (job : Job) (answer : Answer (Except RunnerError EventStream)) (started : Nat) :
    Option Finish :=
  match (job.limits started).reached? started with
  | some failure => some ⟨started, .error ⟨failure, .empty, .zero⟩, [], none⟩
  | none => (Course.attaching (job.limits started) none
      (Course.decide (job.limits started) started answer.reply)).conclusion?

/-- How it will have gone if it is started at the beginning of the clock. -/
def conclusion? (job : Job) (answer : Answer (Except RunnerError EventStream)) : Option Finish :=
  job.conclusionAt? answer 0

theorem conclusionAt?_of_reached {job : Job} {started : Nat} {failure : ExecutionFailure}
    (reached : (job.limits started).reached? started = some failure)
    (answer : Answer (Except RunnerError EventStream)) :
    job.conclusionAt? answer started =
      some ⟨started, .error ⟨failure, .empty, .zero⟩, [], none⟩ := by
  rw [conclusionAt?, reached]

theorem conclusionAt?_of_unreached {job : Job} {started : Nat}
    (unreached : (job.limits started).reached? started = none)
    (answer : Answer (Except RunnerError EventStream)) :
    job.conclusionAt? answer started = (Course.attaching (job.limits started) none
      (Course.decide (job.limits started) started answer.reply)).conclusion? := by
  rw [conclusionAt?, unreached]

theorem limits_eq_later {job : Job} (uncancelled : job.cancellation = none) (started : Nat) :
    job.limits started = (job.limits 0).later started := by
  simp only [limits, Limits.later, uncancelled, Option.map_none, Nat.zero_add, Nat.add_comm]

end Job

theorem Limits.reached?_later (limits : Limits) (pause : Nat) :
    (limits.later pause).reached? pause = limits.reached? 0 := by
  have cut := limits.cutoff?_later_some pause 0 0
  rw [Nat.zero_add] at cut
  rw [reached?, cut, reached?]
  cases limits.cutoff? 0 (some 0) <;> rfl

/-- A job that is not cancelled goes as it would have gone at the beginning of the clock. -/
theorem Job.conclusionAt?_eq_later {job : Job} (uncancelled : job.cancellation = none)
    (answer : Answer (Except RunnerError EventStream)) (started : Nat) :
    job.conclusionAt? answer started = (job.conclusion? answer).map (Finish.later started) := by
  have same := Limits.reached?_later (job.limits 0) started
  rw [← limits_eq_later uncancelled] at same
  cases reached : (job.limits 0).reached? 0 with
  | some failure =>
      rw [conclusion?, conclusionAt?_of_reached (same.trans reached),
        conclusionAt?_of_reached reached, Option.map_some, Finish.later]
      simp only [Nat.zero_add]
  | none =>
      have later := Course.conclusion?_later started 0 (job.limits 0) answer.reply
      rw [Nat.zero_add, ← limits_eq_later uncancelled] at later
      rw [conclusion?, conclusionAt?_of_unreached (same.trans reached),
        conclusionAt?_of_unreached reached, later]

/-- A job that was started goes as it has to go. -/
theorem Runner.conclusion?_of_start {pool : Pool} {runner executing : Runner} {job : Job}
    {world later : World} {course : Course} (unreceived : job.receiver = none)
    (started : (start pool runner job).perform world = (some (.ok (executing, course)), later)) :
    course.conclusion? = job.conclusionAt?
      (pool.attach (world.noting (.move .executing)).log executing job.command) world.now := by
  rcases cases_of_start started with ⟨-, ⟨failure, reached, rfl, -⟩ | ⟨unreached, rfl, -⟩⟩
  · rw [Job.conclusionAt?_of_reached reached, unreceived]
    rfl
  · rw [Job.conclusionAt?_of_unreached unreached, unreceived]
    rfl

/-- A job that is not cancelled, and that nobody is told of, goes as it would have gone at the
beginning of the clock. -/
theorem Runner.Ends.conclusion? {pool : Pool} {runner : Runner} {job : Job} {world : World}
    {finish : Finish} (ends : Ends pool runner job world finish)
    (movable : runner.state.canMove .executing) (uncancelled : job.cancellation = none)
    (unreceived : job.receiver = none) :
    (job.conclusion? (pool.attach (world.noting (.move .executing)).log
      { runner with state := .executing } job.command)).map (Finish.later world.now) =
        some finish := by
  have moved : runner.move .executing = .ok { runner with state := .executing } :=
    if_pos movable
  cases ends with
  | refused later refused =>
      rcases eq_of_start_error refused with ⟨-, source, notMoved, -⟩
      rw [moved] at notMoved
      cases notMoved
  | concluded executing course later started concluded =>
      rcases cases_of_start started with ⟨alsoMoved, -⟩
      cases alsoMoved.symm.trans moved
      rw [← Job.conclusionAt?_eq_later uncancelled, ← conclusion?_of_start unreceived started]
      exact concluded

end Grading
