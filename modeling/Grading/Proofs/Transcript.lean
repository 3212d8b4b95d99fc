import Grading.Proofs.Arrivals
import Grading.Proofs.Forwarding
import Grading.Proofs.SingleRun

namespace Grading

/-! A single run shows what it records. A receiver that reads on gets all events that were heard, in
their order. The record holds the output of these events, and the run returns what the record
says. -/

/-! ## Receivers that read on -/

/-- Whether a receiver takes one event after the other, each after a pause, and never leaves. -/
structure Receiver.ReadsOn (receiver : Receiver) : Prop where
  hasRoom : 0 < receiver.capacity
  takes : ∀ taken, ∃ pause, receiver.reception taken = .take pause

namespace Channel

variable {receiver : Receiver} {channel : Channel} {events : List Event}

/-- A receiver that reads on takes everything and does not leave. -/
theorem receipts_of_readsOn (readsOn : receiver.ReadsOn) (taken since : Nat)
    (instants : List Nat) :
    (receipts receiver taken since instants).1.length = instants.length ∧
      (receipts receiver taken since instants).2 = none := by
  induction instants generalizing taken since with
  | nil =>
      rcases readsOn.takes taken with ⟨pause, takes⟩
      simp [receipts, takes]
  | cons sent rest induction =>
      rcases readsOn.takes taken with ⟨pause, takes⟩
      rcases induction (taken + 1) (max (since + pause) sent) with ⟨all, stays⟩
      simp only [receipts, takes, List.length_cons]
      exact ⟨congrArg (· + 1) all, stays⟩

/-- A channel that is open for a receiver, and over which these events were sent. -/
structure Carries (channel : Channel) (receiver : Receiver) (events : List Event) : Prop where
  receiver : channel.receiver = receiver
  isOpen : channel.isOpen = true
  sent : channel.sent.map Prod.snd = events

theorem carries_new (receiver : Receiver) (opened : Nat) :
    (new receiver opened).Carries receiver [] :=
  ⟨rfl, rfl, rfl⟩

theorem Carries.received (carries : channel.Carries receiver events)
    (readsOn : receiver.ReadsOn) : channel.received = events := by
  have all := (receipts_of_readsOn readsOn 0 channel.opened (channel.sent.map Prod.fst)).1
  rw [← carries.receiver, List.length_map] at all
  rw [Channel.received, receiptsOf, all, List.take_length, carries.sent]

/-- Sending to a receiver that reads on is done when there is room, and some time there is. -/
theorem Carries.exists_send (carries : channel.Carries receiver events)
    (readsOn : receiver.ReadsOn) (now : Nat) (event : Event) :
    ∃ instant later, channel.send now event = some (instant, later) ∧
      later.Carries receiver (events ++ [event]) := by
  rcases receipts_of_readsOn readsOn 0 channel.opened (channel.sent.map Prod.fst) with
    ⟨all, stays⟩
  rw [← carries.receiver] at all stays
  have hasRoom : 0 < channel.receiver.capacity := carries.receiver.symm ▸ readsOn.hasRoom
  have room : ∃ instant, channel.roomFrom? channel.receiptsOf.1 = some instant := by
    rw [roomFrom?]
    split
    · exact ⟨0, rfl⟩
    · rename_i full
      rw [receiptsOf]
      refine ⟨_, List.getElem?_eq_getElem ?_⟩
      rw [all, List.length_map]
      omega
  rcases room with ⟨instant, room⟩
  refine ⟨max now instant, { channel with sent := channel.sent ++ [(max now instant, event)] }, ?_,
    carries.receiver, carries.isOpen, ?_⟩
  · simp only [send, carries.isOpen, Bool.not_true, Bool.false_eq_true, if_false]
    rw [show channel.receiptsOf.2 = none from stays]
    simp only [Option.any_none, Bool.false_eq_true, if_false, room]
  · simp [carries.sent]

end Channel

/-! ## What is heard and handed on -/

namespace Finish

/-- How listening ends that tells a receiver of everything it hears. What it hears comes from the
contents of a stream: chunks of output, and behind them the exit, if there was one. -/
structure Relays (finish : Finish) (receiver : Receiver)
    (contents : List (Except RunnerError Event)) : Prop where
  shown : ∃ channel, finish.channel = some channel ∧ channel.Carries receiver finish.heard
  isPrefix : finish.heard.map .ok <+: contents
  exits : ∃ chunks, finish.heard = chunks ++ (finish.outcome.exitCode.map Event.exit).toList ∧
    ∀ event ∈ chunks, ∀ code, event ≠ .exit code
  output : finish.outcome.output = .ofEvents finish.heard

/-- Nothing is heard of a command that is not listened to. -/
theorem relays_of_nothing {finish : Finish} {error : ExecutionError} {receiver : Receiver}
    {opened : Nat} (contents : List (Except RunnerError Event))
    (result : finish.result = .error error) (captured : error.output = .empty)
    (heard : finish.heard = []) (channel : finish.channel = some (.new receiver opened)) :
    finish.Relays receiver contents where
  shown := ⟨_, channel, heard ▸ Channel.carries_new receiver opened⟩
  isPrefix := by
    rw [heard]
    exact List.nil_prefix
  exits := by
    rw [outcome, result, heard]
    exact ⟨[], rfl, List.forall_mem_nil _⟩
  output := (isFaithful_of_nothing result captured heard).output

end Finish

namespace Connection

variable {started : Nat} {limits : Limits} {ending : StreamEnd} {now : Nat}
  {output : CapturedOutput} {channel : Option Channel} {finish : Finish}

/-- Listening ends if a receiver that reads on is told of the events, and it is told of all that are
heard. -/
theorem exists_listen_of_readsOn {receiver : Receiver} (readsOn : receiver.ReadsOn) (started : Nat)
    (limits : Limits) (ending : StreamEnd) (items : List StreamItem) (now : Nat)
    (output : CapturedOutput) {channel : Channel} {events : List Event}
    (carries : channel.Carries receiver events) :
    ∃ finish later, listen started limits ending now output (some channel) items = some finish ∧
      finish.channel = some later ∧ later.Carries receiver (events ++ finish.heard) := by
  have unheard : channel.Carries receiver (events ++ []) :=
    (List.append_nil events).symm ▸ carries
  induction items generalizing now output channel events with
  | nil =>
      simp only [listen]
      split
      · exact ⟨_, _, rfl, rfl, unheard⟩
      · exact ⟨_, _, rfl, rfl, unheard⟩
  | cons item rest induction =>
      simp only [listen]
      split
      · exact ⟨_, _, rfl, rfl, unheard⟩
      · cases item.content with
        | error source => exact ⟨_, _, rfl, rfl, unheard⟩
        | ok event =>
            rcases carries.exists_send readsOn (now + item.pause) event with
              ⟨instant, told, sent, carriesEvent⟩
            simp only [forward, sent, Option.map_some]
            rcases induction instant (output.append event) carriesEvent
              ((List.append_nil _).symm ▸ carriesEvent) with ⟨finish, later, ends, same, carriesAll⟩
            have carriesRest : later.Carries receiver (events ++ (finish.after event).heard) := by
              rw [List.append_assoc] at carriesAll
              exact carriesAll
            cases event with
            | exit code => exact ⟨_, told, rfl, rfl, carriesEvent⟩
            | stdout chunk =>
                simp only [ends, Option.map_some]
                exact ⟨_, later, rfl, same, carriesRest⟩
            | stderr chunk =>
                simp only [ends, Option.map_some]
                exact ⟨_, later, rfl, same, carriesRest⟩

/-- What is heard is the beginning of what the stream holds. -/
theorem Listens.isPrefix {items : List StreamItem}
    (listens : Listens started limits ending now output channel items finish) :
    finish.heard.map .ok <+: items.map StreamItem.content := by
  induction listens with
  | expires | closes | cut | fails => exact List.nil_prefix
  | exits uncut content forwarded =>
      simp only [List.map_cons, content]
      exact List.cons_prefix_cons.mpr ⟨rfl, List.nil_prefix⟩
  | goesOn uncut content different forwarded listens induction =>
      simp only [List.map_cons, content]
      exact List.cons_prefix_cons.mpr ⟨rfl, induction⟩

/-- Nothing is heard after the exit. -/
theorem Listens.exit_last {items : List StreamItem}
    (listens : Listens started limits ending now output channel items finish) :
    ∃ chunks, finish.heard = chunks ++ (finish.outcome.exitCode.map Event.exit).toList ∧
      ∀ event ∈ chunks, ∀ code, event ≠ .exit code := by
  induction listens with
  | expires | closes | cut | fails => exact ⟨[], rfl, List.forall_mem_nil _⟩
  | exits uncut content forwarded => exact ⟨[], rfl, List.forall_mem_nil _⟩
  | goesOn uncut content different forwarded listens induction =>
      rcases induction with ⟨chunks, heard, goOn⟩
      refine ⟨_ :: chunks, congrArg (List.cons _) heard, ?_⟩
      intro event member
      rcases List.mem_cons.mp member with rfl | later
      · exact different
      · exact goOn event later

theorem exists_relays_of_wait {receiver : Receiver} (readsOn : receiver.ReadsOn)
    (stream : EventStream) (opened now : Nat) (limits : Limits) :
    ∃ finish, (Connection.mk stream (some (.new receiver opened))).wait now limits = some finish ∧
      finish.Relays receiver stream.contents := by
  rcases exists_listen_of_readsOn readsOn now limits stream.ending stream.items now .empty
    (Channel.carries_new receiver opened) with ⟨finish, later, ends, channel, carries⟩
  have listens := listens_of_listen ends
  exact ⟨finish, ends, ⟨later, channel, carries⟩, listens.isPrefix, listens.exit_last,
    listens.heard.1⟩

end Connection

/-! ## Commands -/

theorem EventStream.contents_delayed (pause : Nat) (stream : EventStream) :
    (stream.delayed pause).contents = stream.contents := by
  obtain ⟨_ | ⟨first, rest⟩, closes | hangs⟩ := stream <;> rfl

theorem Script.contents_stream (script : Script) (pause : Nat) :
    (script.stream pause).contents = script.contents := by
  rw [stream, EventStream.contents_delayed, EventStream.ofContents, EventStream.contents,
    List.map_map]
  exact List.map_id _

/-- A scripted pool starts a command with its script or not at all. -/
theorem ScriptedPool.contents_of_attachment {scripted : ScriptedPool} {history : Log}
    {runner : Runner} {command : String} {pause : Nat} {stream : EventStream}
    (replied : (scripted.attachment history runner command).reply = some (pause, .ok stream)) :
    stream.contents = (scripted.scriptOf command).contents := by
  rw [attachment] at replied
  split at replied
  · cases replied
  · split at replied
    · cases replied
    · dsimp only at replied
      split at replied
      · cases replied
      · cases replied
        exact Script.contents_stream _ _

/-- A command under way ends if a receiver that reads on is told of its events. -/
theorem Course.exists_relays {receiver : Receiver} (readsOn : receiver.ReadsOn) (limits : Limits)
    (opened started : Nat) {reply : Option (Nat × Except RunnerError EventStream)}
    {contents : List (Except RunnerError Event)}
    (holds : ∀ pause stream, reply = some (pause, .ok stream) → stream.contents = contents) :
    ∃ finish, (attaching limits (some (.new receiver opened))
        (decide limits started reply)).conclusion? = some finish ∧
      finish.Relays receiver contents := by
  rcases exists_decide limits started reply with ⟨⟨instant, error | stream⟩, decided⟩
  · rw [decided]
    refine ⟨_, rfl, Finish.relays_of_nothing contents rfl ?_ rfl rfl⟩
    rw [decide] at decided
    split at decided
    · cases decided
      rfl
    · rcases Option.map_eq_some_iff.mp decided with ⟨⟨pause, source | stream⟩, -, equal⟩
      · cases equal
        rfl
      · cases equal
  · rcases Connection.exists_relays_of_wait readsOn stream opened instant limits with
      ⟨finish, ends, relays⟩
    rw [decided]
    refine ⟨finish, ends, ?_⟩
    rw [decide] at decided
    split at decided
    · cases decided
    · rcases Option.map_eq_some_iff.mp decided with ⟨⟨pause, source | stream⟩, replied, equal⟩
      · cases equal
      · cases equal
        exact holds pause _ replied ▸ relays

/-- So does a job on a scripted pool. -/
theorem Runner.exists_execute_of_readsOn (scripted : ScriptedPool) (runner : Runner) {job : Job}
    {receiver : Receiver} (received : job.receiver = some receiver) (readsOn : receiver.ReadsOn)
    (world : World) :
    ∃ executed later, (execute scripted.toPool runner job).perform world =
        (some executed, later) ∧
      executed.toFinish.Relays receiver (scripted.scriptOf job.command).contents := by
  have opens : job.receiver.map (Channel.new · world.now) = some (.new receiver world.now) := by
    rw [received]
    rfl
  rcases exists_perform_start scripted.toPool runner job world with
    ⟨finish | ⟨executing, course⟩, between, started⟩
  · rw [execute, Activity.perform_bind_of_some started]
    refine ⟨_, _, rfl, ?_⟩
    cases moved : runner.move .executing with
    | ok executing =>
        rcases eq_of_start_error started with ⟨-, source, refused, -⟩
        cases moved.symm.trans refused
    | error source =>
        rw [perform_start_of_refused scripted.toPool job world moved] at started
        cases started
        exact Finish.relays_of_nothing _ rfl rfl rfl opens
  · have concludes : ∃ finish, course.conclusion? = some finish ∧
        finish.Relays receiver (scripted.scriptOf job.command).contents := by
      rcases cases_of_start started with ⟨-, ⟨failure, -, rfl, -⟩ | ⟨-, rfl, -⟩⟩
      · exact ⟨_, rfl, Finish.relays_of_nothing _ rfl rfl rfl opens⟩
      · rw [opens]
        exact Course.exists_relays readsOn _ _ _ fun pause stream =>
          ScriptedPool.contents_of_attachment
    rcases concludes with ⟨finish, concluded, relays⟩
    rcases Course.exists_perform_conclude concluded between with ⟨later, ended⟩
    rw [execute, Activity.perform_bind_of_some started]
    simp only [Activity.perform_bind_of_some ended]
    exact ⟨_, _, rfl, relays⟩

/-! ## Runs -/

namespace Grader

variable {grader : Grader} {scripted : ScriptedPool} {submission : Submission} {filepath : String}
  {receiver : Receiver} {cancellation : Option Nat} {world : World}

/-- The events that were shown of a single run, its record, and what it returns, all of the same
execution. -/
structure Transcript (grader : Grader) (scripted : ScriptedPool) (submission : Submission)
    (filepath : String) (receiver : Receiver) (cancellation : Option Nat) (world : World)
    (events : List Event) (testrun : Testrun) (result : RunResult) (later : World) : Prop where
  /-- The receiver gets what was heard of the command. -/
  heard : ∃ executed middle,
    ((ScriptedPool.runnerFor submission.userId submission.environment).execute grader.pool
      (runJob submission filepath receiver cancellation)).perform
        (readyWorld scripted submission world) = (some executed, middle) ∧ executed.heard = events
  isPrefix : events.map .ok <+:
    (scripted.scriptOf (submission.environment.runCommand.render filepath)).contents
  shown : result.channel.map Channel.received = some events
  /-- The exit comes last, if the command exits, and otherwise not at all. -/
  exits : ∃ chunks, events = chunks ++ (testrun.exitCode.map Event.exit).toList ∧
    ∀ event ∈ chunks, ∀ code, event ≠ .exit code
  log : testrun.log = some ("status: " ++ testrun.status.name ++
    "\n stdout: " ++ String.join (events.filterMap Event.stdout?) ++
    "\n stderr: " ++ String.join (events.filterMap Event.stderr?))
  isRun : testrun.cause = .run ∧ testrun.submissionId = submission.id ∧ testrun.file = filepath
  waiting : testrun.waitingTime = scripted.delay
  passed : testrun.passed = true ↔ testrun.status = .ok
  status : testrun.status = .ok ↔ testrun.exitCode = some 0
  /-- The record is made last, after the runner was given back. -/
  recorded : ∃ before : Log, later.log = before ++ grader.kept testrun ⟨later.now, before⟩ ∧
    before.testruns = world.log.testruns ∧
    before.releases = world.log.releases ++ [ScriptedPool.runnerId]
  /-- An exit is a success of the run, whatever its code. -/
  exited : testrun.exitCode.isSome →
    result.times = .ok ⟨testrun.waitingTime, testrun.executionTime⟩
  failed : testrun.exitCode = none → ∃ source : ExecutionError,
    result.times = .error (.execution filepath source testrun.waitingTime) ∧
      source.status = testrun.status ∧ source.output = .joined events ∧
      source.duration = testrun.executionTime

theorem perform_runFile_of_unknown (grader : Grader)
    (unknown : ∀ file ∈ submission.files, file.filepath ≠ filepath) (receiver : Receiver)
    (cancellation : Option Nat) (world : World) :
    (grader.runFile submission filepath receiver cancellation).perform world =
      (some ⟨.error (.unknownFile filepath), none⟩, world) := by
  have missing : submission.fileAt? filepath = none := by
    rw [Submission.fileAt?, List.find?_eq_none]
    intro file member
    simpa using unknown file member
  simp only [runFile, missing, Activity.perform_pure]

theorem exists_fileAt? {file : SubmissionFile} (member : file ∈ submission.files) :
    ∃ found, submission.fileAt? file.filepath = some found ∧ found.filepath = file.filepath := by
  have isSome : (submission.fileAt? file.filepath).isSome := by
    rw [Submission.fileAt?, List.find?_isSome]
    exact ⟨file, member, by simp⟩
  rcases Option.isSome_iff_exists.mp isSome with ⟨found, contains⟩
  exact ⟨found, contains, by simpa using List.find?_some contains⟩

/-- What an execution and the closing of a single run leave in the log. -/
theorem testruns_and_releases_of_execute (scripted : ScriptedPool) (submission : Submission)
    (world : World) {pool : Pool} {runner : Runner} {job : Job} {executed : Executed}
    {middle : World}
    (executes : (runner.execute pool job).perform (readyWorld scripted submission world) =
      (some executed, middle)) :
    let closed := middle.log ++ runClosing middle.now
    closed.testruns = world.log.testruns ∧
      closed.releases = world.log.releases ++ [ScriptedPool.runnerId] := by
  intro closed
  rcases Runner.execute_work pool runner job (readyWorld scripted submission world) with
    ⟨added, log, works⟩
  rw [executes] at log
  have unrecorded := (readyWorld scripted submission world).log.records_append_of_unrecorded
    fun act member => (works act member).isBookkeeping
  have unreleased := (readyWorld scripted submission world).log.releases_append_of_kept
    fun act member => (works act member).isKept
  constructor
  · have same : middle.log.testruns = (readyWorld scripted submission world).log.testruns := by
      rw [log]
      exact congrArg Records.testruns unrecorded
    rw [Log.testruns_append, same, readyWorld, Log.testruns_append]
    simp [Log.testruns, Log.acts, runClosing]
  · rw [Log.releases_append, log, unreleased, releases_readyWorld]
    rfl

/-- A single run on a runner that was handed out shows what it records. -/
theorem exists_transcript (isScripted : grader.pool = scripted.toPool)
    (provides : scripted.acquireError = none) (readsOn : receiver.ReadsOn)
    {file : SubmissionFile} (member : file ∈ submission.files) (cancellation : Option Nat)
    (world : World) :
    ∃ events testrun result later,
      (grader.runFile submission file.filepath receiver cancellation).perform world =
        (some result, later) ∧
      grader.Transcript scripted submission file.filepath receiver cancellation world events
        testrun result later := by
  rcases exists_fileAt? member with ⟨found, contains, sameFile⟩
  rcases Runner.exists_execute_of_readsOn scripted
    (ScriptedPool.runnerFor submission.userId submission.environment)
    (rfl : (runJob submission found.filepath receiver cancellation).receiver = some receiver)
    readsOn (readyWorld scripted submission world) with ⟨executed, middle, executes, relays⟩
  rw [← isScripted] at executes
  have output : executed.outcome.output = .joined executed.heard :=
    relays.output.trans (CapturedOutput.ofEvents_eq_joined _)
  rcases relays.shown with ⟨channel, channelOf, carries⟩
  rcases testruns_and_releases_of_execute scripted submission world executes with
    ⟨testruns, releases⟩
  refine ⟨executed.heard, runRecord submission found scripted.delay (.ofResult executed.result), _,
    _, perform_runFile isScripted provides contains executes, ?_⟩
  rw [← sameFile]
  exact {
    heard := ⟨executed, middle, executes, rfl⟩
    isPrefix := relays.isPrefix
    shown := by
      rw [runResult, channelOf, Option.map_some, carries.received readsOn]
    exits := relays.exits
    log := by
      rw [← Outcome.log_ofEvents, ← relays.output]
      rfl
    isRun := ⟨rfl, rfl, rfl⟩
    waiting := rfl
    passed := decide_eq_true_iff
    status := Outcome.status_eq_ok_iff executed.result
    recorded := ⟨_, rfl, testruns, releases⟩
    exited := by
      intro exited
      rw [runResult]
      cases result : executed.result with
      | ok done => simp [runRecord, Outcome.ofResult]
      | error source =>
          rw [result] at exited
          cases exited
    failed := by
      intro failed
      rw [Finish.outcome] at output
      rw [runResult]
      cases result : executed.result with
      | ok done =>
          rw [result] at failed
          cases failed
      | error source =>
          rw [result] at output
          exact ⟨source, rfl, rfl, output, rfl⟩ }

/-- A single run shows what it records: for a file of the submission its events, its record and its
return agree. A path that names no file is refused, and nothing happens. -/
structure ShowsWhatItRecords (grader : Grader) (scripted : ScriptedPool) : Prop where
  known : scripted.acquireError = none → ∀ receiver : Receiver, receiver.ReadsOn →
    ∀ (submission : Submission) (cancellation : Option Nat) (world : World),
      ∀ file ∈ submission.files, ∃ events testrun result later,
        (grader.runFile submission file.filepath receiver cancellation).perform world =
          (some result, later) ∧
        grader.Transcript scripted submission file.filepath receiver cancellation world events
          testrun result later
  unknown : ∀ (submission : Submission) (filepath : String),
    (∀ file ∈ submission.files, file.filepath ≠ filepath) →
      ∀ (receiver : Receiver) (cancellation : Option Nat) (world : World),
        (grader.runFile submission filepath receiver cancellation).perform world =
          (some ⟨.error (.unknownFile filepath), none⟩, world)

theorem showsWhatItRecords_of_scripted (isScripted : grader.pool = scripted.toPool) :
    grader.ShowsWhatItRecords scripted where
  known := fun provides _ readsOn _ cancellation world _ member =>
    exists_transcript isScripted provides readsOn member cancellation world
  unknown := fun _ _ unknown receiver cancellation world =>
    perform_runFile_of_unknown grader unknown receiver cancellation world

/-- A suite hangs after its output. A receiver that takes ten seconds for each event gets that
output, the record has it, and the run fails with it. -/
theorem showsWhatItRecords_suites :
    suiteGrader.pool = hangingSuites.toPool ∧ hangingSuites.acquireError = none ∧
      Receiver.pausing.ReadsOn ∧ suiteFile "SuiteTest" ∈ suites.files ∧
      ∃ testrun result later,
        (suiteGrader.runFile suites "SuiteTest.java" .pausing none).perform .start =
          (some result, later) ∧
        suiteGrader.Transcript hangingSuites suites "SuiteTest.java" .pausing none .start
          [.stdout "OK (3 tests)\n"] testrun result later := by
  have readsOn : Receiver.pausing.ReadsOn := ⟨Nat.one_pos, fun _ => ⟨_, rfl⟩⟩
  have member : suiteFile "SuiteTest" ∈ suites.files := List.mem_cons_self
  have shows : suiteGrader.ShowsWhatItRecords hangingSuites := showsWhatItRecords_of_scripted rfl
  have run : ((suiteGrader.runFile suites "SuiteTest.java" .pausing none).perform .start).1.bind
      (fun result => result.channel.map Channel.received) = some [.stdout "OK (3 tests)\n"] := rfl
  rcases shows.known rfl _ readsOn suites none .start _ member with
    ⟨events, testrun, result, later, ended, transcript⟩
  have output : events = [.stdout "OK (3 tests)\n"] := by
    have shown := transcript.shown
    rw [show (suiteGrader.runFile suites "SuiteTest.java" .pausing none).perform .start =
      (some result, later) from ended] at run
    exact Option.some.inj (shown.symm.trans run)
  exact ⟨rfl, rfl, readsOn, member, testrun, result, later, ended, output ▸ transcript⟩

end Grader

end Grading
