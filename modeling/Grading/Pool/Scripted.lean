import Grading.Pool.Basic

namespace Grading

/-! Pools that answer every command from a script. -/

structure Script where
  contents : List (Except RunnerError Event)
  /-- The stream stays open after its contents. -/
  hangs : Bool
  /-- The command is never started. -/
  stalls : Bool

namespace Script

def ofContents (contents : List (Except RunnerError Event)) : Script := ⟨contents, false, false⟩

/-- Prints its output and exits. Empty output is not reported. -/
def exit (output : CapturedOutput) (code : Int32) : Script :=
  .ofContents
    ((if output.stdout.isEmpty then [] else [.ok (.stdout output.stdout)]) ++
      (if output.stderr.isEmpty then [] else [.ok (.stderr output.stderr)]) ++
      [.ok (.exit code)])

def hanging (stdout : String) : Script := ⟨[.ok (.stdout stdout)], true, false⟩

def stalled : Script := ⟨[], true, true⟩

def failing (error : RunnerError) : Script := .ofContents [.error error]

/-- The stream of the script, whose first item takes a pause. -/
def stream (script : Script) (pause : Nat) : EventStream :=
  (EventStream.ofContents script.contents (if script.hangs then .hangs else .closes 0)).delayed
    pause

end Script

structure ScriptedPool where
  /-- How long handing out a runner takes, and how long a command is silent at first. -/
  delay : Duration
  acquireError : Option RunnerError
  attachError : Option RunnerError
  releaseError : Option RunnerError
  scripts : List (String × Script)
  /-- For commands that have no script. -/
  fallback : Script

namespace ScriptedPool

def succeeding (delay : Duration) : ScriptedPool :=
  ⟨delay, none, none, none, [], .exit .empty 0⟩

def scriptOf (scripted : ScriptedPool) (command : String) : Script :=
  (scripted.scripts.lookup command).getD scripted.fallback

def runnerId : String := "stub"

def acquisition (scripted : ScriptedPool) (principal : String) (environment : Environment) :
    Except RunnerError Runner :=
  match scripted.acquireError with
  | some error => .error error
  | none => (Runner.new runnerId principal environment.id).prepare [.allocating, .ready]

/-- The answer to a command. Only one command is listened to at a time. -/
def attachment (scripted : ScriptedPool) (history : Log) (runner : Runner) (command : String) :
    Answer (Except RunnerError EventStream) :=
  match scripted.attachError with
  | some error => .now (.error error)
  | none =>
      if history.live ≠ 0 then .now (.error (.inUse runner.id))
      else
        let script := scripted.scriptOf command
        if script.stalls then .never else .now (.ok (script.stream scripted.delay.nanoseconds))

/-- The answer to a command where no other one is listened to. -/
def answer (scripted : ScriptedPool) (command : String) :
    Answer (Except RunnerError EventStream) :=
  match scripted.attachError with
  | some error => .now (.error error)
  | none =>
      let script := scripted.scriptOf command
      if script.stalls then .never else .now (.ok (script.stream scripted.delay.nanoseconds))

theorem attachment_of_idle (scripted : ScriptedPool) {history : Log} (idle : history.live = 0)
    (runner : Runner) (command : String) :
    scripted.attachment history runner command = scripted.answer command := by
  rw [attachment, answer]
  cases scripted.attachError with
  | some error => rfl
  | none => exact if_neg (not_not_intro idle)

def toPool (scripted : ScriptedPool) : Pool where
  acquire _ principal environment _ :=
    .after scripted.delay.nanoseconds (scripted.acquisition principal environment)
  attach := scripted.attachment
  release _ _ :=
    .now (match scripted.releaseError with
      | some error => .error error
      | none => .ok ())

def runnerFor (principal : String) (environment : Environment) : Runner :=
  ⟨runnerId, principal, environment.id, .ready⟩

/-- A pool that is not told to fail hands out a ready runner after its delay. -/
theorem perform_acquireRunner {scripted : ScriptedPool} (provides : scripted.acquireError = none)
    (principal : String) (environment : Environment) (files : List SubmissionFile)
    (world : World) :
    (scripted.toPool.acquireRunner principal environment files).perform world =
      let runner := runnerFor principal environment
      let later := world.now + scripted.delay.nanoseconds
      (some (.ok runner), ⟨later, world.log ++ [⟨world.now, .acquire principal⟩,
        ⟨later, .acquired runner⟩]⟩) := by
  have acquired : scripted.acquisition principal environment =
      .ok (runnerFor principal environment) := by
    rw [acquisition, provides]
    rfl
  have replied : (scripted.toPool.acquire world.log principal environment files).reply =
      some (scripted.delay.nanoseconds, .ok (runnerFor principal environment)) := by
    rw [← acquired]
    rfl
  rw [Pool.acquireRunner, Activity.perform_bind_of_some (Activity.perform_history world),
    Activity.perform_bind_of_some (Activity.perform_note _ world),
    Activity.perform_bind_of_some (Answer.perform_await_of_reply replied _)]
  simp only [Activity.perform_bind, Activity.perform_note, Activity.perform_pure]
  simp [World.noting, toPool, Answer.after, Answer.callEntries]

theorem exists_perform_releaseRunner (scripted : ScriptedPool) (runner : Runner) (world : World) :
    ∃ reply later, (scripted.toPool.releaseRunner runner).perform world = (some reply, later) := by
  rw [Pool.releaseRunner, Activity.perform_bind_of_some (Activity.perform_history world),
    Activity.perform_bind_of_some (Activity.perform_note _ world),
    Answer.perform_await_of_reply rfl]
  exact ⟨_, _, rfl⟩

end ScriptedPool

end Grading
