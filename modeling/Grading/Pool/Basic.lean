import Grading.Activity
import Grading.EventStream

namespace Grading

/-! Pools hand out runners, start commands on them and take them back. What a pool answers can
depend on everything that has happened. -/

/-- The answer to a request: the calls of the service behind it, each after a while, and the reply
after a while. Without a reply the request is never answered. -/
structure Answer (α : Type) where
  calls : List (Nat × ServiceCall)
  reply : Option (Nat × α)

namespace Answer

variable {α : Type}

def now (value : α) : Answer α := ⟨[], some (0, value)⟩

def after (pause : Nat) (value : α) : Answer α := ⟨[], some (pause, value)⟩

def never : Answer α := ⟨[], none⟩

def noteCalls (answer : Answer α) : Activity Unit :=
  answer.calls.forM fun (pause, call) => Activity.noteAfter pause (.call call)

def callEntries (answer : Answer α) (instant : Nat) : Log :=
  answer.calls.map fun (pause, call) => ⟨instant + pause, .call call⟩

theorem eq_call_of_mem_callEntries {answer : Answer α} {instant : Nat} {act : Act}
    (member : act ∈ (answer.callEntries instant).acts) : ∃ call, act = .call call := by
  simp only [callEntries, Log.acts, List.map_map, List.mem_map] at member
  rcases member with ⟨call, -, rfl⟩
  exact ⟨call.2, rfl⟩

theorem isRoutine_of_mem_callEntries {answer : Answer α} {instant : Nat} {act : Act}
    (member : act ∈ (answer.callEntries instant).acts) : act.isRoutine := by
  rcases eq_call_of_mem_callEntries member with ⟨call, rfl⟩
  rfl

theorem isQuiet_callEntries (answer : Answer α) (instant : Nat) :
    (answer.callEntries instant).IsQuiet := by
  intro act member live
  rcases eq_call_of_mem_callEntries member with ⟨call, rfl⟩
  rfl

theorem perform_noteCalls (answer : Answer α) (world : World) :
    answer.noteCalls.perform world =
      (some (), { world with log := world.log ++ answer.callEntries world.now }) := by
  obtain ⟨calls, reply⟩ := answer
  simp only [noteCalls, callEntries]
  induction calls generalizing world with
  | nil => simp
  | cons first rest induction =>
      rw [List.forM, Activity.perform_bind_of_some (Activity.perform_noteAfter _ _ _), induction]
      simp

def await (answer : Answer α) : Activity α := do
  answer.noteCalls
  match answer.reply with
  | none => Activity.never
  | some (pause, value) =>
      Activity.waitUntil ((← Activity.now) + pause)
      return value

theorem perform_await_of_reply {answer : Answer α} {pause : Nat} {value : α}
    (replied : answer.reply = some (pause, value)) (world : World) :
    answer.await.perform world =
      (some value, ⟨world.now + pause, world.log ++ answer.callEntries world.now⟩) := by
  rw [await, Activity.perform_bind_of_some (perform_noteCalls answer world)]
  simp only [replied]
  rw [Activity.perform_bind_of_some (Activity.perform_now _),
    Activity.perform_bind_of_some (Activity.perform_waitUntil _ _), Activity.perform_pure,
    Nat.max_eq_right (Nat.le_add_right _ _)]

theorem perform_await_of_none {answer : Answer α} (unanswered : answer.reply = none)
    (world : World) :
    answer.await.perform world =
      (none, { world with log := world.log ++ answer.callEntries world.now }) := by
  rw [await, Activity.perform_bind_of_some (perform_noteCalls answer world)]
  simp only [unanswered, Activity.perform_never]

end Answer

structure Pool where
  acquire : Log → (principal : String) → Environment → List SubmissionFile →
    Answer (Except RunnerError Runner)
  attach : Log → Runner → (command : String) → Answer (Except RunnerError EventStream)
  release : Log → Runner → Answer (Except RunnerError Unit)

namespace Pool

def acquireRunner (pool : Pool) (principal : String) (environment : Environment)
    (files : List SubmissionFile) : Activity (Except RunnerError Runner) := do
  let history ← Activity.history
  Activity.note (.acquire principal)
  let reply ← (pool.acquire history principal environment files).await
  if let .ok runner := reply then Activity.note (.acquired runner)
  return reply

def releaseRunner (pool : Pool) (runner : Runner) : Activity (Except RunnerError Unit) := do
  let history ← Activity.history
  Activity.note (.release runner.id)
  (pool.release history runner).await

/-- A pool that took a runner back was asked to, and made its calls. -/
theorem exists_of_releaseRunner {pool : Pool} {runner : Runner} {world later : World}
    {reply : Except RunnerError Unit}
    (ended : (pool.releaseRunner runner).perform world = (some reply, later)) :
    ∃ pause, later = ⟨world.now + pause, (world.noting (.release runner.id)).log ++
      (pool.release world.log runner).callEntries world.now⟩ := by
  rw [releaseRunner, Activity.perform_bind_of_some (Activity.perform_history world),
    Activity.perform_bind_of_some (Activity.perform_note _ world)] at ended
  cases replied : (pool.release world.log runner).reply with
  | none =>
      rw [Answer.perform_await_of_none replied] at ended
      cases ended
  | some reply =>
      rw [Answer.perform_await_of_reply replied] at ended
      cases ended
      exact ⟨reply.1, rfl⟩

/-- A pool that answered a request for a runner noted nothing else. -/
theorem exists_of_acquireRunner {pool : Pool} {principal : String} {environment : Environment}
    {files : List SubmissionFile} {world later : World} {reply : Except RunnerError Runner}
    (ended : (pool.acquireRunner principal environment files).perform world = (some reply, later)) :
    ∃ added : Log, later.log = world.log ++ added ∧ ∀ act ∈ added.acts, act.isRoutine := by
  rw [acquireRunner, Activity.perform_bind_of_some (Activity.perform_history world),
    Activity.perform_bind_of_some (Activity.perform_note _ world)] at ended
  rcases Activity.exists_of_perform_bind ended with ⟨reply', middle, awaited, ended⟩
  cases replied : (pool.acquire world.log principal environment files).reply with
  | none =>
      rw [Answer.perform_await_of_none replied] at awaited
      cases awaited
  | some answer =>
      rw [Answer.perform_await_of_reply replied] at awaited
      cases awaited
      let added : Log := ⟨world.now, .acquire principal⟩ ::
        (pool.acquire world.log principal environment files).callEntries world.now
      have asked : ∀ act ∈ added.acts, act.isRoutine := by
        intro act member
        rcases List.mem_cons.mp member with rfl | member
        · rfl
        · exact Answer.isRoutine_of_mem_callEntries member
      rcases answer with ⟨pause, error | runner⟩
      · cases ended
        exact ⟨added, by simp [added, World.noting], asked⟩
      · cases ended
        refine ⟨added ++ [⟨world.now + pause, .acquired runner⟩], by simp [added, World.noting], ?_⟩
        intro act member
        rw [Log.acts_append, List.mem_append] at member
        rcases member with earlier | last
        · exact asked act earlier
        · rw [List.mem_singleton.mp last]
          rfl

/-! ## No pool at all -/

def disabledError : RunnerError := .allocation "runner management is disabled"

def disabled : Pool where
  acquire _ _ _ _ := .now (.error disabledError)
  attach _ _ _ := .now (.error disabledError)
  release _ _ := .now (.ok ())

end Pool

end Grading
