import Grading.Runner
import Mathlib.Data.List.Chain

namespace Grading

/-! What a runner goes through before it executes for the first time. It is ready before, unless its
allocation came to nothing: from there it can execute without having been ready. -/

namespace Runner

/-- The states that a runner gets to by these moves. A refused move leads nowhere. -/
def path (runner : Runner) : List RunnerState → List RunnerState
  | [] => []
  | next :: rest =>
      match runner.move next with
      | .ok moved => next :: moved.path rest
      | .error _ => runner.path rest

theorem path_cons_of_ok {runner moved : Runner} {next : RunnerState} (rest : List RunnerState)
    (allowed : runner.move next = .ok moved) :
    runner.path (next :: rest) = next :: moved.path rest := by
  simp only [path, allowed]

theorem path_cons_of_error {runner : Runner} {next : RunnerState} {error : RunnerError}
    (rest : List RunnerState) (refused : runner.move next = .error error) :
    runner.path (next :: rest) = runner.path rest := by
  simp only [path, refused]

theorem canMove_of_move {runner moved : Runner} {next : RunnerState}
    (allowed : runner.move next = .ok moved) : runner.state.canMove next := by
  simp only [move] at allowed
  split at allowed
  · assumption
  · cases allowed

/-- A sequence of moves ends in the last state of its path. -/
theorem state_moves (runner : Runner) (calls : List RunnerState) :
    (runner.moves calls).state = (runner.path calls).getLastD runner.state := by
  induction calls generalizing runner with
  | nil => rfl
  | cons next rest induction =>
      cases moved : runner.move next with
      | error source =>
          rw [path_cons_of_error rest moved, moves_cons, moveOrStay, moved]
          exact induction runner
      | ok runner' =>
          rw [path_cons_of_ok rest moved, moves_cons, moveOrStay, moved, List.getLastD_cons,
            ← state_of_move moved]
          exact induction runner'

/-- Each state of a path can be followed by the next one. -/
theorem isChain_path (runner : Runner) (calls : List RunnerState) :
    (runner.state :: runner.path calls).IsChain fun state next => state.canMove next := by
  induction calls generalizing runner with
  | nil => exact .singleton runner.state
  | cons next rest induction =>
      cases moved : runner.move next with
      | error source =>
          rw [path_cons_of_error rest moved]
          exact induction runner
      | ok runner' =>
          rw [path_cons_of_ok rest moved]
          refine .cons_cons (canMove_of_move moved) ?_
          rw [← state_of_move moved]
          exact induction runner'

end Runner

namespace RunnerState

/-- Whenever it executes on this path, it was ready before. -/
def ReadyFirst (path : List RunnerState) : Prop :=
  ∀ earlier later, path = earlier ++ .executing :: later → .ready ∈ earlier

/-- The path begins with an allocation that came to nothing, and with an execution after it. -/
inductive SkipsReady : List RunnerState → Prop
  | unrequested (failure : RunnerState) (rest : List RunnerState)
      (fails : failure = .depleted ∨ failure = .failed) :
      SkipsReady (failure :: .executing :: rest)
  | unallocated (failure : RunnerState) (rest : List RunnerState)
      (fails : failure = .depleted ∨ failure = .failed) :
      SkipsReady (.allocating :: failure :: .executing :: rest)

section

variable {path : List RunnerState}

/-- Nothing comes after a release. -/
theorem eq_nil_of_released
    (chain : (released :: path).IsChain fun state next => state.canMove next) : path = [] := by
  cases path with
  | nil => rfl
  | cons next rest => cases chain.rel

theorem executing_not_mem_of_released
    (chain : (released :: path).IsChain fun state next => state.canMove next) :
    .executing ∉ released :: path := by
  rw [eq_nil_of_released chain, List.mem_singleton]
  exact nofun

/-- A runner that was depleted or failed executes next, if it executes at all. -/
theorem cases_of_failure {failure : RunnerState} (fails : failure = .depleted ∨ failure = .failed)
    (chain : (failure :: path).IsChain fun state next => state.canMove next) :
    .executing ∉ failure :: path ∨ ∃ rest, path = .executing :: rest := by
  have notExecuting : .executing ≠ failure := by rcases fails with rfl | rfl <;> exact nofun
  cases path with
  | nil => exact .inl (List.not_mem_cons_of_ne_of_not_mem notExecuting List.not_mem_nil)
  | cons next rest =>
      rcases List.isChain_cons_cons.mp chain with ⟨moves, chain⟩
      have follows : next = .executing ∨ next = .released := by
        rcases fails with rfl | rfl <;> cases next <;>
          first | exact .inl rfl | exact .inr rfl | cases moves
      rcases follows with rfl | rfl
      · exact .inr ⟨rest, rfl⟩
      · exact .inl (List.not_mem_cons_of_ne_of_not_mem notExecuting
          (executing_not_mem_of_released chain))

/-- A runner that is allocated does not execute, is ready next, or skips that. -/
theorem cases_of_allocating
    (chain : (allocating :: path).IsChain fun state next => state.canMove next) :
    .executing ∉ path ∨ (∃ rest, path = .ready :: rest) ∨ SkipsReady (allocating :: path) := by
  cases path with
  | nil => exact .inl List.not_mem_nil
  | cons next rest =>
      rcases List.isChain_cons_cons.mp chain with ⟨moves, chain⟩
      have skips (fails : next = .depleted ∨ next = .failed) :
          .executing ∉ next :: rest ∨ (∃ later, next :: rest = .ready :: later) ∨
            SkipsReady (allocating :: next :: rest) := by
        rcases cases_of_failure fails chain with never | ⟨later, rfl⟩
        · exact .inl never
        · exact .inr (.inr (.unallocated next later fails))
      cases next with
      | ready => exact .inr (.inl ⟨rest, rfl⟩)
      | depleted => exact skips (.inl rfl)
      | failed => exact skips (.inr rfl)
      | released => exact .inl (executing_not_mem_of_released chain)
      | _ => cases moves

/-- A new runner does not execute, is ready before, or skips that. -/
theorem cases_of_requested
    (chain : (requested :: path).IsChain fun state next => state.canMove next) :
    .executing ∉ path ∨ (∃ rest, path = .allocating :: .ready :: rest) ∨ SkipsReady path := by
  cases path with
  | nil => exact .inl List.not_mem_nil
  | cons next rest =>
      rcases List.isChain_cons_cons.mp chain with ⟨moves, chain⟩
      have skips (fails : next = .depleted ∨ next = .failed) :
          .executing ∉ next :: rest ∨ (∃ later, next :: rest = .allocating :: .ready :: later) ∨
            SkipsReady (next :: rest) := by
        rcases cases_of_failure fails chain with never | ⟨later, rfl⟩
        · exact .inl never
        · exact .inr (.inr (.unrequested next later fails))
      cases next with
      | allocating =>
          rcases cases_of_allocating chain with never | ⟨later, rfl⟩ | skipped
          · exact .inl (List.not_mem_cons_of_ne_of_not_mem nofun never)
          · exact .inr (.inl ⟨later, rfl⟩)
          · exact .inr (.inr skipped)
      | depleted => exact skips (.inl rfl)
      | failed => exact skips (.inr rfl)
      | released => exact .inl (executing_not_mem_of_released chain)
      | _ => cases moves

theorem readyFirst_of_never (never : .executing ∉ path) : ReadyFirst path := by
  rintro earlier later rfl
  exact absurd (List.mem_append_right earlier List.mem_cons_self) never

theorem readyFirst_of_ready (rest : List RunnerState) :
    ReadyFirst (.allocating :: .ready :: rest) := by
  intro earlier later split
  rcases earlier with _ | ⟨first, _ | ⟨second, others⟩⟩
  · cases split
  · cases split
  · cases split
    exact List.mem_cons_of_mem _ List.mem_cons_self

theorem SkipsReady.not_readyFirst (skips : SkipsReady path) : ¬ReadyFirst path := by
  intro readyFirst
  cases skips with
  | unrequested failure rest fails =>
      rcases List.mem_singleton.mp (readyFirst [failure] rest rfl) with rfl
      rcases fails with isFailure | isFailure <;> cases isFailure
  | unallocated failure rest fails =>
      have before := readyFirst [.allocating, failure] rest rfl
      rcases fails with rfl | rfl <;> exact absurd before (by decide)

end

end RunnerState

namespace Runner

/-- A new runner is ready before it executes just if its allocation does not come to nothing
before. -/
theorem readyFirst_iff (id principal : String) (environmentId : Nat) (calls : List RunnerState) :
    RunnerState.ReadyFirst ((new id principal environmentId).path calls) ↔
      ¬RunnerState.SkipsReady ((new id principal environmentId).path calls) := by
  refine ⟨fun readyFirst skips => skips.not_readyFirst readyFirst, fun notSkipped => ?_⟩
  rcases RunnerState.cases_of_requested ((new id principal environmentId).isChain_path calls) with
    never | ⟨rest, ready⟩ | skips
  · exact RunnerState.readyFirst_of_never never
  · rw [ready]
    exact RunnerState.readyFirst_of_ready rest
  · exact absurd skips notSkipped

/-- A runner that failed at once can execute. -/
theorem skipsReady_failed :
    RunnerState.SkipsReady ((new "r-2" "learner" 1).path [.failed, .executing]) ∧
      ¬RunnerState.ReadyFirst ((new "r-2" "learner" 1).path [.failed, .executing]) :=
  have skips : RunnerState.SkipsReady [.failed, .executing] := .unrequested .failed [] (.inr rfl)
  ⟨skips, skips.not_readyFirst⟩

end Runner

end Grading
