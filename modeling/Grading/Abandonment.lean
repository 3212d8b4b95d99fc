import Grading.Grader

namespace Grading

/-! Giving up an activity before it ends. What it did before that instant stays done, and it does
nothing from then on. -/

namespace Activity

/-- The world at an instant at which an activity is given up, unless it ends before. -/
def giveUpAt {α : Type} (activity : Activity α) (instant : Nat) (world : World) :
    Option α × World :=
  match activity.perform world with
  | (some result, later) =>
      if later.now < instant then (some result, later) else (none, cut later)
  | (none, later) => (none, cut later)
where
  cut (later : World) : World := ⟨instant, later.log.before instant⟩

theorem of_giveUpAt_some {α : Type} {activity : Activity α} {instant : Nat} {world later : World}
    {result : α} (ended : activity.giveUpAt instant world = (some result, later)) :
    activity.perform world = (some result, later) ∧ later.now < instant := by
  rw [giveUpAt] at ended
  split at ended
  · split at ended
    · rename_i performed early
      cases ended
      exact ⟨performed, early⟩
    · cases ended
  · cases ended

/-- An activity that is given up would have gone on then. -/
theorem of_giveUpAt_none {α : Type} {activity : Activity α} {instant : Nat} {world later : World}
    (givenUp : activity.giveUpAt instant world = (none, later)) :
    ∃ last result, activity.perform world = (result, last) ∧
      later = ⟨instant, last.log.before instant⟩ ∧ (result.isSome → instant ≤ last.now) := by
  rw [giveUpAt] at givenUp
  split at givenUp
  · split at givenUp
    · cases givenUp
    · rename_i performed late
      cases givenUp
      exact ⟨_, _, performed, rfl, fun _ => Nat.le_of_not_lt late⟩
  · rename_i performed
    cases givenUp
    exact ⟨_, _, performed, rfl, nofun⟩

def hangUp : Activity Unit := do
  if (← history).live ≠ 0 then note .detach

end Activity

namespace Grader

def giveBack (grader : Grader) : Activity Unit := do
  match (← Activity.history).runner? with
  | none => return
  | some runner =>
      let _ ← runner.release grader.pool

/-- A pass that is given up is not listened to any more, and its runner is given back if it was
not. -/
def cleanUp (grader : Grader) : Activity Unit := do
  Activity.hangUp
  unless (← Activity.history).releases ≠ [] do grader.giveBack

/-- A pass that is given up at an instant, unless it ends before. -/
def scoreUntil (grader : Grader) (submission : Submission) (cancellation : Option Nat)
    (instant : Nat) (world : World) :
    Option (Except GradingError (SubmissionScore Float)) × World :=
  match (grader.score submission cancellation).giveUpAt instant world with
  | (some result, later) => (some result, later)
  | (none, later) => (none, (grader.cleanUp.perform later).2)

/-- A single run that is given up at an instant, unless it ends before. Nobody gives its runner
back. -/
def runUntil (grader : Grader) (submission : Submission) (filepath : String)
    (receiver : Receiver) (cancellation : Option Nat) (instant : Nat) (world : World) :
    Option RunResult × World :=
  match (grader.runFile submission filepath receiver cancellation).giveUpAt instant world with
  | (some result, later) => (some result, later)
  | (none, later) => (none, (Activity.hangUp.perform later).2)

end Grader

end Grading
