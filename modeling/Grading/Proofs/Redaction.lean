import Grading.Grader
import Mathlib.Algebra.BigOperators.Group.List.Basic
import Mathlib.Algebra.Ring.Rat

namespace Grading

/-! What learners see of a score has no influence on it. Two visibilities grade alike, one after the
other they are one visibility, and what a visibility hides cannot be found out through it. -/

namespace Visibility

/-- What can be seen through both of them. -/
def both (first second : Visibility) : Visibility :=
  ⟨first.hideTestResults || second.hideTestResults, first.showLinter && second.showLinter⟩

theorem both_self (visibility : Visibility) : both visibility visibility = visibility := by
  rw [both, Bool.or_self, Bool.and_self]

theorem both_comm (first second : Visibility) : both first second = both second first := by
  rw [both, both, Bool.or_comm, Bool.and_comm]

section

variable {α : Type} (first second : Visibility)

/-! ## Single outputs -/

theorem shows_view (output : ScoredOutput α) :
    second.shows (first.view output) = second.shows output := by
  rw [view]
  split <;> rfl

theorem shows_both (output : ScoredOutput α) :
    (both first second).shows output = (second.shows output && first.shows output) := by
  simp only [shows, both]
  cases first.showLinter <;> cases second.showLinter <;> simp

theorem view_view (output : ScoredOutput α) :
    second.view (first.view output) = (both first second).view output := by
  rcases first with ⟨_ | _, _⟩ <;> rcases second with ⟨_ | _, _⟩ <;> rfl

/-- What is seen of an output: all of it, up to its details. -/
structure Sees (visibility : Visibility) (shown output : ScoredOutput α) : Prop where
  role : shown.role = output.role
  status : shown.status = output.status
  score : shown.score = output.score
  weight : shown.weight = output.weight
  executionTime : shown.executionTime = output.executionTime
  waitingTime : shown.waitingTime = output.waitingTime
  details : shown.details = if visibility.hideTestResults then none else output.details

theorem sees_view (visibility : Visibility) (output : ScoredOutput α) :
    visibility.Sees (visibility.view output) output := by
  rcases visibility with ⟨_ | _, _⟩ <;> exact ⟨rfl, rfl, rfl, rfl, rfl, rfl, rfl⟩

theorem view_of_hides {visibility : Visibility} (hides : visibility.hideTestResults)
    (output : ScoredOutput α) : visibility.view output = output.withoutDetails := if_pos hides

/-! ## Lists of outputs -/

/-- Redacting what was redacted shows what can be seen through both. -/
theorem redact_redact (outputs : List (ScoredOutput α)) :
    second.redact (first.redact outputs) = (both first second).redact outputs := by
  have shows : (second.shows ∘ first.view : ScoredOutput α → Bool) = second.shows :=
    funext (shows_view first second)
  have views : (second.view ∘ first.view : ScoredOutput α → ScoredOutput α) =
      (both first second).view := funext (view_view first second)
  have shown : (fun output : ScoredOutput α => second.shows output && first.shows output) =
      (both first second).shows := funext fun output => (shows_both first second output).symm
  calc second.redact (first.redact outputs)
      = ((outputs.filter first.shows).filter second.shows).map (second.view ∘ first.view) := by
        rw [redact, redact, List.filter_map, shows, List.map_map]
    _ = (both first second).redact outputs := by
        rw [List.filter_filter, views, shown, redact]

theorem forall₂_redact (visibility : Visibility) (outputs : List (ScoredOutput α)) :
    List.Forall₂ visibility.Sees (visibility.redact outputs)
      (outputs.filter visibility.shows) := by
  rw [redact, List.forall₂_map_left_iff, List.forall₂_same]
  exact fun output _ => visibility.sees_view output

/-- Hidden details do not matter for what is shown. -/
theorem redact_map_withoutDetails {visibility : Visibility} (hides : visibility.hideTestResults)
    (outputs : List (ScoredOutput α)) :
    visibility.redact (outputs.map ScoredOutput.withoutDetails) = visibility.redact outputs := by
  have views : (visibility.view ∘ ScoredOutput.withoutDetails : ScoredOutput α → _) =
      visibility.view := by
    funext output
    rw [Function.comp_apply, view_of_hides hides, view_of_hides hides]
    rfl
  calc visibility.redact (outputs.map ScoredOutput.withoutDetails)
      = ((outputs.filter (visibility.shows ∘ ScoredOutput.withoutDetails)).map
          (visibility.view ∘ ScoredOutput.withoutDetails)) := by
        rw [redact, List.filter_map, List.map_map]
    _ = visibility.redact outputs := by
        rw [views]
        rfl

end

end Visibility

/-! ## Totals -/

/-- The outputs without the details of any of them. -/
def ScoredOutput.strip {α : Type} (outputs : List (Option (ScoredOutput α))) :
    List (Option (ScoredOutput α)) :=
  outputs.map (Option.map withoutDetails)

theorem ScoredOutput.filterMap_strip {α : Type} (outputs : List (Option (ScoredOutput α))) :
    (strip outputs).filterMap id = (outputs.filterMap id).map withoutDetails := by
  rw [strip, List.filterMap_map, List.map_filterMap]
  rfl

section

variable {α : Type} [Quantity α]

theorem totalScore_strip (outputs : List (Option (ScoredOutput α))) :
    totalScore (ScoredOutput.strip outputs) = totalScore outputs := by
  rw [totalScore, ScoredOutput.filterMap_strip, List.map_map]
  rfl

theorem totalScore_insert_none (before after : List (Option (ScoredOutput α))) :
    totalScore (before ++ none :: after) = totalScore (before ++ after) := by
  simp only [totalScore, List.filterMap_append, List.filterMap_cons, id_eq]

theorem SubmissionScore.ofOutputs_strip {visibility : Visibility}
    (hides : visibility.hideTestResults) (maximum : α)
    (outputs : List (Option (ScoredOutput α))) :
    ofOutputs maximum visibility (ScoredOutput.strip outputs) =
      ofOutputs maximum visibility outputs := by
  rw [ofOutputs, ofOutputs, totalScore_strip, ScoredOutput.filterMap_strip,
    Visibility.redact_map_withoutDetails hides]

end

/-- The total of exact scores and weights. -/
theorem totalScore_eq_sum (outputs : List (Option (ScoredOutput Rat))) :
    totalScore outputs =
      ((outputs.filterMap id).map fun output => output.score * output.weight).sum := by
  rw [List.sum_eq_foldl]
  rfl

theorem totalScore_eq_of_perm {outputs others : List (Option (ScoredOutput Rat))}
    (permuted : outputs.Perm others) : totalScore outputs = totalScore others := by
  rw [totalScore_eq_sum, totalScore_eq_sum]
  exact ((permuted.filterMap id).map _).sum_eq

/-! ## Submissions -/

namespace Submission

def withVisibility (submission : Submission) (visibility : Visibility) : Submission :=
  { submission with visibility }

end Submission

namespace Grader

theorem perform_combine (submission : Submission) (outputs : List (Option (ScoredOutput Float)))
    (world : World) :
    (combine submission outputs).perform world =
      (some (.ofOutputs submission.maximumScore submission.visibility outputs),
        if (SubmissionScore.ofOutputs submission.maximumScore submission.visibility outputs).isFull
        then world.noting (.notify submission.exerciseId submission.userId) else world) := by
  rw [combine, Bool.and_true]
  split <;> rfl

/-- The score that is made of outputs does not depend on what is seen of them, up to that. -/
structure SameGrade (first second : Visibility) (submission : Submission)
    (outputs : List (Option (ScoredOutput Float))) (world : World)
    (score other : SubmissionScore Float) (later : World) : Prop where
  combines : (combine (submission.withVisibility first) outputs).perform world = (some score, later)
  combines' : (combine (submission.withVisibility second) outputs).perform world =
    (some other, later)
  total : score.total = other.total ∧ score.total = totalScore outputs
  isFull : score.isFull = other.isFull
  notified : later =
    if score.isFull then world.noting (.notify submission.exerciseId submission.userId) else world
  shown : score.outputs = first.redact (outputs.filterMap id)
  shown' : other.outputs = second.redact (outputs.filterMap id)

theorem sameGrade_combine (first second : Visibility) (submission : Submission)
    (outputs : List (Option (ScoredOutput Float))) (world : World) :
    ∃ score other later, SameGrade first second submission outputs world score other later :=
  ⟨_, _, _, perform_combine _ outputs world, perform_combine _ outputs world, ⟨rfl, rfl⟩, rfl, rfl,
    rfl, rfl⟩

/-- Outputs that differ only in hidden details come to the same. -/
theorem combine_eq_of_hides {submission : Submission}
    (hides : submission.visibility.hideTestResults)
    {outputs others : List (Option (ScoredOutput Float))}
    (alike : ScoredOutput.strip outputs = ScoredOutput.strip others) :
    combine submission outputs = combine submission others := by
  have scores : SubmissionScore.ofOutputs submission.maximumScore submission.visibility outputs =
      SubmissionScore.ofOutputs submission.maximumScore submission.visibility others := by
    rw [← SubmissionScore.ofOutputs_strip hides, alike, SubmissionScore.ofOutputs_strip hides]
  rw [combine, combine, scores]

end Grader

/-! ## Redaction and grades -/

/-- What redaction leaves as it is, and what it hides. Outputs are of exact scores and weights where
they are added up in different orders. -/
structure Visibility.LeavesGrade (first second : Visibility) (submission : Submission) : Prop where
  combines : ∀ outputs world, ∃ score other later,
    Grader.SameGrade first second submission outputs world score other later
  total : ∀ outputs : List (Option (ScoredOutput Rat)), totalScore outputs =
    ((outputs.filterMap id).map fun output => output.score * output.weight).sum
  permuted : ∀ outputs others : List (Option (ScoredOutput Rat)), outputs.Perm others →
    totalScore outputs = totalScore others
  inserted : ∀ before after : List (Option (ScoredOutput Rat)),
    totalScore (before ++ none :: after) = totalScore (before ++ after)
  composes : ∀ outputs : List (ScoredOutput Float),
    second.redact (first.redact outputs) = (both first second).redact outputs
  idempotent : ∀ outputs : List (ScoredOutput Float),
    first.redact (first.redact outputs) = first.redact outputs
  commutes : ∀ outputs : List (ScoredOutput Float),
    second.redact (first.redact outputs) = first.redact (second.redact outputs)
  shown : ∀ outputs : List (ScoredOutput Float), ∃ seen, seen.Sublist outputs ∧
    seen = outputs.filter first.shows ∧ List.Forall₂ first.Sees (first.redact outputs) seen
  hidden : first.hideTestResults → ∀ outputs others,
    ScoredOutput.strip outputs = ScoredOutput.strip others →
    Grader.combine (submission.withVisibility first) outputs =
        Grader.combine (submission.withVisibility first) others ∧
      first.redact (outputs.filterMap id) = first.redact (others.filterMap id)

theorem Visibility.leavesGrade (first second : Visibility) (submission : Submission) :
    LeavesGrade first second submission where
  combines := Grader.sameGrade_combine first second submission
  total := totalScore_eq_sum
  permuted _ _ := totalScore_eq_of_perm
  inserted := totalScore_insert_none
  composes := redact_redact first second
  idempotent outputs := by rw [redact_redact, both_self]
  commutes outputs := by rw [redact_redact, redact_redact, both_comm]
  shown outputs := ⟨_, List.filter_sublist, rfl, forall₂_redact first outputs⟩
  hidden hides outputs others alike := by
    refine ⟨Grader.combine_eq_of_hides hides alike, ?_⟩
    rw [← redact_map_withoutDetails hides, ← ScoredOutput.filterMap_strip, alike,
      ScoredOutput.filterMap_strip, redact_map_withoutDetails hides]

end Grading
