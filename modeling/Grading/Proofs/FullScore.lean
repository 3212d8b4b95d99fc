import Grading.Grader
import Grading.Proofs.PartialCredit
import Grading.Proofs.Rounding

namespace Grading

/-! When tests have succeeded. The counts say so, the verdict, the score and the praise that goes
with it, each in its own way, and all of them agree: for exact scores and for doubles. -/

/-! ## Exact shares -/

namespace Quantity

variable {count failed : Nat}

theorem clampToUnit_rat (value : Rat) : clampToUnit value = max 0 (min value 1) := by
  have cases : clampToUnit value = if value < 0 then 0 else if 1 < value then 1 else value := by
    simp [clampToUnit, isBelow, ofCount]
  rw [cases]
  grind

theorem isOne_rat_iff (value : Rat) : isOne value ↔ |value - 1| < 1 / 2 ^ 52 := by
  have both : isOne value ↔ value - 1 < 1 / 2 ^ 52 ∧ 1 - value < 1 / 2 ^ 52 := by
    rw [isOne, Bool.and_eq_true]
    norm_num [isBelow, ofCount, tolerance]
  rw [both, abs_lt]
  grind

/-- The exact share is the part of those that passed. -/
theorem passingShare_rat (count failed : Nat) :
    (passingShare count failed : Rat) = (count - failed : Nat) / count := by
  rcases Nat.eq_zero_or_pos count with rfl | positive
  · simp [passingShare, ofCount]
  · have above : (0 : Rat) < count := by exact_mod_cast positive
    have share : (passingShare count failed : Rat) =
        max 0 (min (((count : Rat) - failed) / count) 1) := by
      rw [← clampToUnit_rat, passingShare, if_neg (Nat.ne_of_gt positive)]
      rfl
    have atMostOne : ((count : Rat) - failed) / count ≤ 1 := by
      rw [div_le_one above]
      exact sub_le_self _ (Nat.cast_nonneg failed)
    rw [share, min_eq_left atMostOne]
    rcases Nat.le_total failed count with few | many
    · rw [Nat.cast_sub few]
      have fewer : (failed : Rat) ≤ count := by exact_mod_cast few
      exact max_eq_right (div_nonneg (sub_nonneg.mpr fewer) above.le)
    · have more : (count : Rat) ≤ failed := by exact_mod_cast many
      rw [Nat.sub_eq_zero_of_le many, Nat.cast_zero, zero_div]
      exact max_eq_left (div_nonpos_of_nonpos_of_nonneg (sub_nonpos.mpr more) above.le)

theorem passingShare_rat_eq_one_iff :
    (passingShare count failed : Rat) = 1 ↔ 0 < count ∧ failed = 0 := by
  rw [passingShare_rat]
  rcases Nat.eq_zero_or_pos count with rfl | positive
  · simp
  · have nonzero : (count : Rat) ≠ 0 := by exact_mod_cast Nat.ne_of_gt positive
    rw [div_eq_one_iff_eq nonzero, Nat.cast_inj]
    omega

theorem all_and_passingShare_rat_iff :
    count - failed = count ∧ 0 < (passingShare count failed : Rat) ↔ 0 < count ∧ failed = 0 := by
  constructor
  · rintro ⟨all, above⟩
    have nonzero : count ≠ 0 := by
      rintro rfl
      rw [passingShare_rat, Nat.cast_zero, div_zero] at above
      exact lt_irrefl 0 above
    omega
  · intro full
    rw [passingShare_rat_eq_one_iff.mpr full]
    exact ⟨by omega, one_pos⟩

theorem isOne_passingShare_rat_iff (small : count ≤ countLimit) :
    isOne (passingShare count failed : Rat) ↔ 0 < count ∧ failed = 0 := by
  rw [isOne_rat_iff]
  constructor
  · intro close
    by_contra notFull
    have lacks : count = 0 ∨ failed ≠ 0 := by omega
    have away := exactShare_le (Nat.lt_succ_of_le small) lacks
    have near := (abs_lt.mp close).1
    rw [passingShare_rat] at near
    linarith
  · intro full
    rw [passingShare_rat_eq_one_iff.mpr full]
    norm_num

end Quantity

/-! ## Praise -/

/-- Whether this score of the file is praised as that of tests that were all passed, whatever the
praise is. -/
def Praises {α : Type} [Quantity α] (file : SubmissionFile) (score : α) : Prop :=
  ∀ feedback : Feedback, feedback.message file (Quantity.isOne score) = feedback.allPassed

theorem praises_iff {α : Type} [Quantity α] {file : SubmissionFile} {score : α}
    (isTest : file.role = .teacherDefinedTest) :
    Praises file score ↔ Quantity.isOne score := by
  constructor
  · intro praises
    by_contra notFull
    have own (feedback : Feedback) : feedback.allPassed = file.feedbackMessage.getD "" := by
      rw [← praises feedback, Bool.eq_false_iff.mpr notFull]
      simp only [Feedback.message, isTest]
    have same := (own ⟨"", "", ""⟩).trans (own ⟨"!", "", ""⟩).symm
    exact absurd same (by decide)
  · intro full feedback
    simp only [Feedback.message, isTest, full]

/-! ## Reports of tests -/

/-- What was counted, the verdict, the score and its praise fit together. -/
structure Assessment.AgreesOnSuccess (framework : Framework) (assessment : Assessment) : Prop where
  passed : (assessment.result.passed : Int) =
    max (assessment.result.count - assessment.result.failed) 0
  consistent : framework = .pyUnit → assessment.result.failed ≤ assessment.result.count ∧
    assessment.result.passed + assessment.result.failed = assessment.result.count
  bounds : 0 ≤ assessment.result.exactScore ∧ assessment.result.exactScore ≤ 1
  nothing : assessment.result.count = 0 → assessment.result.exactScore = 0
  rounded : assessment.score =
    Quantity.passingShare assessment.result.count assessment.result.failed
  success : ∀ file : SubmissionFile, file.role = .teacherDefinedTest →
    [assessment.passed = true,
      assessment.result.passed = assessment.result.count ∧ 0 < assessment.result.exactScore,
      0 < assessment.result.count ∧ assessment.result.failed = 0,
      assessment.result.exactScore = 1, Praises file assessment.result.exactScore,
      assessment.score = 1, Praises file assessment.score].TFAE

theorem TestResult.score_ofCounts (count failed : Nat) (messages : List String) :
    (ofCounts count failed messages).score = Quantity.passingShare count failed := by
  by_cases none : count = 0
  · have zero : (0 : Float) = Quantity.ofCount 0 := by decide
    rw [none]
    exact zero
  · exact if_neg none

theorem Assessment.passed_ofCounts_iff {count failed : Nat} (small : count < 2 ^ 32)
    (messages : List String) :
    passed ⟨.ofCounts count failed messages, Quantity.passingShare count failed⟩ ↔
      0 < count ∧ failed = 0 := by
  have verdict : passed ⟨.ofCounts count failed messages, Quantity.passingShare count failed⟩ ↔
      count - failed = count ∧ (0 : Float) < Quantity.passingShare count failed := by
    rw [passed, Bool.and_eq_true, beq_iff_eq, decide_eq_true_iff]
    rfl
  rw [verdict]
  constructor
  · rintro ⟨all, above⟩
    have positive : 0 < count := by
      rcases Nat.eq_zero_or_pos count with rfl | positive
      · exact absurd above (by decide : ¬(0 : Float) < Quantity.ofCount 0)
      · exact positive
    omega
  · rintro ⟨positive, rfl⟩
    rw [Quantity.passingShare_eq_one positive small]
    exact ⟨Nat.sub_zero count, by decide⟩

/-- Counts decide about success, in whichever way it is told. -/
theorem Assessment.agreesOnSuccess_ofCounts {framework : Framework} {count failed : Nat}
    (small : count ≤ countLimit) (small' : failed ≤ countLimit)
    (consistent : framework = .pyUnit → failed ≤ count) (messages : List String) :
    AgreesOnSuccess framework
      ⟨.ofCounts count failed messages, (TestResult.ofCounts count failed messages).score⟩ := by
  have few : count < 2 ^ 32 := Nat.lt_succ_of_le small
  have few' : failed < 2 ^ 32 := Nat.lt_succ_of_le small'
  have exact : (TestResult.ofCounts count failed messages).exactScore =
      ((count - failed : Nat) : Rat) / count := Quantity.passingShare_rat count failed
  refine ⟨?_, ?_, ?_, ?_, TestResult.score_ofCounts .., fun file isTest => ?_⟩
  · change ((count - failed : Nat) : Int) = max (count - failed) 0
    omega
  · intro isPyUnit
    exact ⟨consistent isPyUnit, Nat.sub_add_cancel (consistent isPyUnit)⟩
  · have part : ((count - failed : Nat) : Rat) ≤ count := by exact_mod_cast Nat.sub_le ..
    rw [exact]
    exact ⟨by positivity, div_le_one_of_le₀ part (Nat.cast_nonneg _)⟩
  · intro none
    change count = 0 at none
    rw [exact, none, Nat.cast_zero, div_zero]
  · rw [praises_iff isTest, praises_iff isTest, TestResult.score_ofCounts]
    change [passed _ = true, count - failed = count ∧
      0 < (Quantity.passingShare count failed : Rat), 0 < count ∧ failed = 0,
      (Quantity.passingShare count failed : Rat) = 1,
      Quantity.isOne (Quantity.passingShare count failed : Rat) = true,
      (Quantity.passingShare count failed : Float) = 1,
      Quantity.isOne (Quantity.passingShare count failed : Float) = true].TFAE
    tfae_have 4 ↔ 3 := Quantity.passingShare_rat_eq_one_iff
    tfae_have 5 ↔ 3 := Quantity.isOne_passingShare_rat_iff small
    tfae_have 6 ↔ 3 := Quantity.passingShare_eq_one_iff few few'
    tfae_have 7 ↔ 3 := Quantity.isOne_passingShare_iff few few'
    tfae_have 2 ↔ 3 := Quantity.all_and_passingShare_rat_iff
    tfae_have 1 ↔ 3 := passed_ofCounts_iff few messages
    tfae_finish

theorem Assessor.agreesOnSuccess (assessor : Assessor) (tests : assessor.framework.isLinter = false)
    (output : CapturedOutput) (searching : Searching) :
    (assessor.assess output searching).AgreesOnSuccess assessor.framework := by
  rcases Framework.exists_counts tests output searching with
    ⟨count, failed, messages, counted, small, small', consistent⟩
  have assessed : assessor.assess output searching =
      ⟨.ofCounts count failed messages, (TestResult.ofCounts count failed messages).score⟩ := by
    rw [assess, tests, counted]
    rfl
  rw [assessed]
  exact Assessment.agreesOnSuccess_ofCounts small small' consistent messages

theorem Assessor.agreesOnSuccess_ok :
    let assessment := Assessor.assess ⟨.jUnit, .empty⟩ ⟨"OK (2 tests)", ""⟩
    Framework.isLinter .jUnit = false ∧ assessment.AgreesOnSuccess .jUnit ∧
      0 < assessment.result.count ∧ assessment.result.failed = 0 := by
  intro assessment
  have agrees : assessment.AgreesOnSuccess .jUnit :=
    Assessor.agreesOnSuccess ⟨.jUnit, .empty⟩ rfl ⟨"OK (2 tests)", ""⟩ .unhurried
  exact ⟨rfl, agrees, by decide +kernel⟩

end Grading
