import Grading.Proofs.Capture
import Grading.Proofs.SummaryNumber
import Grading.Report.JUnit

namespace Grading

/-! What JUnit prints last is what counts. No match of a summary begins in an earlier line and gets
into the last one: a success has to be the end of the text, and the other numbers stay within their
lines. -/

namespace Report.JUnit

open Pattern Expression Attempt

/-! ## Summaries -/

/-- What is printed behind a run without failures. -/
def success (count : Fin numberBound) : String :=
  "\nOK (" ++ toString count.val ++ " tests)\n\n"

/-- What is printed behind a run with failures. -/
def failure (count failed : Fin numberBound) : String :=
  "\nFAILURES!!!\nTests run: " ++ toString count.val ++ ",  Failures: " ++ toString failed.val ++
    "\n\n"

/-- Whether a success begins here that is the end of the text. Only blanks and what a terminal adds
can follow it. -/
def BeginsSuccess (text : List Char) : Prop :=
  ∃ digits plural trailer, (∀ character ∈ digits, Text.isDecimalDigit character = true) ∧
    (plural = [] ∨ plural = "s".toList) ∧
    (∀ character ∈ trailer, Text.isBlank character = true ∨ character ∈ "\x1b]0;exit".toList) ∧
    text = "OK (".toList ++ (digits ++ (" test".toList ++ (plural ++ (")".toList ++ trailer))))

theorem matchAt_successPattern {text : List Char} (before : Option Char)
    (other : ¬ BeginsSuccess text) :
    successPattern.expression.matchAt? ⟨before, text, 0⟩ = none := by
  rw [matchAt_eq_none_iff, List.eq_nil_iff_forall_not_mem]
  intro later member
  have digits := isMetBy_one CharSet.digit
  have blanks := (isMetBy_one CharSet.blank).anyNumber true
  have sequel := (isMetBy_literal "\x1b]0;").either (isMetBy_literal "exit")
  obtain ⟨_, _, rfl, opening, member⟩ := (isMetBy_literal _).of_mem_cons member
  obtain ⟨number, _, ⟨-, areDigits⟩, isNumber, member⟩ :=
    ((digits.oneOrMore true).group 1).of_mem_cons member
  obtain ⟨_, _, rfl, isTest, member⟩ := (isMetBy_literal _).of_mem_cons member
  obtain ⟨plural, _, isPlural, areTests, member⟩ :=
    ((isMetBy_literal "s").perhaps true).of_mem_cons member
  obtain ⟨_, _, rfl, closing, member⟩ := (isMetBy_literal _).of_mem_cons member
  obtain ⟨gap, _, areBlank, isGap, member⟩ := blanks.of_mem_cons member
  obtain ⟨added, _, isSequel, isAdded, member⟩ := (sequel.perhaps true).of_mem_cons member
  obtain ⟨last, ended, areLast, isLast, member⟩ := blanks.of_mem_cons member
  obtain ⟨ends, -⟩ := mem_condition.mp member
  have nothing : ended.rest = [] := List.isEmpty_iff.mp ends
  refine other ⟨number, plural, gap ++ (added ++ last), areDigits, isPlural, ?_, ?_⟩
  · simp only [List.forall_mem_append]
    refine ⟨fun _ isGap => .inl (areBlank _ isGap), fun _ isAdded => .inr ?_,
      fun _ isLast => .inl (areLast _ isLast)⟩
    rcases isSequel with rfl | rfl | rfl
    · cases isAdded
    · exact List.mem_append_left "exit".toList isAdded
    · exact List.mem_append_right "\x1b]0;".toList isAdded
  · have whole := opening.rest
    rw [isNumber.rest, isTest.rest, areTests.rest, closing.rest, isGap.rest, isAdded.rest,
      isLast.rest, nothing, List.append_nil] at whole
    exact whole

/-- A success that begins in an earlier line cannot go on behind what is seen of a later one. -/
theorem not_beginsSuccess {behind : List Char} {character : Char} (member : character ∈ behind)
    (visible : Text.isBlank character = false) (other : character ∉ "\x1b]0;exit".toList)
    (late : List Char) : ¬ BeginsSuccess (late ++ '\n' :: behind) := by
  rintro ⟨digits, plural, trailer, areDigits, isPlural, isTrailer, whole⟩
  have inLine : '\n' ∉ "OK (".toList ++ (digits ++ (" test".toList ++ (plural ++ ")".toList))) := by
    simp only [List.mem_append, not_or]
    refine ⟨by decide, fun isDigit => absurd (areDigits _ isDigit) (by decide), by decide, ?_,
      by decide⟩
    rcases isPlural with rfl | rfl <;> decide
  have ended : "OK (".toList ++ (digits ++ (" test".toList ++ (plural ++ ")".toList))) ++ trailer =
      late ++ '\n' :: behind := by
    simpa only [List.append_assoc] using whole.symm
  obtain ⟨more, -, rfl⟩ := exists_of_append_eq inLine ended
  rcases isTrailer character
    (List.mem_append_right more (List.mem_cons_of_mem _ member)) with isBlank | isAdded
  · rw [visible] at isBlank
    cases isBlank
  · exact other isAdded

theorem misses_success {behind : List Char} {character : Char} (member : character ∈ behind)
    (visible : Text.isBlank character = false) (other : character ∉ "\x1b]0;exit".toList)
    (earlier : List Char) : Misses BeginsSuccess (earlier ++ ['\n']) behind := by
  intro early late whole some isSuccess
  obtain ⟨line, rfl⟩ : ∃ line, late = line ++ ['\n'] := by
    have last := congrArg List.getLast? whole
    rw [List.getLast?_append_of_ne_nil _ some, List.getLast?_concat] at last
    exact List.getLast?_eq_some_iff.mp last.symm
  rw [List.append_assoc] at isSuccess
  exact not_beginsSuccess member visible other line isSuccess

/-! ## Successes -/

theorem fit_success (count : Nat) :
    Fit [Report.literal "OK (", .group 1 (oneOrMore .digit), Report.literal " test",
        perhaps (Report.literal "s"), Report.literal ")", many .blank,
        perhaps (.either (Report.literal "\x1b]0;") (Report.literal "exit")), many .blank,
        .condition .textEnd]
      ("OK (".toList ++ (Nat.toDigits 10 count ++ (" test".toList ++ ("s".toList ++
        (")".toList ++ "\n\n".toList))))) [] [(1, Nat.toDigits 10 count)] := by
  have nothingBehind : ∀ set : CharSet, ∀ character ∈ ([] : List Char).head?,
      set.contains character = false := nofun
  have last : Fit [many .blank, .condition .textEnd] [] [] [] :=
    Fit.text_end.skip fun outcome here =>
      prefers_run here (List.forall_mem_nil _) (nothingBehind _)
  have added : Fit [perhaps (.either (Report.literal "\x1b]0;") (Report.literal "exit")),
      many .blank, .condition .textEnd] [] [] [] := by
    refine (last.skip fun outcome here => prefers_perhaps_not ?_ : Fit _ ([] ++ []) [] [])
    rw [outcomes, Report.literal, Report.literal, outcomes_literal, outcomes_literal, here]
    rfl
  have breaks : ∀ character ∈ "\n\n".toList, CharSet.blank.contains character = true :=
    List.forall_mem_cons.mpr ⟨by decide, List.forall_mem_singleton.mpr (by decide)⟩
  have gap : Fit [many .blank, perhaps (.either (Report.literal "\x1b]0;") (Report.literal "exit")),
      many .blank, .condition .textEnd] ("\n\n".toList ++ []) [] [] :=
    added.skip fun outcome here => prefers_run here breaks (nothingBehind _)
  have plural : Fit [perhaps (Report.literal "s"), Report.literal ")", many .blank,
      perhaps (.either (Report.literal "\x1b]0;") (Report.literal "exit")), many .blank,
      .condition .textEnd] ("s".toList ++ (")".toList ++ ("\n\n".toList ++ []))) [] [] :=
    gap.literal.skip fun outcome here => prefers_perhaps (prefers_literal here)
  have number : Fit (Report.literal " test" :: _) _ [] [] := plural.literal
  refine Fit.literal (Fit.group number (fun outcome here => ?_) rfl)
  refine prefers_run_one Nat.toDigits_ne_nil here (Text.isDecimalDigit_toDigits count) ?_
  rintro character ⟨⟩
  decide

theorem toList_success (count : Fin numberBound) :
    (success count).toList = '\n' :: ("OK (".toList ++ (Nat.toDigits 10 count ++
      (" test".toList ++ ("s".toList ++ (")".toList ++ "\n\n".toList))))) := by
  rw [success, String.toList_append, String.toList_append, Text.toList_toString, List.append_assoc]
  rfl

/-- A success that ends the text is the only one, and says how many tests there were. -/
theorem lastNumber_success (earlier : List Char) (count : Fin numberBound) :
    lastNumber successPattern (earlier ++ (success count).toList) = some count.val := by
  obtain ⟨text, isText⟩ : ∃ text, text = "OK (".toList ++ (Nat.toDigits 10 count ++
      (" test".toList ++ ("s".toList ++ (")".toList ++ "\n\n".toList)))) := ⟨_, rfl⟩
  have isSeen : 'O' ∈ text := isText ▸ List.mem_cons_self
  have needs : successPattern.expression.isNullable = false := by decide
  obtain ⟨later, prefers, ends, remembers⟩ :=
    fit_success count (standsIn_start (some '\n') text) (isText.trans (List.append_nil _).symm)
  have found : successPattern.expression.matchAt? ⟨some '\n', text, 0⟩ =
      some ⟨0, later.cursor, later.marks⟩ := by
    rw [matchAt?]
    exact congrArg (Option.map _) prefers
  have isNumber := (remembers _ List.mem_cons_self).reading Nat.one_ne_zero 0
  have misses := misses_success isSeen (by decide) (by decide) earlier
  have readings := readingsAt_of_misses (fun _ _ => matchAt_successPattern _) misses none
  rw [List.getLast?_concat, Option.some_or, readingsAt_of_some needs found,
    show later.cursor.rest = [] from ends, readingsAt_nil needs, ← List.nil_append [_],
    List.append_assoc] at readings
  rw [toList_success, ← isText, lastNumber_eq_numberIn_at rfl (by decide) needs]
  exact (congrArg numberIn readings).trans (numberIn_concat [] isNumber count.isLt)

/-! ## Failures -/

/-- A number that follows the last place of its title is the one that counts. -/
theorem lastNumber_numberBetween {opening : String} {count : Nat} {lead more : List Char}
    (inLine : (numberBetween opening "").expression.IsInLine) (small : count < numberBound)
    (misses : Misses (opening.toList <+: ·) lead
      (opening.toList ++ Nat.toDigits 10 count ++ more))
    (stops : ∀ character ∈ more.head?, Text.isDecimalDigit character = false)
    (nothing : (numberBetween opening "").expression.readings more = []) (earlier : List Char) :
    lastNumber (numberBetween opening "")
      (earlier ++ '\n' :: (lead ++ (opening.toList ++ Nat.toDigits 10 count ++ more))) =
        some count := by
  have asks : ∀ before text, ¬ opening.toList <+: text →
      (numberBetween opening "").expression.matchAt? ⟨before, text, 0⟩ = none :=
    fun before text other => by
      have start : ¬ opening.toList <+: (Attempt.start ⟨before, text, 0⟩).rest := other
      exact matchAt_eq_none_iff.mpr (outcomes_cons_literal start)
  have stops' : ∀ character ∈ ("".toList ++ more).head?, Text.isDecimalDigit character = false :=
    stops
  obtain ⟨reading, isNumber, readings⟩ := readings_numberBetween
    inLine.needs Nat.toDigits_ne_nil (Text.isDecimalDigit_toDigits count) stops'
  have scanned := inLine.readings_line earlier
    (lead ++ (opening.toList ++ Nat.toDigits 10 count ++ more))
  rw [← inLine.isScannable.readingsAt_eq none (lead ++ _), readingsAt_of_misses asks misses,
    inLine.isScannable.readingsAt_eq] at scanned
  rw [lastNumber_eq_numberIn rfl inLine.isScannable, scanned]
  refine (congrArg (fun last => numberIn (_ ++ last)) (readings.trans ?_)).trans
    (numberIn_concat _ isNumber small)
  rw [nothing]

theorem inLine_countPattern : countPattern.expression.IsInLine :=
  ⟨by decide, by decide, by decide⟩

theorem inLine_failuresPattern : failuresPattern.expression.IsInLine :=
  ⟨by decide, by decide, by decide⟩

theorem toList_failure (count failed : Fin numberBound) :
    (failure count failed).toList = '\n' :: ("FAILURES!!!".toList ++ '\n' ::
      ("Tests run: ".toList ++ (Nat.toDigits 10 count ++ (",  ".toList ++ ("Failures: ".toList ++
        (Nat.toDigits 10 failed ++ "\n\n".toList)))))) := by
  have opening : "\nFAILURES!!!\nTests run: ".toList =
      '\n' :: ("FAILURES!!!".toList ++ '\n' :: "Tests run: ".toList) := by decide
  have between : ",  Failures: ".toList = ",  ".toList ++ "Failures: ".toList := by decide
  unfold failure
  rw [String.toList_append, String.toList_append, String.toList_append, String.toList_append,
    Text.toList_toString, Text.toList_toString, opening, between]
  simp only [List.append_assoc, List.cons_append]

/-- A report of failures is never taken for a success, whatever precedes it. -/
theorem lastNumber_failure (earlier : List Char) (count failed : Fin numberBound) :
    lastNumber successPattern (earlier ++ (failure count failed).toList) = none := by
  obtain ⟨text, isText⟩ : ∃ text, text = "FAILURES!!!".toList ++ '\n' ::
      ("Tests run: ".toList ++ (Nat.toDigits 10 count ++ (",  ".toList ++ ("Failures: ".toList ++
        (Nat.toDigits 10 failed ++ "\n\n".toList))))) := ⟨_, rfl⟩
  have isSeen : 'F' ∈ text := isText ▸ List.mem_cons_self
  have noSuccess : Misses BeginsSuccess text [] := by
    have absent : 'O' ∉ text := by
      have digits := Text.not_mem_toDigits (rfl : 'O'.isDigit = false)
      simp only [isText, List.mem_append, List.mem_cons, digits]
      decide
    refine misses_of_not_mem absent ?_
    rintro _ ⟨_, _, _, -, -, -, rfl⟩
    rfl
  have asks : ∀ before text, ¬ BeginsSuccess text →
      successPattern.expression.matchAt? ⟨before, text, 0⟩ = none :=
    fun before _ => matchAt_successPattern before
  have misses := misses_success isSeen (by decide) (by decide) earlier
  have readings := readingsAt_of_misses asks misses none
  have nothing := readingsAt_of_misses asks noSuccess (some '\n')
  rw [List.append_nil, readingsAt_nil (by decide)] at nothing
  rw [List.getLast?_concat, Option.some_or, nothing, ← List.nil_append [_],
    List.append_assoc] at readings
  rw [toList_failure, ← isText, lastNumber_eq_numberIn_at rfl (by decide) (by decide)]
  exact congrArg numberIn readings

/-- The numbers of a report of failures are those of its last line. -/
theorem lastNumbers_failure (earlier : List Char) (count failed : Fin numberBound) :
    lastNumber countPattern (earlier ++ (failure count failed).toList) = some count.val ∧
      lastNumber failuresPattern (earlier ++ (failure count failed).toList) =
        some failed.val := by
  have digits {character : Char} (other : character.isDigit = false) (value : Nat) :=
    Text.not_mem_toDigits other value
  obtain ⟨more, isMore⟩ : ∃ more, more = ",  ".toList ++ ("Failures: ".toList ++
      (Nat.toDigits 10 failed ++ "\n\n".toList)) := ⟨_, rfl⟩
  have noCount : countPattern.expression.readings more = [] := by
    refine readings_of_not_mem (by decide : countPattern.expression.requires 'T' = true) ?_
    simp only [isMore, List.mem_append, digits (rfl : 'T'.isDigit = false) _]
    decide
  have isComma : ∀ character ∈ more.head?, Text.isDecimalDigit character = false := by
    subst isMore
    rintro character ⟨⟩
    decide
  have isCount : lastNumber countPattern _ = some count.val :=
    lastNumber_numberBetween inLine_countPattern count.isLt misses_nil isComma noCount
      (earlier ++ '\n' :: "FAILURES!!!".toList)
  have noFailed : failuresPattern.expression.readings "\n\n".toList = [] :=
    readings_of_not_mem (by decide : failuresPattern.expression.requires 'F' = true) (by decide)
  have misses : Misses ("Failures: ".toList <+: ·)
      ("Tests run: ".toList ++ Nat.toDigits 10 count ++ ",  ".toList)
      ("Failures: ".toList ++ Nat.toDigits 10 failed ++ "\n\n".toList) := by
    have absent : 'F' ∉ "Tests run: ".toList ++ Nat.toDigits 10 count ++ ",  ".toList := by
      simp only [List.mem_append, digits (rfl : 'F'.isDigit = false) _]
      decide
    refine misses_of_not_mem absent ?_
    rintro _ ⟨_, rfl⟩
    rfl
  have isBreak : ∀ character ∈ "\n\n".toList.head?, Text.isDecimalDigit character = false := by
    rintro character ⟨⟩
    decide
  have isFailed : lastNumber failuresPattern _ = some failed.val :=
    lastNumber_numberBetween inLine_failuresPattern failed.isLt misses isBreak noFailed
      (earlier ++ '\n' :: "FAILURES!!!".toList)
  rw [toList_failure]
  constructor
  · simpa only [isMore, List.append_assoc, List.cons_append, List.nil_append] using isCount
  · simpa only [List.append_assoc, List.cons_append, List.nil_append] using isFailed

/-! ## Whole reports -/

/-- The counts of a report are those of the summary that ends it, whatever was printed before. -/
theorem read_summary (earlier stderr : String) (count failed : Fin numberBound) :
    read ⟨earlier ++ success count, stderr⟩ =
        { count, passed := count, failed := 0, errorMessages := [] } ∧
      lastNumber successPattern (earlier ++ failure count failed).toList = none ∧
      let result := read ⟨earlier ++ failure count failed, stderr⟩
      result.count = count ∧ result.failed = failed ∧ result.passed = count - failed := by
  have isSuccess := lastNumber_success earlier.toList count
  have isFailure := lastNumber_failure earlier.toList count failed
  obtain ⟨isCount, isFailed⟩ := lastNumbers_failure earlier.toList count failed
  simp only [← String.toList_append] at isSuccess isFailure isCount isFailed
  refine ⟨?_, isFailure, ?_⟩
  · simp only [read_unhurried, resultOf, isSuccess]
    rfl
  · simp only [read_unhurried, resultOf, isFailure, isCount, isFailed]
    exact ⟨rfl, rfl, rfl⟩

end Report.JUnit

end Grading
