import Grading.Proofs.SummaryNumber
import Grading.Report.PyUnit

namespace Grading.Report.PyUnit

open Pattern Expression Attempt

/-! What is counted of the summaries that PyUnit prints: a line with the number of tests, an empty
line, and a verdict, which names how many tests failed for which reasons. -/

/-! ## Summaries -/

abbrev Count := Fin numberBound

def digits (count : Count) : List Char := Nat.toDigits 10 count

/-- How many tests there were of each kind that a verdict names. -/
structure Reasons where
  failures : Option Count
  errors : Option Count
  skipped : Option Count
  expectedFailures : Option Count
  unexpectedSuccesses : Option Count

namespace Reasons

def entry (title : String) (count : Option Count) : List (List Char) :=
  (count.map fun count => title.toList ++ digits count).toList

def entries (reasons : Reasons) : List (List Char) :=
  entry "failures=" reasons.failures ++ (entry "errors=" reasons.errors ++
    (entry "skipped=" reasons.skipped ++ (entry "expected failures=" reasons.expectedFailures ++
      entry "unexpected successes=" reasons.unexpectedSuccesses)))

def verdict (reasons : Reasons) : List Char :=
  "FAILED (".toList ++ [',', ' '].intercalate reasons.entries ++ ")".toList

end Reasons

structure Summary where
  count : Count
  /-- Whether there is talk of tests rather than of a test. -/
  plural : Bool
  /-- The time, as it is printed. -/
  seconds : List Char
  isPlain : ∀ character ∈ seconds, character.isUpper = false
  reasons : Option Reasons

namespace Summary

/-- The line that ends a summary. -/
def verdict (summary : Summary) : List Char :=
  match summary.reasons with
  | none => "OK".toList
  | some reasons => reasons.verdict

/-- What follows the number of tests in its line. -/
def remark (summary : Summary) : List Char :=
  (if summary.plural then ['s'] else []) ++ " in ".toList ++ summary.seconds ++ ['s']

def firstLine (summary : Summary) : List Char :=
  "Ran ".toList ++ digits summary.count ++ (" test".toList ++ summary.remark)

def text (summary : Summary) : List Char :=
  summary.firstLine ++ '\n' :: '\n' :: summary.verdict

/-- A number in the verdict. -/
def number (summary : Summary) (kind : Reasons → Option Count) : Option Nat :=
  (summary.reasons.bind kind).map Fin.val

end Summary

/-! ## Verdicts -/

theorem digits_ne_nil (count : Count) : digits count ≠ [] := Nat.toDigits_ne_nil

theorem isDecimalDigit_of_mem_digits (count : Count) :
    ∀ character ∈ digits count, Text.isDecimalDigit character = true :=
  Text.isDecimalDigit_toDigits count

theorem intercalate_cons {α : Type} (separator item : List α) (items : List (List α)) :
    separator.intercalate (item :: items) = item ++ items.flatMap (separator ++ ·) := by
  induction items generalizing item with
  | nil => simp
  | cons next items induction =>
      rw [List.intercalate_cons_cons, induction, List.flatMap_cons, List.append_assoc,
        List.append_assoc]

theorem intercalate_append {α : Type} (separator item : List α) (before after : List (List α)) :
    separator.intercalate (before ++ item :: after) =
      before.flatMap (· ++ separator) ++ (item ++ after.flatMap (separator ++ ·)) := by
  induction before with
  | nil => exact intercalate_cons separator item after
  | cons first before induction =>
      rw [List.cons_append, List.intercalate_cons_of_ne_nil (by simp), induction,
        List.flatMap_cons, List.append_assoc, List.append_assoc, List.append_assoc]

theorem mem_separated {α : Type} {separator : List α} {items : List (List α)} {one : α}
    (member : one ∈ items.flatMap (separator ++ ·)) :
    one ∈ separator ∨ ∃ item ∈ items, one ∈ item := by
  obtain ⟨item, isItem, inside⟩ := List.mem_flatMap.mp member
  exact (List.mem_append.mp inside).imp_right fun within => ⟨item, isItem, within⟩

theorem mem_intercalate {α : Type} {separator : List α} {items : List (List α)} {one : α}
    (member : one ∈ separator.intercalate items) :
    one ∈ separator ∨ ∃ item ∈ items, one ∈ item := by
  cases items with
  | nil => cases member
  | cons item items =>
      rw [intercalate_cons] at member
      rcases List.mem_append.mp member with first | later
      · exact .inr ⟨item, List.mem_cons_self, first⟩
      · exact (mem_separated later).imp_right fun ⟨other, isItem, within⟩ =>
          ⟨other, List.mem_cons_of_mem item isItem, within⟩

theorem contains_inLine {run : List Char} (inLine : '\n' ∉ run) :
    ∀ character ∈ run, Report.inLine.contains character = true := fun _ member =>
  (contains_allBut _ _).mpr fun same => inLine (same ▸ member)

/-- The number of a reason is that behind the last place where its title stands. -/
theorem readings_reason {title : String} {early late before number after : List Char}
    {landmark : Char} (needs : (reasonPattern title).expression.isNullable = false)
    (isTitle : title.toList = early ++ landmark :: late) (filled : number ≠ [])
    (isDigit : ∀ character ∈ number, Text.isDecimalDigit character = true)
    (stops : ∀ character ∈ (after ++ ")".toList).head?, Text.isDecimalDigit character = false)
    (inLine : '\n' ∉ before ∧ '\n' ∉ after)
    (absent : landmark ∉ late ++ (number ++ (after ++ ")".toList))) :
    ∃ reading : Reading, reading 1 = some number ∧
      (reasonPattern title).expression.readings ("FAILED (".toList ++
        (before ++ (title.toList ++ (number ++ (after ++ ")".toList))))) = [reading] := by
  obtain ⟨text, isText⟩ : ∃ text, text = "FAILED (".toList ++
      (before ++ (title.toList ++ (number ++ (after ++ ")".toList)))) := ⟨_, rfl⟩
  have opening : (Attempt.start (.start text)).rest = "FAILED (".toList ++
      (before ++ (title.toList ++ (number ++ (after ++ ")".toList)))) := isText
  have first := rest_skip_of_append opening
  have second := rest_skip_of_append first
  have third := rest_skip_of_append second
  have place := position_skip_of_append second
  have begins : (Attempt.start (.start text)).cursor.position = 0 := rfl
  rw [position_skip_of_append first, position_skip_of_append opening, begins, Nat.zero_add,
    ← List.length_append, ← List.length_append] at place
  have fourth : (((((((Attempt.start (.start text)).skip "FAILED (".toList.length).skip
      before.length).skip title.toList.length).mark 2).skip number.length).mark 3).rest =
      after ++ ")".toList := rest_skip_of_append third
  have fifth := rest_skip_of_append fourth
  have misfitsTitle : ∀ later : Pattern.Attempt,
      later.rest <:+ title.toList ++ (number ++ (after ++ ")".toList)) →
      later.rest ≠ title.toList ++ (number ++ (after ++ ")".toList)) →
      (concatAll [Report.literal title, .group 1 (oneOrMore .digit), many Report.inLine,
        Report.literal ")"]).outcomes later = [] := by
    intro later isSuffix other
    rw [isTitle] at isSuffix other
    refine outcomes_cons_literal fun isPrefix => other ?_
    rw [isTitle] at isPrefix
    exact eq_of_landmark absent isSuffix isPrefix
  have misfitsEnd : ∀ later : Pattern.Attempt, later.rest <:+ ")".toList → later.rest ≠ ")".toList →
      (concatAll [Report.literal ")"]).outcomes later = [] := by
    intro later isSuffix other
    refine outcomes_cons_literal fun isPrefix => other ?_
    exact isSuffix.sublist.antisymm isPrefix.sublist
  -- Before the title everything up to its last landmark is taken, behind the number everything up
  -- to the end of the verdict.
  have prefers := prefers_cons (prefers_literal opening)
    (prefers_cons_run first (contains_inLine inLine.1) misfitsTitle
      (prefers_cons (prefers_literal second)
        (prefers_cons (prefers_number filled third isDigit stops)
          (prefers_cons_run fourth (contains_inLine inLine.2) misfitsEnd
            (prefers_last (prefers_literal (fifth.trans (List.append_nil _).symm)))))))
  have readings := readings_of_prefers needs prefers
  rw [marks_skip, marks_skip, marks_number third, place, marks_skip, marks_skip, marks_skip,
    rest_skip_of_append (fifth.trans (List.append_nil _).symm), readings_nil needs] at readings
  rw [← isText]
  refine ⟨_, ?_, readings⟩
  have whole : text =
      "FAILED (".toList ++ before ++ title.toList ++ number ++ (after ++ ")".toList) := by
    rw [isText]
    simp only [List.append_assoc]
  rw [whole]
  exact Match.reading_of_marks (by decide) rfl rfl

/-- What readings tell: at most one number. -/
def Tells (readings : List Reading) : (count : Option Count) → Prop
  | none => readings = []
  | some count => ∃ reading : Reading, reading 1 = some (digits count) ∧ readings = [reading]

namespace Reasons

variable {character : Char}

theorem not_mem_entry {title : String} {count : Option Count} (noDigit : character.isDigit = false)
    (absent : character ∉ title.toList) : ∀ item ∈ entry title count, character ∉ item := by
  intro item isItem member
  obtain ⟨number, -, rfl⟩ := Option.map_eq_some_iff.mp (Option.mem_toList.mp isItem)
  rcases List.mem_append.mp member with inTitle | inDigits
  · exact absent inTitle
  · exact Text.not_mem_toDigits noDigit _ inDigits

/-- The last reason with a title, where no later one has the landmark of the title. -/
theorem tells_verdict {title : String} (early late : List Char) (landmark : Char)
    (needs : (reasonPattern title).expression.isNullable = false)
    (isTitle : title.toList = early ++ landmark :: late) {reasons : Reasons}
    (before after : List (List Char)) (lead : List Char) {count : Count}
    (entries : reasons.entries = before ++ (lead ++ (title.toList ++ digits count)) :: after)
    (inLine : ∀ item ∈ before ++ lead :: after, '\n' ∉ item)
    (noDigit : landmark.isDigit = false) (aside : landmark ∉ late ++ [',', ' ', ')'])
    (absent : ∀ item ∈ after, landmark ∉ item) :
    Tells ((reasonPattern title).expression.readings reasons.verdict) (some count) := by
  have line : reasons.verdict = "FAILED (".toList ++
      ((before.flatMap (· ++ [',', ' ']) ++ lead) ++ (title.toList ++ (digits count ++
        (after.flatMap ([',', ' '] ++ ·) ++ ")".toList)))) := by
    change "FAILED (".toList ++ [',', ' '].intercalate reasons.entries ++ ")".toList = _
    rw [entries, intercalate_append]
    simp only [List.append_assoc]
  have stops : ∀ character ∈ (after.flatMap ([',', ' '] ++ ·) ++ ")".toList).head?,
      Text.isDecimalDigit character = false := by
    cases after with
    | nil =>
        rintro character ⟨⟩
        decide
    | cons item after =>
        rintro character ⟨⟩
        decide
  have inLineBefore : '\n' ∉ before.flatMap (· ++ [',', ' ']) ++ lead := by
    intro member
    rcases List.mem_append.mp member with inItems | inLead
    · obtain ⟨item, isItem, inside⟩ := List.mem_flatMap.mp inItems
      rcases List.mem_append.mp inside with within | between
      · exact inLine item (List.mem_append_left _ isItem) within
      · exact absurd between (by decide)
    · exact inLine lead (List.mem_append_right _ List.mem_cons_self) inLead
  have inLineAfter : '\n' ∉ after.flatMap ([',', ' '] ++ ·) := by
    intro member
    rcases mem_separated member with between | ⟨item, isItem, within⟩
    · exact absurd between (by decide)
    · exact inLine item (List.mem_append_right _ (List.mem_cons_of_mem _ isItem)) within
  have absentBehind : landmark ∉ late ++ (digits count ++
      (after.flatMap ([',', ' '] ++ ·) ++ ")".toList)) := by
    intro member
    rcases List.mem_append.mp member with inTitle | member
    · exact aside (List.mem_append_left _ inTitle)
    rcases List.mem_append.mp member with inDigits | member
    · exact Text.not_mem_toDigits noDigit _ inDigits
    rcases List.mem_append.mp member with inAfter | isLast
    · rcases mem_separated inAfter with between | ⟨item, isItem, within⟩
      · exact aside (List.mem_append_right _ (List.mem_append_left [')'] between))
      · exact absent item isItem within
    · exact aside (List.mem_append_right _ (List.mem_append_right [',', ' '] isLast))
  rw [line]
  exact readings_reason needs isTitle (digits_ne_nil count) (isDecimalDigit_of_mem_digits count)
    stops ⟨inLineBefore, inLineAfter⟩ absentBehind

theorem not_mem_verdict {reasons : Reasons} (aside : character ∉ "FAILED (, )".toList)
    (absent : ∀ item ∈ reasons.entries, character ∉ item) : character ∉ reasons.verdict := by
  intro member
  rcases List.mem_append.mp member with member | isLast
  · rcases List.mem_append.mp member with isFirst | inside
    · exact aside (List.mem_append_left [',', ' ', ')'] isFirst)
    · rcases mem_intercalate inside with between | ⟨item, isItem, within⟩
      · exact aside (List.mem_append_right "FAILED (".toList (List.mem_append_left [')'] between))
      · exact absent item isItem within
  · exact aside (List.mem_append_right "FAILED (, ".toList isLast)

theorem inLine_entry {title : String} {count : Option Count} (absent : '\n' ∉ title.toList) :
    ∀ item ∈ entry title count, '\n' ∉ item :=
  not_mem_entry (by decide) absent

theorem not_mem_none (title : String) : ∀ item ∈ entry title none, character ∉ item :=
  fun _ member => absurd member List.not_mem_nil

/-- The number of failures is taken from those that were expected, if there were some. -/
theorem tells_failures (reasons : Reasons) :
    Tells (failuresPattern.expression.readings reasons.verdict)
      (reasons.expectedFailures.or reasons.failures) := by
  obtain ⟨failures, errors, skipped, expected, unexpected⟩ := reasons
  cases expected with
  | some count =>
      refine tells_verdict [] "ailures=".toList 'f' (by decide) rfl
        (entry "failures=" failures ++ (entry "errors=" errors ++ entry "skipped=" skipped))
        (entry "unexpected successes=" unexpected) "expected ".toList ?_ ?_ (by decide) (by decide)
        (not_mem_entry (by decide) (by decide))
      · simp only [entries, List.append_assoc]
        rfl
      · simp only [List.forall_mem_append, List.forall_mem_cons]
        exact ⟨⟨inLine_entry (by decide), inLine_entry (by decide), inLine_entry (by decide)⟩,
          by decide, inLine_entry (by decide)⟩
  | none =>
      cases failures with
      | some count =>
          refine tells_verdict [] "ailures=".toList 'f' (by decide) rfl []
            (entry "errors=" errors ++ (entry "skipped=" skipped ++
              entry "unexpected successes=" unexpected)) [] rfl ?_ (by decide) (by decide) ?_
          · simp only [List.nil_append, List.forall_mem_append, List.forall_mem_cons]
            exact ⟨by decide, inLine_entry (by decide), inLine_entry (by decide),
              inLine_entry (by decide)⟩
          · simp only [List.forall_mem_append]
            exact ⟨not_mem_entry (by decide) (by decide), not_mem_entry (by decide) (by decide),
              not_mem_entry (by decide) (by decide)⟩
      | none =>
          refine readings_of_not_mem (by decide : failuresPattern.expression.requires 'f' = true)
            (not_mem_verdict (by decide) ?_)
          simp only [entries, List.forall_mem_append]
          exact ⟨not_mem_none _, not_mem_entry (by decide) (by decide),
            not_mem_entry (by decide) (by decide), not_mem_none _,
            not_mem_entry (by decide) (by decide)⟩

theorem tells_errors (reasons : Reasons) :
    Tells (errorsPattern.expression.readings reasons.verdict) reasons.errors := by
  obtain ⟨failures, errors, skipped, expected, unexpected⟩ := reasons
  cases errors with
  | some count =>
      refine tells_verdict "err".toList "rs=".toList 'o' (by decide) rfl
        (entry "failures=" failures) (entry "skipped=" skipped ++
          (entry "expected failures=" expected ++ entry "unexpected successes=" unexpected)) [] rfl
        ?_ (by decide) (by decide) ?_
      · simp only [List.forall_mem_append, List.forall_mem_cons]
        exact ⟨inLine_entry (by decide), by decide, inLine_entry (by decide),
          inLine_entry (by decide), inLine_entry (by decide)⟩
      · simp only [List.forall_mem_append]
        exact ⟨not_mem_entry (by decide) (by decide), not_mem_entry (by decide) (by decide),
          not_mem_entry (by decide) (by decide)⟩
  | none =>
      refine readings_of_not_mem (by decide : errorsPattern.expression.requires 'o' = true)
        (not_mem_verdict (by decide) ?_)
      simp only [entries, List.forall_mem_append]
      exact ⟨not_mem_entry (by decide) (by decide), not_mem_none _,
        not_mem_entry (by decide) (by decide), not_mem_entry (by decide) (by decide),
        not_mem_entry (by decide) (by decide)⟩

end Reasons

/-! ## Counts -/

theorem inLine_countPattern : countPattern.expression.IsInLine :=
  ⟨by decide, by decide, by decide⟩

theorem inLine_failuresPattern : failuresPattern.expression.IsInLine :=
  ⟨by decide, by decide, by decide⟩

theorem inLine_errorsPattern : errorsPattern.expression.IsInLine :=
  ⟨by decide, by decide, by decide⟩

theorem Tells.numberIn_append {readings : List Reading} {count : Option Count}
    (tells : Tells readings count) (earlier : List Reading) :
    numberIn (earlier ++ readings) = (count.map Fin.val).or (numberIn earlier) := by
  cases count with
  | none =>
      rw [show readings = [] from tells, List.append_nil]
      rfl
  | some count =>
      obtain ⟨reading, isText, rfl⟩ := tells
      exact numberIn_concat earlier isText count.isLt

namespace Summary

variable (summary : Summary) {expression : Expression} {character : Char}

theorem readings_text (inLine : expression.IsInLine) :
    expression.readings summary.text =
      expression.readings summary.firstLine ++ expression.readings summary.verdict := by
  have blank := inLine.readings_line [] summary.verdict
  rw [readings_nil inLine.needs, List.nil_append, List.nil_append] at blank
  rw [text, inLine.readings_line, blank]

theorem not_mem_remark (isUpper : character.isUpper = true) (absent : character ∉ "s in ".toList) :
    character ∉ summary.remark := by
  intro member
  rcases List.mem_append.mp member with member | isLast
  · rcases List.mem_append.mp member with member | inSeconds
    · rcases List.mem_append.mp member with isPlural | inWord
      · split at isPlural
        · exact absent (List.mem_append_left " in ".toList isPlural)
        · cases isPlural
      · exact absent (List.mem_append_right ['s'] inWord)
    · exact Bool.eq_false_iff.mp (summary.isPlain character inSeconds) isUpper
  · exact absent (List.mem_append_left " in ".toList isLast)

theorem not_mem_firstLine (isUpper : character.isUpper = true)
    (noDigit : character.isDigit = false) (absent : character ∉ "Ran  tests in ".toList) :
    character ∉ summary.firstLine := by
  intro member
  rcases List.mem_append.mp member with member | member
  · rcases List.mem_append.mp member with isFirst | inDigits
    · exact absent (List.mem_append_left " tests in ".toList isFirst)
    · exact Text.not_mem_toDigits noDigit _ inDigits
  · rcases List.mem_append.mp member with isLast | inRemark
    · exact absent
        (List.mem_append_right "Ran ".toList (List.mem_append_left "s in ".toList isLast))
    · exact summary.not_mem_remark isUpper
        (fun inWord => absent (List.mem_append_right "Ran  test".toList inWord)) inRemark

theorem not_mem_verdict : 'R' ∉ summary.verdict := by
  rw [verdict]
  split
  · decide
  · refine Reasons.not_mem_verdict (by decide) ?_
    simp only [Reasons.entries, List.forall_mem_append]
    exact ⟨Reasons.not_mem_entry (by decide) (by decide),
      Reasons.not_mem_entry (by decide) (by decide), Reasons.not_mem_entry (by decide) (by decide),
      Reasons.not_mem_entry (by decide) (by decide), Reasons.not_mem_entry (by decide) (by decide)⟩

theorem tells_count :
    Tells (countPattern.expression.readings summary.text) (some summary.count) := by
  have requires : countPattern.expression.requires 'R' = true := by decide
  have stops : ∀ character ∈ (" test".toList ++ summary.remark).head?,
      Text.isDecimalDigit character = false := by
    rintro character ⟨⟩
    decide
  obtain ⟨reading, isText, readings⟩ := readings_numberBetween inLine_countPattern.needs
    (digits_ne_nil summary.count) (isDecimalDigit_of_mem_digits summary.count) stops
  refine ⟨reading, isText, ?_⟩
  rw [readings_text summary inLine_countPattern,
    readings_of_not_mem requires summary.not_mem_verdict, List.append_nil]
  refine readings.trans (congrArg (reading :: ·) ?_)
  exact readings_of_not_mem requires (summary.not_mem_remark (by decide) (by decide))

theorem tells_of_verdict (inLine : expression.IsInLine)
    (requires : expression.requires 'F' = true) (kind : Reasons → Option Count)
    (tells : ∀ reasons : Reasons, Tells (expression.readings reasons.verdict) (kind reasons)) :
    Tells (expression.readings summary.text) (summary.reasons.bind kind) := by
  rw [readings_text summary inLine, readings_of_not_mem requires
    (summary.not_mem_firstLine (by decide) (by decide) (by decide)), List.nil_append, verdict]
  cases summary.reasons with
  | none => exact readings_of_not_mem requires (by decide)
  | some reasons => exact tells reasons

variable {pattern : Pattern} {count : Option Count}

theorem lastNumber_behind (made : pattern = .ofExpression pattern.expression pattern.names)
    (inLine : pattern.expression.IsInLine)
    (tells : Tells (pattern.expression.readings summary.text) count) (earlier : List Char) :
    lastNumber pattern (earlier ++ '\n' :: (summary.text ++ ['\n'])) =
      (count.map Fin.val).or (lastNumber pattern earlier) := by
  rw [lastNumber_eq_numberIn made inLine.isScannable,
    lastNumber_eq_numberIn made inLine.isScannable, inLine.readings_line, inLine.readings_line,
    readings_nil inLine.needs, List.append_nil, tells.numberIn_append]

theorem lastNumber_text (made : pattern = .ofExpression pattern.expression pattern.names)
    (inLine : pattern.expression.IsInLine)
    (tells : Tells (pattern.expression.readings summary.text) count) (ended : Bool) :
    lastNumber pattern (summary.text ++ if ended then ['\n'] else []) = count.map Fin.val := by
  have readings : pattern.expression.readings (summary.text ++ if ended then ['\n'] else []) =
      pattern.expression.readings summary.text := by
    cases ended with
    | false => exact congrArg _ (List.append_nil _)
    | true =>
        change pattern.expression.readings (summary.text ++ ['\n']) = _
        rw [inLine.readings_line, readings_nil inLine.needs, List.append_nil]
  rw [lastNumber_eq_numberIn made inLine.isScannable, readings]
  exact (tells.numberIn_append []).trans (Option.or_none)

end Summary

/-- How many tests there were and how many of them failed, where a summary names so many. -/
def tally (count : Nat) (failures errors : Option Nat) : Nat × Nat :=
  let failed := addCounts (failures.getD 0) (errors.getD 0)
  (if failed ≤ count then count else addCounts count failed, failed)

theorem counts_eq_tally (text : List Char) :
    counts text = tally ((lastNumber countPattern text).getD 0) (lastNumber failuresPattern text)
      (lastNumber errorsPattern text) := by
  simp only [counts, tally, ← Nat.not_lt, ite_not]

/-- The counts of a summary are those of its verdict, but expected failures are taken for the
failures. -/
theorem counts_text (summary : Summary) (ended : Bool) :
    counts (summary.text ++ if ended then ['\n'] else []) =
      tally summary.count
        (summary.number fun reasons => reasons.expectedFailures.or reasons.failures)
        (summary.number Reasons.errors) := by
  rw [counts_eq_tally,
    summary.lastNumber_text rfl inLine_countPattern summary.tells_count,
    summary.lastNumber_text rfl inLine_failuresPattern (summary.tells_of_verdict
      inLine_failuresPattern (by decide) _ Reasons.tells_failures),
    summary.lastNumber_text rfl inLine_errorsPattern (summary.tells_of_verdict
      inLine_errorsPattern (by decide) _ Reasons.tells_errors)]
  rfl

/-- The number of tests is that of the last summary. Failures and errors that it does not name are
those of an earlier one. -/
theorem counts_behind (earlier : List Char) (summary : Summary) :
    counts (earlier ++ '\n' :: (summary.text ++ ['\n'])) =
      tally summary.count
        ((summary.number fun reasons => reasons.expectedFailures.or reasons.failures).or
          (lastNumber failuresPattern earlier))
        ((summary.number Reasons.errors).or (lastNumber errorsPattern earlier)) := by
  rw [counts_eq_tally,
    summary.lastNumber_behind rfl inLine_countPattern summary.tells_count,
    summary.lastNumber_behind rfl inLine_failuresPattern (summary.tells_of_verdict
      inLine_failuresPattern (by decide) _ Reasons.tells_failures),
    summary.lastNumber_behind rfl inLine_errorsPattern (summary.tells_of_verdict
      inLine_errorsPattern (by decide) _ Reasons.tells_errors)]
  rfl

end Grading.Report.PyUnit
