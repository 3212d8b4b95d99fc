import Mathlib.Data.List.Infix
import Grading.Proofs.Attribution

namespace Grading.Report.PyUnit

open Pattern Expression Attempt

/-! A block that does not tell its error gets the message of another one: there is always a next
block whose message is lost to it. -/

variable {line rest late run text : List Char} {other : Bool}

/-! ## Lines -/

theorem suffix_of_line (inLine : '\n' ∉ line) (isSuffix : '\n' :: late <:+ line ++ rest) :
    '\n' :: late <:+ rest := by
  obtain ⟨early, whole⟩ := isSuffix
  obtain ⟨more, -, isRest⟩ := exists_of_append_eq inLine whole.symm
  exact ⟨more, isRest.symm⟩

theorem Introduces.exists_line (introduces : Introduces (line ++ '\n' :: rest) late) :
    ∃ early word blank more, ('.' ∉ early ∧ '\n' ∉ early) ∧ IsErrorWord word ∧
      Text.isBlank blank = true ∧ line = early ++ (word ++ (":".toList ++ more)) ∧
      blank :: late = more ++ '\n' :: rest := by
  obtain ⟨early, word, blank, isEarly, isWord, isBlank, whole⟩ := introduces
  rw [← List.append_assoc word, ← List.append_assoc early] at whole
  obtain ⟨more, isLine, isBehind⟩ :=
    exists_of_append_eq (not_mem_introduction isEarly.2 isWord) whole.symm
  refine ⟨early, word, blank, more, isEarly, isWord, isBlank, ?_, isBehind⟩
  rw [isLine, List.append_assoc, List.append_assoc]

/-- The blank that introduces a message can be the end of the line. -/
theorem Introduces.of_line (introduces : Introduces (line ++ '\n' :: rest) late) :
    late = rest ∨ TellsError line := by
  obtain ⟨early, word, blank, more, isEarly, isWord, isBlank, isLine, isBehind⟩ :=
    introduces.exists_line
  cases more with
  | nil => exact .inl (List.cons.inj isBehind).2
  | cons head more =>
      obtain ⟨rfl, -⟩ := List.cons.inj isBehind
      exact .inr ⟨more, early, word, blank, isEarly, isWord, isBlank, isLine⟩

theorem Introduces.colon_mem (introduces : Introduces (line ++ '\n' :: rest) late) :
    ':' ∈ line := by
  obtain ⟨early, word, blank, more, -, -, -, rfl, -⟩ := introduces.exists_line
  simp

theorem Introduces.suffix (introduces : Introduces text late) : late <:+ text := by
  obtain ⟨early, word, blank, -, -, -, rfl⟩ := introduces
  exact ⟨early ++ (word ++ (":".toList ++ [blank])), by simp⟩

/-! ## The next block -/

def letter (other : Bool) : Char := if other then 'c' else 'b'

def closing : List Char := "AssertionError: 4 != 3".toList ++ (ending '=' ++ ['\n'])

def failure : Exception := ⟨"AssertionError".toList, "4 != 3".toList, by decide⟩

/-- A block that tells its error. -/
def neighbour (other : Bool) : Block where
  isError := false
  name := [letter other]
  case := []
  trace := []
  exception := failure
  mark := '='
  isMark := rfl
  inLine := ⟨by cases other <;> decide, List.forall_mem_nil _⟩

/-- What follows the name of the neighbour up to its last line. -/
def heading : List Char := " ()\n".toList ++ List.replicate 70 '-'

theorem text_neighbour (other : Bool) : (neighbour other).text =
    "FAIL".toList ++ (": ".toList ++ (letter other :: heading ++ '\n' :: closing)) := by
  cases other <;> decide +kernel

/-- The end of a block, and the neighbour behind it. -/
def border (other : Bool) : List Char :=
  '\n' :: (List.replicate 70 '=' ++ '\n' :: (neighbour other).text)

/-- The border up to the last line of the trace of the neighbour. -/
def lead (other : Bool) : List Char :=
  '\n' :: (List.replicate 70 '=' ++ '\n' :: ("FAIL: ".toList ++ letter other :: heading))

theorem border_eq (other : Bool) : border other = lead other ++ '\n' :: closing := by
  simp [border, lead, text_neighbour]

theorem separators_border (other : Bool) :
    ((border other).tails.all fun late => !(decide (72 ≤ late.length) &&
      (late.take 2).all Text.isBlank && ((late.drop 2).take 70).all marks.contains) ||
        late == ending '=' ++ ['\n']) = true := by
  cases other <;> decide +kernel

theorem colons_border (other : Bool) :
    ((border other).tails.all fun late =>
      !(late.take 2 == "r:".toList || late.take 2 == "n:".toList) ||
        late.drop 3 == "4 != 3".toList ++ (ending '=' ++ ['\n'])) = true := by
  cases other <;> decide +kernel

theorem eq_of_separator {first second : Char} (isFirst : Text.isBlank first = true)
    (isSecond : Text.isBlank second = true) (length : run.length = 70) (isRun : IsRun marks run)
    (inside : first :: second :: (run ++ rest) <:+ border other) :
    first :: second :: (run ++ rest) = ending '=' ++ ['\n'] := by
  have check := List.all_eq_true.mp (separators_border other) _ ((List.mem_tails _ _).mpr inside)
  have areMarks : ((run ++ rest).take 70).all marks.contains = true := by
    rw [← length, List.take_left]
    exact List.all_eq_true.mpr isRun
  have enough : 72 ≤ (first :: second :: (run ++ rest)).length := by
    simp only [List.length_cons, List.length_append]
    omega
  have areBlank : ((first :: second :: (run ++ rest)).take 2).all Text.isBlank = true := by
    simp [isFirst, isSecond]
  rw [List.drop_succ_cons, List.drop_succ_cons, List.drop_zero, areMarks, areBlank,
    decide_eq_true enough] at check
  exact eq_of_beq check

theorem eq_of_introduces (introduces : Introduces text late) (inside : text <:+ border other) :
    late = "4 != 3".toList ++ (ending '=' ++ ['\n']) := by
  obtain ⟨early, word, blank, -, isWord, -, rfl⟩ := introduces
  have checks := List.all_eq_true.mp (colons_border other)
  rcases isWord with rfl | rfl
  · have isSuffix : 'r' :: ':' :: blank :: late <:+ border other :=
      .trans ⟨early ++ "Erro".toList, by simp⟩ inside
    exact eq_of_beq (checks ('r' :: ':' :: blank :: late) ((List.mem_tails _ _).mpr isSuffix))
  · have isSuffix : 'n' :: ':' :: blank :: late <:+ border other :=
      .trans ⟨early ++ "Exceptio".toList, by simp⟩ inside
    exact eq_of_beq (checks ('n' :: ':' :: blank :: late) ((List.mem_tails _ _).mpr isSuffix))

/-! ## Messages that are read up to the neighbour -/

theorem tellsError_closing : TellsError "AssertionError: 4 != 3".toList :=
  ⟨"4 != 3".toList, "Assertion".toList, "Error".toList, ' ', by decide, .inl rfl, by decide,
    by decide⟩

theorem isTold_failure : failure.IsTold := by
  refine ⟨fun isTitle => ?_, tellsError_closing⟩
  obtain ⟨head, late, isCons, isLetter⟩ := isTitle.exists_cons
  obtain rfl : 'A' = head := (List.cons.inj isCons).1
  rcases isLetter with isLetter | isLetter <;> cases isLetter

/-- Behind the neighbour nothing is found. -/
theorem readingsAt_lineFeed (before : Option Char) :
    messagePattern.expression.readingsAt before ['\n'] = [] := by
  have other : ¬ IsTitle ([] ++ ['\n']) := fun isTitle => not_isTitle_nil isTitle.of_line
  rw [readingsAt_of_none (matchAt_of_not_isTitle other),
    readingsAt_nil anchored_messagePattern.needs]

variable {outcome later : Pattern.Attempt}

theorem eq_of_prefers_ending (inside : outcome.rest <:+ border other)
    (prefers : Prefers (concatAll endingParts).outcomes outcome later) :
    outcome.rest = ending '=' ++ ['\n'] ∧ later.rest = ['\n'] := by
  rw [Prefers, outcomes_endingParts, List.head?_append, Option.or_eq_some_iff] at prefers
  rcases prefers with isInput | ⟨-, isClosing⟩
  · obtain ⟨opened, reads, -⟩ := exists_of_prefers_input isInput
    have noInput : '>' ∉ border other := by cases other <;> decide +kernel
    have isInside : '>' ∈ outcome.rest := by
      rw [reads.rest]
      exact List.mem_append_left _ (by decide)
    exact absurd (inside.mem isInside) noInput
  · obtain ⟨first, second, run, isFirst, isSecond, length, isRun, isRest⟩ :=
      exists_of_mem_closing (List.mem_of_head? isClosing)
    rw [isRest] at inside ⊢
    have isEnding := eq_of_separator isFirst isSecond length isRun inside
    refine ⟨isEnding, ?_⟩
    have behind := (List.cons.inj (List.cons.inj isEnding).2).2
    exact (List.append_inj behind (length.trans List.length_replicate.symm)).2

theorem messages_of_readings {reading : Reading} {name error : List Char}
    (readings : messagePattern.expression.readingsAt none text = [reading])
    (isName : reading 2 = some name) (isError : reading 4 = some error) :
    messages text = (message? name (Text.trim error)).toList := by
  have isMessage : messageIn reading = message? name (Text.trim error) := by
    rw [messageIn, isName, isError, Option.getD_some, Option.getD_some]
  rw [messages_eq_readings, readings, List.filterMap_cons, isMessage]
  cases message? name (Text.trim error) <;> rfl

/-- A title in front of the neighbour's last line gets its message. -/
theorem exists_messages {kind : List Char} {given : List Char → Prop} (isKind : IsKind kind)
    (spaced : ' ' ∈ run)
    (introduced : ∀ {text late}, Introduces text late → '\n' :: text <:+ run ++ '\n' :: closing →
      given late)
    (inside : ∀ late, given late → late <:+ border other) :
    ∃ name rest error, (run = name ++ ' ' :: rest ∧ ' ' ∉ name) ∧
      given (error ++ (ending '=' ++ ['\n'])) ∧
      messages (kind ++ (": ".toList ++ (run ++ '\n' :: closing))) =
        (message? name (Text.trim error)).toList := by
  have isMark : marks.contains '=' = true := rfl
  obtain ⟨text, isText⟩ : ∃ text, text = kind ++ (": ".toList ++ (run ++ '\n' :: closing)) :=
    ⟨_, rfl⟩
  have isStart : (Attempt.start ⟨none, text, 0⟩).IsAtLineStart := rfl
  have filled := message_ne_nil isMark tellsError_closing isKind spaced isStart isText
  obtain ⟨later, others, isFirst⟩ := List.exists_cons_of_ne_nil filled
  have prefers := List.head?_eq_some_iff.mpr ⟨others, isFirst⟩
  obtain ⟨name, rest, told, error, late, place, isName, named, introduces, isSuffix, isError, -,
      isPlace⟩ :=
    exists_of_prefers_message isMark tellsError_closing isKind spaced (standsIn_start none text)
      isText prefers
  have isGiven := introduced introduces isSuffix
  obtain ⟨isEnd, isBehind⟩ :=
    eq_of_prefers_ending ((List.suffix_append error _).trans (inside _ isGiven)) isPlace
  have isFound : messagePattern.expression.matchAt? ⟨none, text, 0⟩ =
      some ⟨0, later.cursor, later.marks⟩ := by
    rw [matchAt?, prefers]
    rfl
  have readings := readingsAt_of_some anchored_messagePattern.needs isFound
  rw [show later.cursor.rest = ['\n'] from isBehind, readingsAt_lineFeed] at readings
  refine ⟨name, rest, error, isName, isEnd ▸ isGiven, isText ▸ ?_⟩
  exact messages_of_readings readings (named.reading (by decide) 0) (isError.reading (by decide) 0)

theorem eq_of_blank {first second name : List Char} (inFirst : ' ' ∉ first) (inName : ' ' ∉ name)
    (whole : first ++ ' ' :: second = name ++ ' ' :: rest) : name = first := by
  obtain ⟨more, isName, isBehind⟩ := exists_of_append_eq inFirst whole
  cases more with
  | nil => rw [isName, List.append_nil]
  | cons head more =>
      obtain ⟨rfl, -⟩ := List.cons.inj isBehind
      exact absurd (isName ▸ List.mem_append_right first List.mem_cons_self) inName

theorem message_suffix_border (other : Bool) :
    "4 != 3".toList ++ (ending '=' ++ ['\n']) <:+ border other := by
  cases other <;> decide +kernel

/-- The message is known if only lines of the neighbour can introduce it. -/
theorem exists_messages_border {kind : List Char} (isKind : IsKind kind) (spaced : ' ' ∈ run)
    (inside : ∀ {text}, '\n' :: text <:+ run ++ '\n' :: closing → text <:+ border other) :
    ∃ name rest, (run = name ++ ' ' :: rest ∧ ' ' ∉ name) ∧
      messages (kind ++ (": ".toList ++ (run ++ '\n' :: closing))) =
        (message? name "4 != 3".toList).toList := by
  have isSuffix : ∀ late, late = "4 != 3".toList ++ (ending '=' ++ ['\n']) →
      late <:+ border other := fun _ isLate => isLate ▸ message_suffix_border other
  obtain ⟨name, rest, error, isName, isError, isMessage⟩ := exists_messages isKind spaced
    (fun introduces isSuffix => eq_of_introduces introduces (inside isSuffix)) isSuffix
  rw [List.append_cancel_right isError] at isMessage
  exact ⟨name, rest, isName, isMessage⟩

/-! ## Whole reports -/

theorem suffix_of_cons {first second : Char} (isSuffix : first :: late <:+ second :: rest) :
    late <:+ rest := by
  rcases List.suffix_cons_iff.mp isSuffix with same | isSuffix
  · exact (List.cons.inj same).2 ▸ List.suffix_refl _
  · exact (List.suffix_cons first late).trans isSuffix

theorem messages_neighbour (other : Bool) :
    messages (neighbour other).text = [String.ofList (letter other :: ": 4 != 3".toList)] := by
  have noBlank : ' ' ∉ [letter other] := by cases other <;> decide
  have spaced : ' ' ∈ letter other :: heading := by simp [heading]
  have inside : ∀ {text}, '\n' :: text <:+ letter other :: heading ++ '\n' :: closing →
      text <:+ border other := by
    intro text isSuffix
    refine (List.suffix_cons _ _).trans (isSuffix.trans ?_)
    rw [border_eq]
    exact ⟨'\n' :: (List.replicate 70 '=' ++ '\n' :: "FAIL: ".toList), by simp [lead]⟩
  obtain ⟨name, rest, ⟨isRun, inName⟩, isMessage⟩ :=
    exists_messages_border (.inr rfl) spaced inside
  have isName : name = [letter other] := eq_of_blank noBlank inName isRun
  rw [text_neighbour, isMessage, isName]
  cases other <;> rfl

theorem eq_of_message? {name error : List Char} {message : String}
    (isMessage : message? name error = some message) :
    message.toList = error ∧ name = namelessTest ∨
      message.toList = name ++ ':' :: ' ' :: error := by
  rw [message?] at isMessage
  split at isMessage
  · cases isMessage
  · split at isMessage
    · rename_i isNameless
      cases isMessage
      exact .inl ⟨String.toList_ofList, isNameless⟩
    · cases isMessage
      exact .inr String.toList_ofList

theorem concat_ne {texts others : List String} {message other : String}
    (different : message.toList ≠ other.toList) : texts ++ [message] ≠ others ++ [other] := by
  intro same
  obtain rfl := List.singleton_inj.mp (List.append_inj' same rfl).2
  exact different rfl

/-- A block whose error is not told need not have a trace. -/
def Block.short (exception : Exception) : Block where
  isError := true
  name := ['a']
  case := []
  trace := []
  exception := exception
  mark := '='
  isMark := rfl
  inLine := ⟨by decide, List.forall_mem_nil _⟩

/-- An exception that does not tell its error gets the message of the next block. -/
theorem messages_short {exception : Exception} (untold : ¬ TellsError exception.line) :
    messages ((Block.short exception).text ++ (neighbour false).text) ≠
      messages (Block.short exception).text ++ messages (neighbour false).text := by
  obtain ⟨run, isRun⟩ : ∃ run, run = 'a' :: heading ++ '\n' :: (exception.line ++
    '\n' :: lead false) := ⟨_, rfl⟩
  have whole : (Block.short exception).text ++ (neighbour false).text =
      "ERROR".toList ++ (": ".toList ++ (run ++ '\n' :: closing)) := by
    rw [isRun, Block.text_eq, text_neighbour]
    simp [Block.short, Block.body, Block.opening, Block.title, Block.kind, heading, lead, ending]
  have isRest : run ++ '\n' :: closing = "a ()".toList ++ '\n' :: (List.replicate 70 '-' ++
      '\n' :: (exception.line ++ '\n' :: border false)) := by
    simp [isRun, heading, border_eq]
  have introduced : ∀ {text late}, Introduces text late →
      '\n' :: text <:+ run ++ '\n' :: closing → late <:+ border false := by
    intro text late introduces isSuffix
    rw [isRest] at isSuffix
    -- The message is not introduced by the dashes, and not by the line behind them.
    rcases List.suffix_cons_iff.mp (suffix_of_line (by decide) isSuffix) with same | isSuffix
    · rw [(List.cons.inj same).2] at introduces
      exact absurd introduces.colon_mem (by decide)
    · rcases List.suffix_cons_iff.mp (suffix_of_line (by decide) isSuffix) with same | isSuffix
      · rw [(List.cons.inj same).2] at introduces
        exact (introduces.of_line.resolve_right untold) ▸ List.suffix_refl _
      · have inLine := (Block.short exception).inLine_line
        exact introduces.suffix.trans (suffix_of_cons (suffix_of_line inLine isSuffix))
  have spaced : ' ' ∈ run := by simp [isRun, heading]
  obtain ⟨name, rest, error, ⟨isName, inName⟩, -, isMessage⟩ :=
    exists_messages (.inl rfl) spaced introduced fun _ inside => inside
  have isLetter : name = ['a'] := eq_of_blank (by decide) inName (isRun.symm.trans isName)
  rw [whole, isMessage, messages_neighbour, isLetter]
  cases found : message? ['a'] (Text.trim error) with
  | none => exact (List.append_ne_nil_of_right_ne_nil _ (List.cons_ne_nil _ _)).symm
  | some message =>
      have different : message.toList ≠
          (String.ofList (letter false :: ": 4 != 3".toList)).toList := by
        rcases eq_of_message? found with ⟨-, isNameless⟩ | isText
        · exact absurd isNameless (by decide)
        · rw [isText, String.toList_ofList]
          exact fun same => absurd (List.cons.inj same).1 (by decide)
      exact (concat_ne different : [] ++ [message] ≠ _)

/-- A block in which another error comes before the last one. -/
def Block.interrupted (exception : Exception) : Block where
  isError := true
  name := ['a']
  case := []
  trace := [failure.line, [], List.replicate 70 '=']
  exception := exception
  mark := '='
  isMark := rfl
  inLine := ⟨by decide, by decide⟩

theorem hasOneTitle_interrupted (exception : Exception) :
    (Block.interrupted exception).HasOneTitle := by
  intro line member
  simp only [Block.interrupted, List.mem_cons, List.not_mem_nil, or_false] at member
  rcases member with rfl | rfl | rfl
  · exact isTold_failure.1
  · exact not_isTitle_nil
  · exact not_isTitle_marks rfl

theorem text_interrupted (exception : Exception) : (Block.interrupted exception).text =
    (Block.short failure).text ++ (exception.line ++ (ending '=' ++ ['\n'])) := by
  simp only [Block.text_eq, Block.interrupted, Block.short, Block.body, Block.opening, Block.title,
    Block.kind, ending, List.flatMap_cons, List.flatMap_nil, List.append_assoc, List.cons_append,
    List.nil_append, List.append_nil]

theorem exists_letter (text : List Char) : ∃ other, some (letter other) ≠ text.head? := by
  by_cases isFirst : some (letter false) = text.head?
  · exact ⟨true, isFirst ▸ by decide⟩
  · exact ⟨false, isFirst⟩

/-- An exception whose line is a title gets the message of the next block. -/
theorem messages_interrupted {exception : Exception} (isTitle : IsTitle exception.line) :
    ∃ other, messages ((Block.interrupted exception).text ++ (neighbour other).text) ≠
      messages (Block.interrupted exception).text ++ messages (neighbour other).text := by
  obtain ⟨kind, more, isKind, isLine⟩ := isTitle
  obtain ⟨other, isOther⟩ := exists_letter more
  refine ⟨other, ?_⟩
  have whole : (Block.interrupted exception).text ++ (neighbour other).text =
      (Block.short failure).text ++
        (kind ++ (": ".toList ++ ((more ++ '\n' :: lead other) ++ '\n' :: closing))) := by
    have isBorder : ending '=' ++ ['\n'] ++ (neighbour other).text = '\n' :: border other := rfl
    rw [text_interrupted, List.append_assoc, List.append_assoc exception.line, isBorder, border_eq,
      isLine]
    simp only [List.append_assoc, List.cons_append]
  have inLine : '\n' ∉ more := fun member => (Block.interrupted exception).inLine_line
    (isLine ▸ List.mem_append_right _ (List.mem_append_right _ member))
  have inside : ∀ {text}, '\n' :: text <:+ (more ++ '\n' :: lead other) ++ '\n' :: closing →
      text <:+ border other := by
    intro text isSuffix
    rw [List.append_assoc, List.cons_append, ← border_eq] at isSuffix
    exact suffix_of_cons (suffix_of_line inLine isSuffix)
  have spaced : ' ' ∈ more ++ '\n' :: lead other := by simp [lead, heading]
  obtain ⟨name, rest, ⟨isName, -⟩, isMessage⟩ := exists_messages_border isKind spaced inside
  have isTold : (Block.short failure).IsTold := ⟨List.forall_mem_nil _, isTold_failure⟩
  rw [whole, (Block.short failure).messages_append isTold, isMessage, messages_neighbour]
  cases found : message? name "4 != 3".toList with
  | none =>
      rw [message?, if_neg (by decide)] at found
      split at found <;> cases found
  | some message =>
      refine concat_ne ?_
      rw [String.toList_ofList]
      rcases eq_of_message? found with ⟨isText, -⟩ | isText
      · rw [isText]
        cases other <;> decide
      · intro same
        have isLetter : name = [letter other] :=
          List.append_cancel_right (isText.symm.trans same : _ = [letter other] ++ _)
        rw [isLetter] at isName
        cases more with
        | nil =>
            have isBreak : '\n' = letter other := (List.cons.inj isName).1
            cases other <;> exact absurd isBreak (by decide)
        | cons head more => exact isOther (congrArg some (List.cons.inj isName).1.symm)

/-! ## Whole reports -/

/-- The messages of a report are those of its blocks if each of them tells its error, and one that
does not can get the message of the next one. -/
theorem messages_by_block (blocks : List Block) :
    ((∀ block ∈ blocks, block.IsTold) →
      messages (blocks.flatMap Block.text) = blocks.flatMap fun block => messages block.text) ∧
    ∀ block ∈ blocks, ¬ block.exception.IsTold → ∃ first second : Block,
      first.exception = block.exception ∧ first.HasOneTitle ∧ second.IsTold ∧
        messages (first.text ++ second.text) ≠ messages first.text ++ messages second.text := by
  refine ⟨messages_blocks, fun block _ untold => ?_⟩
  have nothing : ∀ line ∈ ([] : List (List Char)), ¬ IsTitle line := List.forall_mem_nil _
  by_cases isTitle : IsTitle block.exception.line
  · obtain ⟨other, differs⟩ := messages_interrupted isTitle
    exact ⟨.interrupted block.exception, neighbour other, rfl, hasOneTitle_interrupted _,
      ⟨nothing, isTold_failure⟩, differs⟩
  · have differs := messages_short fun tells => untold ⟨isTitle, tells⟩
    exact ⟨.short block.exception, neighbour false, rfl, nothing, ⟨nothing, isTold_failure⟩,
      differs⟩

end Grading.Report.PyUnit
