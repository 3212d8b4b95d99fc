import Grading.Proofs.Anchoring
import Grading.Report.PyUnit

namespace Grading.Report.PyUnit

open Pattern Expression Attempt

/-! How far the match of a message goes. It begins at the title of a failed test, and goes on no
further than to the first line that tells an error and to the first separator behind it. -/

/-! ## Parts of messages -/

def IsKind (text : List Char) : Prop := text = "ERROR".toList ∨ text = "FAIL".toList

/-- Whether a text begins like the title of a failed test. -/
def IsTitle (text : List Char) : Prop :=
  ∃ kind rest, IsKind kind ∧ text = kind ++ (": ".toList ++ rest)

def IsErrorWord (text : List Char) : Prop := text = "Error".toList ∨ text = "Exception".toList

/-- Whether a text begins with the type of an error, without points, a colon and a blank, and this
is the rest. -/
def Introduces (text late : List Char) : Prop :=
  ∃ early word blank, ('.' ∉ early ∧ '\n' ∉ early) ∧ IsErrorWord word ∧
    Text.isBlank blank = true ∧ text = early ++ (word ++ (":".toList ++ ([blank] ++ late)))

def TellsError (text : List Char) : Prop := ∃ late, Introduces text late

def marks : CharSet := .union (.single '-') (.single '=')

/-- An empty line behind the last one, and a separator. -/
def ending (mark : Char) : List Char := '\n' :: '\n' :: List.replicate 70 mark

theorem isRun_anything (run : List Char) : IsRun .anything run := fun _ _ => rfl

theorem isMetBy_anything : (few .anything).IsMetBy (IsRun .anything) :=
  (isMetBy_one _).anyNumber false

theorem isMetBy_kind :
    (Expression.group 1 (.either (Report.literal "ERROR") (Report.literal "FAIL"))).IsMetBy
      IsKind :=
  ((isMetBy_literal _).either (isMetBy_literal _)).group 1

theorem isMetBy_errorWord :
    (Expression.group 3 (.either (Report.literal "Error") (Report.literal "Exception"))).IsMetBy
      IsErrorWord :=
  ((isMetBy_literal _).either (isMetBy_literal _)).group 3

def plain : CharSet := .complement (.union (.single '.') (.single '\n'))

theorem isMetBy_plain : (few plain).IsMetBy fun run => '.' ∉ run ∧ '\n' ∉ run := by
  have contains : ∀ character, plain.contains character = true ↔
      character ≠ '.' ∧ character ≠ '\n' := by
    intro character
    rw [plain, CharSet.contains_complement, Bool.not_eq_true', ← Bool.not_eq_true,
      CharSet.contains, Bool.or_eq_true, CharSet.contains_single, CharSet.contains_single, not_or]
  refine ((isMetBy_one plain).anyNumber false).congr fun run => ⟨fun isRun => ⟨?_, ?_⟩, ?_⟩
  · exact fun member => ((contains _).mp (isRun _ member)).1 rfl
  · exact fun member => ((contains _).mp (isRun _ member)).2 rfl
  · rintro ⟨noPoint, inLine⟩ character member
    exact (contains _).mpr ⟨fun same => noPoint (same ▸ member), fun same => inLine (same ▸ member)⟩

theorem isMetBy_anyOne : anyOne.IsMetBy (IsOne .anything) := by
  refine (((isMetBy_one .blank).either (isMetBy_one (.complement .blank))).group 5).congr
    fun run => ⟨?_, ?_⟩
  · rintro (⟨character, -, isRun⟩ | ⟨character, -, isRun⟩) <;> exact ⟨character, rfl, isRun⟩
  · rintro ⟨character, -, isRun⟩
    cases isBlank : CharSet.blank.contains character with
    | true => exact .inl ⟨character, isBlank, isRun⟩
    | false =>
        exact .inr ⟨character, by rw [CharSet.contains_complement, isBlank]; rfl, isRun⟩

theorem isMetBy_separator : separator.IsMetBy fun run => run.length = 70 ∧ IsRun marks run := by
  have met : (Expression.group 7 (.either (Report.literal "-") (Report.literal "="))).IsMetBy
      (IsOne marks) := by
    refine (((isMetBy_literal "-").either (isMetBy_literal "=")).group 7).congr
      fun run => ⟨?_, ?_⟩
    · rintro (rfl | rfl)
      · exact ⟨'-', rfl, rfl⟩
      · exact ⟨'=', rfl, rfl⟩
    · rintro ⟨character, accepts, rfl⟩
      rcases Bool.or_eq_true_iff.mp accepts with isMark | isMark
      · exact .inl (congrArg (fun mark => [mark]) ((CharSet.contains_single _ _).mp isMark))
      · exact .inr (congrArg (fun mark => [mark]) ((CharSet.contains_single _ _).mp isMark))
  exact met.exactly 70 true

def closingParts : List Expression := [.one .blank, .one .blank, separator]

/-- The pattern behind a message. -/
def endingParts : List Expression := session :: closingParts

def errorParts : List Expression := .group 4 (.loop anyOne 0 none false) :: endingParts

/-- The pattern from the end of the type of the error on. -/
def wordParts : List Expression :=
  .group 3 (.either (Report.literal "Error") (Report.literal "Exception")) ::
    Report.literal ":" :: .one .blank :: errorParts

/-- The pattern from a line that tells the error on. -/
def tellingParts : List Expression := few plain :: wordParts

/-- The pattern behind the name of the test. -/
def traceParts : List Expression :=
  Report.literal " " :: few .anything :: .condition (.lineStart false) :: tellingParts

theorem expression_messagePattern : messagePattern.expression =
    concatAll (.condition (.lineStart false) ::
      .group 1 (.either (Report.literal "ERROR") (Report.literal "FAIL")) ::
        Report.literal ": " :: .group 2 (few .anything) :: traceParts) := rfl

theorem anchored_messagePattern : messagePattern.expression.IsAnchored where
  productive := by decide
  needs := by decide
  begins := by decide
  lines := by decide

variable {outcome later : Pattern.Attempt} {mark : Char} {run behind line : List Char}

/-! ## Where the parts can be met -/

theorem closing_ne_nil (isMark : marks.contains mark = true)
    (here : outcome.rest = ending mark ++ behind) :
    (concatAll closingParts).outcomes outcome ≠ [] := by
  refine (isMetBy_one _).cons_ne_nil ⟨'\n', rfl, rfl⟩ here fun middle first => ?_
  have afterFirst := first.remains here
  refine (isMetBy_one _).cons_ne_nil ⟨'\n', rfl, rfl⟩ afterFirst fun later second => ?_
  have afterSecond := second.remains afterFirst
  refine isMetBy_separator.cons_ne_nil ⟨List.length_replicate, fun character member => ?_⟩
    afterSecond fun _ _ => List.cons_ne_nil _ _
  rwa [List.eq_of_mem_replicate member]

/-- Input of a session. -/
def input : Expression := .group 6 (.concatAll [Report.literal ">>>", few (allBut '>')])

/-- Input comes before the end, if there is any. -/
theorem outcomes_endingParts (outcome : Pattern.Attempt) :
    (concatAll endingParts).outcomes outcome =
      (input.outcomes outcome).flatMap (concatAll endingParts).outcomes ++
        (concatAll closingParts).outcomes outcome := by
  have same : (concatAll endingParts).outcomes = fun outcome =>
      (session.outcomes outcome).flatMap (concatAll closingParts).outcomes :=
    outcomes_concatAll_cons session closingParts
  have rounds : session.outcomes outcome =
      (input.outcomes outcome).flatMap session.outcomes ++ [outcome] :=
    outcomes_greedy (takes_outcomes rfl) outcome
  simp only [same, rounds, List.flatMap_append, List.flatMap_singleton, List.flatMap_assoc]

theorem ending_ne_nil (isMark : marks.contains mark = true)
    (here : outcome.rest = ending mark ++ behind) :
    (concatAll endingParts).outcomes outcome ≠ [] := by
  rw [outcomes_endingParts]
  exact List.append_ne_nil_of_right_ne_nil _ (closing_ne_nil isMark here)

theorem error_ne_nil (isMark : marks.contains mark = true)
    (here : outcome.rest = run ++ (ending mark ++ behind)) :
    (concatAll errorParts).outcomes outcome ≠ [] := by
  refine ((isMetBy_anyOne.anyNumber false).group 4).cons_ne_nil (isRun_anything run) here
    fun middle reads => ?_
  exact ending_ne_nil isMark (reads.remains here)

theorem word_ne_nil (isMark : marks.contains mark = true) {word late : List Char} {blank : Char}
    (isWord : IsErrorWord word) (isBlank : Text.isBlank blank = true)
    (here : outcome.rest = word ++ (":".toList ++ ([blank] ++ (late ++ (ending mark ++ behind))))) :
    (concatAll wordParts).outcomes outcome ≠ [] := by
  refine isMetBy_errorWord.cons_ne_nil isWord here fun _ first => ?_
  have afterFirst := first.remains here
  refine (isMetBy_literal ":").cons_ne_nil rfl afterFirst fun _ second => ?_
  have afterSecond := second.remains afterFirst
  refine (isMetBy_one .blank).cons_ne_nil ⟨blank, isBlank, rfl⟩ afterSecond fun _ third => ?_
  exact error_ne_nil isMark (third.remains afterSecond)

theorem telling_ne_nil (isMark : marks.contains mark = true) (tells : TellsError line)
    (here : outcome.rest = line ++ (ending mark ++ behind)) :
    (concatAll tellingParts).outcomes outcome ≠ [] := by
  obtain ⟨late, early, word, blank, isPlain, isWord, isBlank, rfl⟩ := tells
  simp only [List.append_assoc] at here
  refine isMetBy_plain.cons_ne_nil isPlain here fun _ first => ?_
  exact word_ne_nil isMark isWord isBlank (first.remains here)

theorem lineStart_ne_nil (isMark : marks.contains mark = true) (tells : TellsError line)
    (here : outcome.rest = (run ++ ['\n']) ++ (line ++ (ending mark ++ behind)))
    {place : Pattern.Attempt} (reads : Reads (run ++ ['\n']) outcome place) :
    (concatAll (.condition (.lineStart false) :: tellingParts)).outcomes place ≠ [] := by
  have isStart : place.IsAtLineStart := by
    rw [IsAtLineStart, reads.before, List.getLast?_concat]
    rfl
  refine cons_condition_ne_nil isStart ?_
  exact telling_ne_nil isMark tells (reads.remains here)

theorem trace_ne_nil (isMark : marks.contains mark = true) (tells : TellsError line)
    (here : outcome.rest = " ".toList ++ ((run ++ ['\n']) ++ (line ++ (ending mark ++ behind)))) :
    (concatAll traceParts).outcomes outcome ≠ [] := by
  refine (isMetBy_literal " ").cons_ne_nil rfl here fun _ first => ?_
  have afterFirst := first.remains here
  exact isMetBy_anything.cons_ne_nil (isRun_anything _) afterFirst fun _ second =>
    lineStart_ne_nil isMark tells afterFirst second

/-! ## Where a match goes on -/

theorem exists_of_mem_closing (member : later ∈ (concatAll closingParts).outcomes outcome) :
    ∃ first second run, Text.isBlank first = true ∧ Text.isBlank second = true ∧
      run.length = 70 ∧ IsRun marks run ∧
      outcome.rest = first :: second :: (run ++ later.rest) := by
  obtain ⟨_, _, ⟨first, isFirst, rfl⟩, reads, member⟩ := (isMetBy_one .blank).of_mem_cons member
  obtain ⟨_, _, ⟨second, isSecond, rfl⟩, others, member⟩ := (isMetBy_one .blank).of_mem_cons member
  obtain ⟨run, ⟨length, isRun⟩, last⟩ := isMetBy_separator.kind_of_mem member
  refine ⟨first, second, run, isFirst, isSecond, length, isRun, ?_⟩
  rw [reads.rest, others.rest, last.rest]
  rfl

/-- What goes on with input goes on with its mark, and with characters up to another mark. -/
theorem exists_of_prefers_input {next : Pattern.Attempt → List Pattern.Attempt}
    (isFirst : ((input.outcomes outcome).flatMap next).head? = some later) :
    ∃ opened, Reads ">>>".toList outcome opened ∧
      Prefers (fun opened => ((few (allBut '>')).outcomes opened).flatMap fun closed =>
        next (closed.mark (2 * 6 + 1))) opened later := by
  have grouped : (input.outcomes outcome).flatMap next =
      ((Report.literal ">>>").outcomes (outcome.mark (2 * 6))).flatMap fun opened =>
        ((few (allBut '>')).outcomes opened).flatMap fun closed =>
          next (closed.mark (2 * 6 + 1)) := by
    have isInput : input =
        .group 6 (.concat (Report.literal ">>>") (few (allBut '>'))) := rfl
    rw [isInput, outcomes, outcomes, List.flatMap_map, List.flatMap_assoc]
  rw [grouped] at isFirst
  obtain ⟨opened, isOpened, isLater⟩ := exists_of_head?_flatMap isFirst
  obtain ⟨_, rfl, reads⟩ := (isMetBy_literal ">>>").kind_of_mem isOpened
  exact ⟨opened, reads.of_mark, isLater⟩

/-- The end takes nothing of what follows the first separator. -/
theorem length_le_of_prefers_ending (isMark : marks.contains mark = true)
    (here : outcome.rest = run ++ (ending mark ++ behind))
    (prefers : Prefers (concatAll endingParts).outcomes outcome later) :
    behind.length ≤ later.rest.length := by
  induction size : run.length using Nat.strongRecOn generalizing outcome run with
  | ind length induction =>
      rw [Prefers, outcomes_endingParts, List.head?_append, Option.or_eq_some_iff] at prefers
      rcases prefers with isInput | ⟨-, isClosing⟩
      · obtain ⟨opened, isOpened, goesOn⟩ := exists_of_prefers_input isInput
        -- No input begins in the separator.
        have noBreak : '\n' ∉ ">>>".toList := by decide
        obtain ⟨more, isRun, remains⟩ :=
          exists_of_append_eq noBreak (isOpened.rest.symm.trans here)
        have shorter : more.length < run.length := by
          rw [isRun, List.length_append]
          exact Nat.lt_add_of_pos_left (by decide)
        suffices ends : ∃ late place, late.length ≤ more.length ∧
            place.rest = late ++ (ending mark ++ behind) ∧
            Prefers (concatAll endingParts).outcomes place later by
          obtain ⟨late, place, notLonger, isPlace, isLater⟩ := ends
          exact induction _ (size ▸ Nat.lt_of_le_of_lt notLonger shorter) isPlace isLater rfl
        by_cases another : '>' ∈ more
        · obtain ⟨closed, isClosed, isLater⟩ := exists_of_head?_flatMap goesOn
          obtain ⟨early, noMark, reads⟩ := isMetBy_few.kind_of_mem isClosed
          obtain ⟨first, second, rfl⟩ := List.append_of_mem another
          rw [reads.rest, List.append_assoc, List.cons_append] at remains
          obtain ⟨late, rfl, isRest⟩ := exists_of_append_eq noMark remains
          refine ⟨late ++ '>' :: second, closed.mark (2 * 6 + 1), ?_, isRest.trans ?_, isLater⟩
          · simp only [List.length_append]
            omega
          · rw [List.append_assoc]
            rfl
        · have fits : ∀ closed, Reads more opened closed →
              (concatAll endingParts).outcomes (closed.mark (2 * 6 + 1)) ≠ [] := fun _ reads =>
            ending_ne_nil isMark (reads.remains remains)
          obtain ⟨early, late, rfl, closed, -, -, isClosed, isLater⟩ :=
            exists_of_prefers_reluctant (isMetBy_one (allBut '>')) remains fits goesOn
          refine ⟨late, closed.mark (2 * 6 + 1), ?_, isClosed, isLater⟩
          rw [List.length_append]
          exact Nat.le_add_left _ _
      · obtain ⟨first, second, closing, -, -, length, -, isRest⟩ :=
          exists_of_mem_closing (List.mem_of_head? isClosing)
        have lengths := congrArg List.length (here.symm.trans isRest)
        simp only [ending, List.length_append, List.length_cons, List.length_replicate] at lengths
        omega

/-- What is taken for the type of an error has no blank in it, up to its colon. -/
theorem not_isBlank_of_mem_word {word : List Char} (isWord : IsErrorWord word) :
    ∀ character ∈ word ++ ":".toList, Text.isBlank character = false := by
  have visible : (word ++ ":".toList).all (!Text.isBlank ·) = true := by
    rcases isWord with rfl | rfl <;> decide
  exact fun character member => Bool.not_inj (List.all_eq_true.mp visible character member)

theorem not_mem_introduction {early word : List Char} (inLine : '\n' ∉ early)
    (isWord : IsErrorWord word) : '\n' ∉ early ++ (word ++ ":".toList) := fun member =>
  (List.mem_append.mp member).elim inLine fun member =>
    absurd (not_isBlank_of_mem_word isWord '\n' member) (by decide)

/-- The blank behind the type of the error is in the line that tells it, or before that line. -/
theorem exists_of_append_eq_line {early word first name rest late : List Char} {blank gap : Char}
    (inLine : '\n' ∉ early) (isWord : IsErrorWord word) (isGap : Text.isBlank gap = true)
    (starts : run = [] ∨ '\n' ∈ run) (isFirst : run = [] → early <+: first)
    (whole : (early ++ (word ++ ":".toList)) ++ blank :: late =
      (run ++ (first ++ (name ++ (":".toList ++ ([gap] ++ rest))))) ++ '\n' :: behind) :
    ∃ more, late = more ++ '\n' :: behind := by
  have noBreak := not_mem_introduction inLine isWord
  obtain ⟨more, isRun, isBehind⟩ := exists_of_append_eq noBreak whole
  cases more with
  | cons head more => exact ⟨more, (List.cons.inj isBehind).2⟩
  | nil =>
      rw [List.append_nil] at isRun
      have nothing : run = [] := starts.resolve_right fun broken =>
        noBreak (isRun ▸ List.mem_append_left _ broken)
      obtain ⟨between, rfl⟩ := isFirst nothing
      rw [nothing, List.nil_append, List.append_assoc] at isRun
      have isInside : gap ∈ word ++ ":".toList := by
        rw [← List.append_cancel_left isRun]
        simp
      rw [not_isBlank_of_mem_word isWord gap isInside] at isGap
      cases isGap

/-- The message begins within the first line that tells an error, or before it. -/
theorem exists_of_prefers_telling (isMark : marks.contains mark = true) (tells : TellsError line)
    (here : outcome.rest = run ++ (line ++ (ending mark ++ behind)))
    (starts : run = [] ∨ '\n' ∈ run)
    (prefers : Prefers (concatAll tellingParts).outcomes outcome later) :
    ∃ taken late place, Reads taken outcome place ∧ Introduces outcome.rest place.rest ∧
      place.rest = late ++ (ending mark ++ behind) ∧
      Prefers (concatAll errorParts).outcomes place later := by
  obtain ⟨rest, first, name, gap, isPlain, isName, isGap, rfl⟩ := tells
  have opens : ∃ early middle, ('.' ∉ early ∧ '\n' ∉ early) ∧ Reads early outcome middle ∧
      Prefers (concatAll wordParts).outcomes middle later ∧ (run = [] → early <+: first) := by
    rcases starts with rfl | broken
    · simp only [List.nil_append, List.append_assoc] at here
      obtain ⟨early, late, middle, rfl, reads, -, isLater⟩ := exists_of_prefers_cons_reluctant
        (isMetBy_one plain) here (fun _ reads => word_ne_nil isMark isName isGap
          (reads.remains here)) prefers
      exact ⟨early, middle, ⟨mt (List.mem_append_left late) isPlain.1,
        mt (List.mem_append_left late) isPlain.2⟩, reads, isLater,
        fun _ => List.prefix_append early late⟩
    · obtain ⟨early, middle, isEarly, reads, isLater⟩ := isMetBy_plain.of_prefers_cons prefers
      exact ⟨early, middle, isEarly, reads, isLater,
        fun nothing => absurd (nothing ▸ broken) List.not_mem_nil⟩
  obtain ⟨early, middle, isEarly, opened, prefers, isFirst⟩ := opens
  obtain ⟨word, _, isWord, named, prefers⟩ := isMetBy_errorWord.of_prefers_cons prefers
  obtain ⟨_, _, rfl, isColon, prefers⟩ := (isMetBy_literal ":").of_prefers_cons prefers
  obtain ⟨_, place, ⟨blank, isBlank, rfl⟩, isOver, prefers⟩ :=
    (isMetBy_one .blank).of_prefers_cons prefers
  have reads := opened.trans (named.trans (isColon.trans isOver))
  have isText : outcome.rest = early ++ (word ++ (":".toList ++ ([blank] ++ place.rest))) := by
    simpa only [List.append_assoc] using reads.rest
  have whole := isText.symm.trans here
  rw [← List.append_assoc word, ← List.append_assoc early, ← List.append_assoc run] at whole
  obtain ⟨late, isLate⟩ :=
    exists_of_append_eq_line isEarly.2 isWord isGap starts isFirst whole
  exact ⟨_, late, place, reads, ⟨early, word, blank, isEarly, isWord, isBlank, isText⟩, isLate,
    prefers⟩

/-- The message ends at the first separator or before it. -/
theorem exists_of_prefers_error {text : List Char} (isMark : marks.contains mark = true)
    (stands : outcome.StandsIn text) (here : outcome.rest = run ++ (ending mark ++ behind))
    (prefers : Prefers (concatAll errorParts).outcomes outcome later) :
    ∃ error late place, run = error ++ late ∧ Reads error outcome place ∧
      place.rest = late ++ (ending mark ++ behind) ∧ later.Remembers text 4 error ∧
      Prefers (concatAll endingParts).outcomes place later := by
  obtain ⟨error, late, place, whole, reads, isPlace, remembers, prefers⟩ :=
    exists_of_prefers_cons_reluctant_group isMetBy_anyOne rfl stands here
      (fun _ reads => ending_ne_nil isMark (reads.remains here))
      prefers
  exact ⟨error, late, place, whole, reads, isPlace, remembers.of_prefers rfl prefers, prefers⟩

theorem IsKind.eq {kind other rest late : List Char} (isKind : IsKind kind) (isOther : IsKind other)
    (same : kind ++ rest = other ++ late) : kind = other := by
  rcases isKind with rfl | rfl <;> rcases isOther with rfl | rfl
  · rfl
  · exact absurd (List.cons.inj same).1 (by decide : 'E' ≠ 'F')
  · exact absurd (List.cons.inj same).1 (by decide : 'F' ≠ 'E')
  · rfl

/-- The line that is taken for one that tells the error starts at the first line that does so, or
before it. -/
theorem exists_of_prefers_trace {text : List Char} (isMark : marks.contains mark = true)
    (tells : TellsError line)
    (here : outcome.rest = " ".toList ++ ((run ++ ['\n']) ++ (line ++ (ending mark ++ behind))))
    (prefers : Prefers (concatAll traceParts).outcomes outcome later)
    (stands : outcome.StandsIn text) :
    ∃ more place, place.StandsIn text ∧ (more = [] ∨ '\n' ∈ more) ∧
      place.rest = more ++ (line ++ (ending mark ++ behind)) ∧
      '\n' :: place.rest <:+ (run ++ ['\n']) ++ (line ++ (ending mark ++ behind)) ∧
      Prefers (concatAll tellingParts).outcomes place later := by
  obtain ⟨_, opened, rfl, isBlank, prefers⟩ := (isMetBy_literal " ").of_prefers_cons prefers
  have isOpened := isBlank.remains here
  obtain ⟨early, more, place, isRun, reads, isPlace, prefers⟩ :=
    exists_of_prefers_cons_reluctant (isMetBy_one .anything) isOpened
      (fun _ reads => lineStart_ne_nil isMark tells isOpened reads) prefers
  obtain ⟨isStart, prefers⟩ := of_prefers_cons_condition prefers
  refine ⟨more, place, (stands.of_reads isBlank).of_reads reads, ?_, isPlace, ?_, prefers⟩
  · rcases List.eq_nil_or_concat' more with nothing | ⟨late, last, rfl⟩
    · exact .inl nothing
    · rw [← List.append_assoc] at isRun
      rw [← (List.append_inj' isRun rfl).2]
      exact .inr (List.mem_append_right _ (List.mem_singleton_self _))
  · have isBefore : place.cursor.before.all (· == '\n') = true := isStart
    rw [reads.before, isBlank.before] at isBefore
    rcases List.eq_nil_or_concat' early with rfl | ⟨late, last, rfl⟩
    · exact absurd isBefore Bool.false_ne_true
    · rw [List.getLast?_concat] at isBefore
      obtain rfl := beq_iff_eq.mp isBefore
      rw [← isOpened, reads.rest, List.append_assoc]
      exact List.suffix_append _ _

/-- The name of the test goes up to the first blank. -/
theorem exists_of_prefers_title {text kind name : List Char} (isMark : marks.contains mark = true)
    (tells : TellsError line) (stands : outcome.StandsIn text) (isKind : IsKind kind)
    (noBlank : ' ' ∉ name)
    (here : outcome.rest = kind ++ (": ".toList ++ (name ++ (" ".toList ++ ((run ++ ['\n']) ++
      (line ++ (ending mark ++ behind)))))))
    (prefers : Prefers messagePattern.expression.outcomes outcome later) :
    later.Remembers text 2 name ∧ ∃ place, place.StandsIn text ∧
      place.rest = " ".toList ++ ((run ++ ['\n']) ++ (line ++ (ending mark ++ behind))) ∧
      Prefers (concatAll traceParts).outcomes place later := by
  rw [expression_messagePattern] at prefers
  obtain ⟨-, prefers⟩ := of_prefers_cons_condition prefers
  obtain ⟨other, _, isOther, first, prefers⟩ := isMetBy_kind.of_prefers_cons prefers
  obtain rfl := isOther.eq isKind (first.rest.symm.trans here)
  have afterFirst := first.remains here
  obtain ⟨_, _, rfl, second, prefers⟩ := (isMetBy_literal ": ").of_prefers_cons prefers
  have afterSecond := second.remains afterFirst
  obtain ⟨early, late, place, rfl, reads, isPlace, remembers, prefers⟩ :=
    exists_of_prefers_cons_reluctant_group (isMetBy_one .anything) rfl
      ((stands.of_reads first).of_reads second) afterSecond
      (fun _ reads => trace_ne_nil isMark tells
        (reads.remains afterSecond)) prefers
  have noMore : late = [] := by
    obtain ⟨_, opened, rfl, isBlank, -⟩ := (isMetBy_literal " ").of_prefers_cons prefers
    cases late with
    | nil => rfl
    | cons head late =>
        have isHead := (List.cons.inj (isPlace.symm.trans isBlank.rest)).1
        exact absurd (isHead ▸ List.mem_append_right early List.mem_cons_self) noBlank
  rw [noMore] at isPlace ⊢
  rw [List.append_nil]
  exact ⟨remembers.of_prefers rfl prefers, place,
    ((stands.of_reads first).of_reads second).of_reads reads, isPlace, prefers⟩

/-! ## Matches as a whole -/

theorem split_title (name rest text : List Char) :
    (name ++ ' ' :: rest) ++ '\n' :: text =
      name ++ (" ".toList ++ ((rest ++ ['\n']) ++ text)) := by
  simp

theorem message_ne_nil {kind : List Char} (isMark : marks.contains mark = true)
    (tells : TellsError line) (isKind : IsKind kind) (spaced : ' ' ∈ run)
    (isStart : outcome.IsAtLineStart)
    (here : outcome.rest = kind ++ (": ".toList ++ (run ++ '\n' :: (line ++
      (ending mark ++ behind))))) :
    messagePattern.expression.outcomes outcome ≠ [] := by
  obtain ⟨name, rest, rfl, -⟩ := List.eq_append_cons_of_mem spaced
  rw [expression_messagePattern]
  refine cons_condition_ne_nil isStart (isMetBy_kind.cons_ne_nil isKind here fun _ first => ?_)
  have afterFirst := first.remains here
  refine (isMetBy_literal ": ").cons_ne_nil rfl afterFirst fun _ second => ?_
  have afterSecond := second.remains afterFirst
  rw [split_title] at afterSecond
  refine (isMetBy_anything.group 2).cons_ne_nil (isRun_anything name) afterSecond fun _ third => ?_
  exact trace_ne_nil isMark tells (third.remains afterSecond)

/-- Where the parts of a match are. -/
theorem exists_of_prefers_message {text kind : List Char} (isMark : marks.contains mark = true)
    (tells : TellsError line) (isKind : IsKind kind) (spaced : ' ' ∈ run)
    (stands : outcome.StandsIn text)
    (here : outcome.rest = kind ++ (": ".toList ++ (run ++ '\n' :: (line ++
      (ending mark ++ behind)))))
    (prefers : Prefers messagePattern.expression.outcomes outcome later) :
    ∃ name rest told error late place, (run = name ++ ' ' :: rest ∧ ' ' ∉ name) ∧
      later.Remembers text 2 name ∧ Introduces told (error ++ place.rest) ∧
      '\n' :: told <:+ run ++ '\n' :: (line ++ (ending mark ++ behind)) ∧
      later.Remembers text 4 error ∧ place.rest = late ++ (ending mark ++ behind) ∧
      Prefers (concatAll endingParts).outcomes place later := by
  obtain ⟨name, rest, rfl, noBlank⟩ := List.eq_append_cons_of_mem spaced
  rw [split_title] at here ⊢
  obtain ⟨isName, titled, standsThere, isTitled, prefers⟩ :=
    exists_of_prefers_title isMark tells stands isKind noBlank here prefers
  obtain ⟨more, start, standsThere, starts, isStart, isSuffix, prefers⟩ :=
    exists_of_prefers_trace isMark tells isTitled prefers standsThere
  obtain ⟨taken, late, told, reads, introduces, isTold, prefers⟩ :=
    exists_of_prefers_telling isMark tells isStart starts prefers
  obtain ⟨error, late, place, rfl, others, isPlace, isError, prefers⟩ :=
    exists_of_prefers_error isMark (standsThere.of_reads reads) isTold prefers
  refine ⟨name, rest, start.rest, error, late, place, ⟨rfl, noBlank⟩, isName, ?_, ?_, isError,
    isPlace, prefers⟩
  · rwa [others.rest] at introduces
  · exact isSuffix.trans ((List.suffix_append _ _).trans (List.suffix_append name _))

/-- A match takes nothing of what follows the first line that tells an error and its separator. -/
theorem length_le_of_prefers_message {kind : List Char} (isMark : marks.contains mark = true)
    (tells : TellsError line) (isKind : IsKind kind) (spaced : ' ' ∈ run)
    (here : outcome.rest = kind ++ (": ".toList ++ (run ++ '\n' :: (line ++
      (ending mark ++ behind)))))
    {text : List Char} (stands : outcome.StandsIn text)
    (prefers : Prefers messagePattern.expression.outcomes outcome later) :
    behind.length ≤ later.rest.length := by
  obtain ⟨-, -, -, -, late, place, -, -, -, -, -, isPlace, prefers⟩ :=
    exists_of_prefers_message isMark tells isKind spaced stands here prefers
  exact length_le_of_prefers_ending isMark isPlace prefers

theorem matchAt_of_not_isTitle {before : Option Char} {text : List Char} (other : ¬ IsTitle text) :
    messagePattern.expression.matchAt? ⟨before, text, 0⟩ = none := by
  rw [matchAt_eq_none_iff, List.eq_nil_iff_forall_not_mem]
  intro later member
  rw [expression_messagePattern] at member
  obtain ⟨-, member⟩ := mem_cons_condition.mp member
  obtain ⟨kind, _, isKind, first, member⟩ := isMetBy_kind.of_mem_cons member
  obtain ⟨_, opened, rfl, second, -⟩ := (isMetBy_literal ": ").of_mem_cons member
  exact other ⟨kind, opened.rest, isKind, second.rest ▸ first.rest⟩

end Grading.Report.PyUnit
