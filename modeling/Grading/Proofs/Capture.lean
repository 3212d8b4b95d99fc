import Grading.Proofs.Choices

namespace Grading.Pattern

/-! What a match remembers of its groups. A group is remembered where it was met, and what follows
does not change it. -/

/-! ## First places -/

/-- Nowhere within the run, which the rest follows, is there what is asked for. -/
def Misses (asked : List Char → Prop) (run rest : List Char) : Prop :=
  ∀ early late, run = early ++ late → late ≠ [] → ¬ asked (late ++ rest)

section

variable {asked other : List Char → Prop} {run rest word : List Char} {character : Char}

theorem misses_nil : Misses asked [] rest := by
  intro early late whole some
  exact absurd (List.append_eq_nil_iff.mp whole.symm).2 some

theorem misses_cons : Misses asked (character :: run) rest ↔
    ¬ asked (character :: run ++ rest) ∧ Misses asked run rest := by
  constructor
  · intro misses
    exact ⟨misses [] _ rfl (List.cons_ne_nil _ _), fun early late whole some =>
      misses (character :: early) late (by rw [whole, List.cons_append]) some⟩
  · rintro ⟨isFirst, areLater⟩ early late whole some
    cases early with
    | nil =>
        rw [List.nil_append] at whole
        rwa [← whole]
    | cons head early => exact areLater early late (List.cons.inj whole).2 some

theorem Misses.mono (misses : Misses asked run rest) (implies : ∀ text, other text → asked text) :
    Misses other run rest :=
  fun early late whole some isOther => misses early late whole some (implies _ isOther)

theorem Misses.behind {early late : List Char} (misses : Misses asked (early ++ late) rest) :
    Misses asked late rest := by
  intro more last whole some
  exact misses (early ++ more) last (by rw [whole, List.append_assoc]) some

theorem misses_append {early late : List Char} : Misses asked (early ++ late) rest ↔
    Misses asked early (late ++ rest) ∧ Misses asked late rest := by
  constructor
  · intro misses
    refine ⟨fun first last whole some => ?_, misses.behind⟩
    rw [← List.append_assoc]
    exact misses first (last ++ late) (by rw [whole, List.append_assoc])
      (List.append_ne_nil_of_left_ne_nil some _)
  · rintro ⟨isEarly, isLate⟩
    induction early with
    | nil => exact isLate
    | cons character early induction =>
        obtain ⟨isFirst, areLater⟩ := misses_cons.mp isEarly
        rw [← List.append_assoc] at isFirst
        exact misses_cons.mpr ⟨isFirst, induction areLater⟩

/-- What begins with a character that the run has not is nowhere within the run. -/
theorem misses_of_not_mem (absent : character ∉ run)
    (begins : ∀ text, asked text → text.head? = some character) : Misses asked run rest := by
  intro early late whole some isAsked
  obtain ⟨head, late, rfl⟩ := List.exists_cons_of_ne_nil some
  cases begins _ isAsked
  exact absent (whole ▸ List.mem_append_right _ List.mem_cons_self)

/-- A word is over before the first place of a character that it has not. -/
theorem exists_of_append_eq {early behind : List Char} (absent : character ∉ word)
    (whole : word ++ rest = early ++ character :: behind) :
    ∃ more, early = word ++ more ∧ rest = more ++ character :: behind := by
  rcases List.append_eq_append_iff.mp whole with ⟨more, isEarly, isRest⟩ | ⟨more, isWord, isRest⟩
  · exact ⟨more, isEarly, isRest⟩
  · cases more with
    | nil => exact ⟨[], by rw [isWord, List.append_nil, List.append_nil], isRest.symm⟩
    | cons head more =>
        obtain ⟨rfl, -⟩ := List.cons.inj isRest
        exact absurd (isWord ▸ List.mem_append_right _ List.mem_cons_self) absent

/-- What is somewhere in a text has a first place there. -/
theorem exists_misses (asked : List Char → Prop) (run : List Char) (isAsked : asked rest) :
    ∃ early late, run = early ++ late ∧ asked (late ++ rest) ∧
      Misses asked early (late ++ rest) := by
  induction run with
  | nil => exact ⟨[], [], rfl, isAsked, misses_nil⟩
  | cons character run induction =>
      by_cases isHere : asked (character :: run ++ rest)
      · exact ⟨[], character :: run, rfl, isHere, misses_nil⟩
      · obtain ⟨early, late, rfl, isLater, misses⟩ := induction
        refine ⟨character :: early, late, rfl, isLater, misses_cons.mpr ⟨?_, misses⟩⟩
        rwa [List.cons_append, List.append_assoc, ← List.cons_append] at isHere

end

/-- A scan passes over a run in which no match begins. -/
theorem Expression.readingsAt_of_misses {expression : Expression} {begins : List Char → Prop}
    {run rest : List Char}
    (asks : ∀ before text, ¬ begins text → expression.matchAt? ⟨before, text, 0⟩ = none)
    (misses : Misses begins run rest) (before : Option Char) :
    expression.readingsAt before (run ++ rest) =
      expression.readingsAt (run.getLast?.or before) rest := by
  induction run generalizing before with
  | nil => rfl
  | cons character run induction =>
      obtain ⟨isFirst, areLater⟩ := misses_cons.mp misses
      have nothing := asks before _ isFirst
      rw [List.cons_append] at nothing ⊢
      rw [readingsAt_of_none nothing, induction areLater, List.getLast?_cons]
      cases run.getLast? <;> rfl

/-- A search passes over a run in which no match begins. -/
theorem Expression.matchFrom?_of_misses {expression : Expression} {begins : List Char → Prop}
    {text run rest : List Char}
    (asks : ∀ cursor : Cursor, ¬ begins cursor.rest → expression.matchAt? cursor = none)
    (misses : Misses begins run rest) {before : Option Char} {position : Nat}
    (inside : Cursor.IsIn text ⟨before, run ++ rest, position⟩) :
    ∃ other, Cursor.IsIn text ⟨other, rest, position + run.length⟩ ∧
      expression.matchFrom? before position (run ++ rest) =
        expression.matchFrom? other (position + run.length) rest := by
  induction run generalizing before position with
  | nil => exact ⟨before, inside, rfl⟩
  | cons character run induction =>
      obtain ⟨isFirst, areLater⟩ := misses_cons.mp misses
      obtain ⟨other, further, later⟩ := induction areLater inside.cons
      have nothing := asks ⟨before, character :: (run ++ rest), position⟩ isFirst
      have same : position + 1 + run.length = position + (character :: run).length := by
        rw [List.length_cons, Nat.add_assoc, Nat.add_comm 1]
      rw [← same]
      refine ⟨other, further, ?_⟩
      rw [List.cons_append, matchFrom?, nothing, Option.none_or, later]

/-! ## Groups -/

namespace Attempt

/-- A group of so many characters. -/
def capture (index count : Nat) (outcome : Attempt) : Attempt :=
  ((outcome.mark (2 * index)).skip count).mark (2 * index + 1)

variable {text inside behind taken : List Char} {index count slot : Nat}
  {outcome closed later : Attempt}

@[simp] theorem rest_capture (index count : Nat) (outcome : Attempt) :
    (outcome.capture index count).rest = outcome.rest.drop count := rest_skip _ _

theorem rest_capture_of_append (here : outcome.rest = inside ++ behind) (index : Nat) :
    (outcome.capture index inside.length).rest = behind := by
  rw [rest_capture, here, List.drop_left]

theorem Reads.capture (here : outcome.rest = inside ++ behind) (index : Nat) :
    Reads inside outcome (outcome.capture index inside.length) :=
  (Reads.skip (rest_mark (2 * index) outcome ▸ here)).of_mark.mark _

/-- The outcome stands at a place of the text. -/
def StandsIn (text : List Char) (outcome : Attempt) : Prop :=
  ∃ before, text = before ++ outcome.rest ∧ outcome.cursor.position = before.length

theorem standsIn_start (before : Option Char) (text : List Char) :
    (start ⟨before, text, 0⟩).StandsIn text := ⟨[], rfl, rfl⟩

theorem StandsIn.of_reads (stands : outcome.StandsIn text) (reads : Reads taken outcome later) :
    later.StandsIn text := by
  obtain ⟨before, whole, position⟩ := stands
  refine ⟨before ++ taken, ?_, ?_⟩
  · rw [whole, reads.rest, List.append_assoc]
  · rw [reads.position, position, List.length_append]

/-- The places that the outcome remembers of a group are those around this text. -/
def Remembers (text : List Char) (index : Nat) (inside : List Char) (outcome : Attempt) : Prop :=
  ∃ before behind, text = before ++ inside ++ behind ∧
    outcome.marks.lookup (2 * index) = some before.length ∧
    outcome.marks.lookup (2 * index + 1) = some (before.length + inside.length)

theorem lookup_mark_self (slot : Nat) (outcome : Attempt) :
    (outcome.mark slot).marks.lookup slot = some outcome.cursor.position := by
  rw [mark, List.lookup_cons, beq_self_eq_true]

theorem lookup_mark_of_ne {other : Nat} (different : other ≠ slot) (outcome : Attempt) :
    (outcome.mark slot).marks.lookup other = outcome.marks.lookup other := by
  rw [mark, List.lookup_cons, beq_eq_false_iff_ne.mpr different]

/-- A group remembers the text that was read within it. -/
theorem remembers_of_reads (stands : outcome.StandsIn text)
    (opened : closed.marks.lookup (2 * index) = some outcome.cursor.position)
    (reads : Reads inside outcome closed) :
    (closed.mark (2 * index + 1)).Remembers text index inside := by
  obtain ⟨before, whole, position⟩ := stands
  refine ⟨before, closed.rest, ?_, ?_, ?_⟩
  · rw [whole, reads.rest, List.append_assoc]
  · rw [lookup_mark_of_ne (Nat.ne_of_lt (Nat.lt_succ_self _)), opened, position]
  · rw [lookup_mark_self, reads.position, position]

theorem remembers_capture (stands : outcome.StandsIn text) (here : outcome.rest = inside ++ behind)
    (index : Nat) : (outcome.capture index inside.length).Remembers text index inside := by
  refine remembers_of_reads stands ?_ (Reads.skip (rest_mark (2 * index) outcome ▸ here)).of_mark
  rw [marks_skip, lookup_mark_self]

/-- The places of a group stay those that they are in what has no group of that number. -/
theorem lookup_of_mem {expression : Expression} (other : expression.hasGroup index = false)
    (member : later ∈ expression.outcomes outcome) :
    later.marks.lookup (2 * index) = outcome.marks.lookup (2 * index) ∧
      later.marks.lookup (2 * index + 1) = outcome.marks.lookup (2 * index + 1) := by
  have keeps : Keeps (fun place =>
      place.marks.lookup (2 * index) = outcome.marks.lookup (2 * index) ∧
        place.marks.lookup (2 * index + 1) = outcome.marks.lookup (2 * index + 1))
      expression.outcomes := by
    refine Expression.keeps_outcomes (fun _ _ _ same _ => same) fun number isGroup place same => ?_
    have different : index ≠ number := by
      rintro rfl
      rw [other] at isGroup
      cases isGroup
    constructor
    · rwa [lookup_mark_of_ne (by omega), lookup_mark_of_ne (by omega)]
    · rwa [lookup_mark_of_ne (by omega), lookup_mark_of_ne (by omega)]
  exact keeps outcome ⟨rfl, rfl⟩ later member

/-- A group is remembered by whatever follows without a group of that number. -/
theorem Remembers.of_mem {expression : Expression} (remembers : outcome.Remembers text index inside)
    (other : expression.hasGroup index = false) (member : later ∈ expression.outcomes outcome) :
    later.Remembers text index inside := by
  obtain ⟨before, behind, whole, first, last⟩ := remembers
  obtain ⟨isFirst, isLast⟩ := lookup_of_mem other member
  exact ⟨before, behind, whole, isFirst.trans first, isLast.trans last⟩

theorem Remembers.of_prefers {expression : Expression}
    (remembers : outcome.Remembers text index inside) (other : expression.hasGroup index = false)
    (prefers : Prefers expression.outcomes outcome later) :
    later.Remembers text index inside :=
  remembers.of_mem other (List.mem_of_head? prefers)

theorem Remembers.reading (remembers : later.Remembers text index inside) (isGroup : index ≠ 0)
    (first : Nat) : Match.reading text ⟨first, later.cursor, later.marks⟩ index = some inside := by
  obtain ⟨before, behind, rfl, opened, closed⟩ := remembers
  exact Match.reading_of_marks isGroup opened closed

end Attempt

/-! ## Reluctant groups -/

namespace Expression

open Attempt

variable {outcome later : Attempt} {set : CharSet} {run behind : List Char} {index : Nat}
  {next : List Expression}

/-- Whether the parts can be met at some place that this text follows. -/
def CanBegin (parts : List Expression) (text : List Char) : Prop :=
  ∃ place : Attempt, place.rest = text ∧ (concatAll parts).outcomes place ≠ []

theorem CanBegin.literal {word : String} {text : List Char}
    (begins : CanBegin (.literal word :: next) text) :
    ∃ rest, text = word.toList ++ rest ∧ CanBegin next rest := by
  obtain ⟨place, rfl, some⟩ := begins
  obtain ⟨later, member⟩ := List.exists_mem_of_ne_nil _ some
  obtain ⟨_, middle, rfl, reads, isLater⟩ := (isMetBy_literal word).of_mem_cons member
  exact ⟨middle.rest, reads.rest, middle, rfl, List.ne_nil_of_mem isLater⟩

theorem misses_literal_of_not_mem {word : String} {character : Char}
    (starts : word.toList.head? = some character) (absent : character ∉ run) (rest : List Char) :
    Misses (CanBegin (literal word :: next)) run rest := by
  refine misses_of_not_mem absent fun text begins => ?_
  obtain ⟨rest, rfl, -⟩ := begins.literal
  rw [List.head?_append, starts]
  rfl

theorem outcomes_cons_group (index : Nat) (inner : Expression) (next : List Expression)
    (outcome : Attempt) :
    (concatAll (group index inner :: next)).outcomes outcome =
      (inner.outcomes (outcome.mark (2 * index))).flatMap fun place =>
        (concatAll next).outcomes (place.mark (2 * index + 1)) := by
  rw [outcomes_concatAll_cons]
  exact List.flatMap_map _ _ _

/-- A reluctant group ends at the first place where what follows fits. -/
theorem prefers_cons_reluctant (here : outcome.rest = run ++ behind)
    (accepts : ∀ character ∈ run, set.contains character = true)
    (misses : Misses (CanBegin next) run behind)
    (fits : Prefers (concatAll next).outcomes (outcome.capture index run.length) later) :
    Prefers (concatAll (group index (loop (one set) 0 none false) :: next)).outcomes outcome
      later := by
  rw [Prefers, outcomes_cons_group]
  refine prefers_reluctant_then (show (outcome.mark (2 * index)).rest = run ++ behind from here)
    accepts (fun early late whole some => ?_) fits
  by_contra begins
  refine misses early late whole some ⟨_, ?_, begins⟩
  rw [rest_mark, rest_skip, rest_mark, here, whole, List.append_assoc, List.drop_left]

/-- A reluctant group goes no further than to a place where what follows fits. -/
theorem exists_of_prefers_cons_reluctant_group {text : List Char} {inner : Expression}
    (met : inner.IsMetBy (IsOne set)) (other : inner.hasGroup index = false)
    (stands : outcome.StandsIn text) (here : outcome.rest = run ++ behind)
    (fits : ∀ place, Reads run outcome place → (concatAll next).outcomes place ≠ [])
    (prefers : Prefers (concatAll (group index (loop inner 0 none false) :: next)).outcomes outcome
      later) :
    ∃ early late place, run = early ++ late ∧ Reads early outcome place ∧
      place.rest = late ++ behind ∧ place.Remembers text index early ∧
      Prefers (concatAll next).outcomes place later := by
  rw [Prefers, outcomes_cons_group] at prefers
  obtain ⟨early, late, whole, place, isPlace, reads, isRest, isNext⟩ :=
    exists_of_prefers_reluctant met (show (outcome.mark (2 * index)).rest = run ++ behind from here)
      (fun place reads => fits _ (reads.of_mark.mark _)) prefers
  have opened : place.marks.lookup (2 * index) = some outcome.cursor.position :=
    (lookup_of_mem (show (loop inner 0 none false).hasGroup index = false from other)
      isPlace).1.trans (lookup_mark_self _ _)
  exact ⟨early, late, place.mark (2 * index + 1), whole, reads.of_mark.mark _, isRest,
    remembers_of_reads stands opened reads.of_mark, isNext⟩

/-- A reluctant group that ends in a word. -/
theorem prefers_cons_reluctant_word {word : String}
    (here : outcome.rest = run ++ (word.toList ++ behind))
    (accepts : ∀ character ∈ run, set.contains character = true)
    (misses : Misses (fun text => ∃ rest, text = word.toList ++ rest ∧ CanBegin next rest) run
      (word.toList ++ behind))
    (fits : Prefers (concatAll next).outcomes
      (outcome.capture index (run ++ word.toList).length) later) :
    Prefers (concatAll (group index (.concat (loop (one set) 0 none false) (literal word)) ::
      next)).outcomes outcome later := by
  have opened : (outcome.mark (2 * index)).rest = run ++ (word.toList ++ behind) := here
  rw [Prefers, outcomes_cons_group, outcomes, List.flatMap_assoc]
  refine prefers_reluctant_then opened accepts (fun early late whole some => ?_) ?_
  · have remains : ((outcome.mark (2 * index)).skip early.length).rest =
        late ++ (word.toList ++ behind) := by
      rw [rest_skip, opened, whole, List.append_assoc, List.drop_left]
    rw [outcomes_literal]
    split
    · rename_i isWord
      obtain ⟨more, isMore⟩ := isWord
      rw [List.flatMap_singleton]
      by_contra begins
      refine misses early late whole some ⟨more, remains ▸ isMore.symm, _, ?_, begins⟩
      rw [rest_mark, rest_skip, ← isMore, List.drop_left]
    · rfl
  · refine prefers_flatMap (prefers_literal (rest_skip_of_append opened)) ?_
    rw [capture, List.length_append, ← skip_skip] at fits
    exact fits

/-! ## Texts that sequences are made for -/

/-- Wherever a text goes on like this, the parts prefer to take the first piece of it, and remember
these groups. -/
def Fit (parts : List Expression) (taken behind : List Char) (groups : List (Nat × List Char)) :
    Prop :=
  ∀ ⦃text : List Char⦄ ⦃outcome : Attempt⦄, outcome.StandsIn text → outcome.rest = taken ++ behind →
    ∃ later, Prefers (concatAll parts).outcomes outcome later ∧ later.rest = behind ∧
      ∀ group ∈ groups, later.Remembers text group.1 group.2

namespace Fit

variable {parts : List Expression} {taken : List Char} {groups : List (Nat × List Char)}
  {word : String}

theorem nil : Fit [] [] behind [] :=
  fun _ outcome _ here => ⟨outcome, rfl, here, List.forall_mem_nil _⟩

theorem text_end : Fit [condition .textEnd] [] [] [] := by
  intro text outcome stands here
  refine ⟨outcome, ?_, here, List.forall_mem_nil _⟩
  have holds : Condition.textEnd.holds outcome.cursor = true := List.isEmpty_iff.mpr here
  rw [Prefers, concatAll, outcomes, if_pos holds]
  rfl

theorem line_end (ends : behind.head?.all (· == '\n') = true) :
    Fit [condition (.lineEnd false)] [] behind [] := by
  intro text outcome stands here
  refine ⟨outcome, ?_, here, List.forall_mem_nil _⟩
  have holds : (Condition.lineEnd false).holds outcome.cursor = true := by
    rw [← show outcome.rest = behind from here] at ends
    exact ends
  rw [Prefers, concatAll, outcomes, if_pos holds]
  rfl

/-- A part without groups that has only one run to prefer. -/
theorem skip {first : Expression} (fit : Fit parts taken behind groups)
    (skips : ∀ outcome : Attempt, outcome.rest = run ++ (taken ++ behind) →
      Prefers first.outcomes outcome (outcome.skip run.length)) :
    Fit (first :: parts) (run ++ taken) behind groups := by
  intro text outcome stands here
  rw [List.append_assoc] at here
  obtain ⟨later, prefers, ends⟩ := fit (stands.of_reads (.skip here)) (rest_skip_of_append here)
  exact ⟨later, prefers_cons (skips outcome here) prefers, ends⟩

theorem literal (fit : Fit parts taken behind groups) :
    Fit (.literal word :: parts) (word.toList ++ taken) behind groups :=
  fit.skip fun _ here => prefers_literal here

theorem of_capture {inside : List Char} {first : Expression}
    (fit : Fit parts taken behind groups) (other : (concatAll parts).hasGroup index = false)
    (prefers : ∀ ⦃outcome later : Attempt⦄, outcome.rest = inside ++ (taken ++ behind) →
      Prefers (concatAll parts).outcomes (outcome.capture index inside.length) later →
        Prefers (concatAll (first :: parts)).outcomes outcome later) :
    Fit (first :: parts) (inside ++ taken) behind ((index, inside) :: groups) := by
  intro text outcome stands here
  rw [List.append_assoc] at here
  obtain ⟨later, isLater, ends, remembers⟩ :=
    fit (stands.of_reads (.capture here index)) (rest_capture_of_append here index)
  exact ⟨later, prefers here isLater, ends, List.forall_mem_cons.mpr
    ⟨(remembers_capture stands here index).of_prefers other isLater, remembers⟩⟩

theorem reluctant (fit : Fit parts taken behind groups)
    (accepts : ∀ character ∈ run, set.contains character = true)
    (misses : Misses (CanBegin parts) run (taken ++ behind))
    (other : (concatAll parts).hasGroup index = false) :
    Fit (.group index (loop (one set) 0 none false) :: parts) (run ++ taken) behind
      ((index, run) :: groups) :=
  fit.of_capture other fun _ _ here prefers => prefers_cons_reluctant here accepts misses prefers

theorem reluctant_word (fit : Fit parts taken behind groups)
    (accepts : ∀ character ∈ run, set.contains character = true)
    (misses : Misses (fun text => ∃ rest, text = word.toList ++ rest ∧ CanBegin parts rest) run
      (word.toList ++ (taken ++ behind)))
    (other : (concatAll parts).hasGroup index = false) :
    Fit (.group index (.concat (loop (one set) 0 none false) (.literal word)) :: parts)
      (run ++ word.toList ++ taken) behind ((index, run ++ word.toList) :: groups) := by
  refine fit.of_capture other fun outcome later here prefers => ?_
  rw [List.append_assoc] at here
  exact prefers_cons_reluctant_word here accepts misses prefers

/-- A group that has only one text to prefer. -/
theorem group {inside : List Char} {inner : Expression} (fit : Fit parts taken behind groups)
    (skips : ∀ outcome : Attempt, outcome.rest = inside ++ (taken ++ behind) →
      Prefers inner.outcomes outcome (outcome.skip inside.length))
    (other : (concatAll parts).hasGroup index = false) :
    Fit (.group index inner :: parts) (inside ++ taken) behind ((index, inside) :: groups) := by
  refine fit.of_capture other fun outcome later here prefers => prefers_cons ?_ prefers
  exact prefers_group (skips _ (rest_mark (2 * index) outcome ▸ here))

end Fit

end Expression

end Grading.Pattern
