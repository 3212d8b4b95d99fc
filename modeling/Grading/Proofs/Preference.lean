import Grading.Proofs.Scanning

namespace Grading.Pattern

/-! What the parts of an expression prefer. The preferred match of a sequence is followed part by
part: a part that has no other choice, a run up to a character that ends it, and a run that gives
back characters until what follows fits. -/

/-! ## Going on -/

namespace Attempt

def skip : (count : Nat) → Attempt → Attempt
  | 0, outcome => outcome
  | count + 1, outcome => outcome.next.skip count

@[simp] theorem rest_skip (count : Nat) (outcome : Attempt) :
    (outcome.skip count).rest = outcome.rest.drop count := by
  induction count generalizing outcome with
  | zero => rfl
  | succ count induction => rw [skip, induction, rest_next, List.drop_tail]

@[simp] theorem marks_skip (count : Nat) (outcome : Attempt) :
    (outcome.skip count).marks = outcome.marks := by
  induction count generalizing outcome with
  | zero => rfl
  | succ count induction => rw [skip, induction, marks_next]

theorem position_skip {count : Nat} {outcome : Attempt} (enough : count ≤ outcome.rest.length) :
    (outcome.skip count).cursor.position = outcome.cursor.position + count := by
  induction count generalizing outcome with
  | zero => rfl
  | succ count induction =>
      have more : outcome.rest ≠ [] := List.ne_nil_of_length_pos (Nat.zero_lt_of_lt enough)
      have left : count ≤ outcome.next.rest.length := by
        rw [rest_next, List.length_tail]
        exact Nat.le_sub_one_of_lt enough
      rw [skip, induction left, position_next more, Nat.add_assoc, Nat.add_comm 1]

theorem rest_next_of_cons {outcome : Attempt} {character : Char} {behind : List Char}
    (here : outcome.rest = character :: behind) : outcome.next.rest = behind := by
  rw [rest_next, here, List.tail_cons]

theorem rest_skip_of_append {outcome : Attempt} {run behind : List Char}
    (here : outcome.rest = run ++ behind) : (outcome.skip run.length).rest = behind := by
  rw [rest_skip, here, List.drop_left]

theorem position_skip_of_append {outcome : Attempt} {run behind : List Char}
    (here : outcome.rest = run ++ behind) :
    (outcome.skip run.length).cursor.position = outcome.cursor.position + run.length :=
  position_skip (by rw [here, List.length_append]; exact Nat.le_add_right ..)

/-- Whether the part prefers the second outcome when it begins with the first one. -/
def Prefers (part : Attempt → List Attempt) (outcome later : Attempt) : Prop :=
  (part outcome).head? = some later

variable {part other : Attempt → List Attempt} {outcome middle later : Attempt}

theorem prefers_flatMap (prefers : Prefers part outcome middle)
    (others : Prefers other middle later) :
    Prefers (fun outcome => (part outcome).flatMap other) outcome later := by
  obtain ⟨rest, isPart⟩ := List.head?_eq_some_iff.mp prefers
  obtain ⟨behind, isOther⟩ := List.head?_eq_some_iff.mp others
  rw [Prefers, isPart, List.flatMap_cons, isOther]
  rfl

end Attempt

namespace Expression

open Attempt

variable {outcome middle later : Attempt} {first : Expression} {rest : List Expression}

theorem outcomes_concatAll_cons (first : Expression) (rest : List Expression) :
    (concatAll (first :: rest)).outcomes =
      fun outcome => (first.outcomes outcome).flatMap (concatAll rest).outcomes := by
  funext outcome
  cases rest with
  | nil => exact (List.flatMap_singleton' _).symm
  | cons => rfl

theorem prefers_cons (prefers : Prefers first.outcomes outcome middle)
    (others : Prefers (concatAll rest).outcomes middle later) :
    Prefers (concatAll (first :: rest)).outcomes outcome later := by
  rw [outcomes_concatAll_cons]
  exact prefers_flatMap prefers others

theorem prefers_last (prefers : Prefers first.outcomes outcome later) :
    Prefers (concatAll [first]).outcomes outcome later :=
  prefers_cons prefers rfl

theorem readings_of_prefers (needs : first.isNullable = false) {text : List Char}
    (prefers : Prefers first.outcomes (.start (.start text)) later) :
    first.readings text =
      Match.reading text ⟨0, later.cursor, later.marks⟩ :: first.readings later.rest := by
  have found : first.matchAt? (.start text) = some ⟨0, later.cursor, later.marks⟩ := by
    rw [matchAt?, prefers]
    rfl
  exact readings_of_some needs found

theorem prefers_group {index : Nat}
    (prefers : Prefers first.outcomes (outcome.mark (2 * index)) later) :
    Prefers (group index first).outcomes outcome (later.mark (2 * index + 1)) := by
  rw [Prefers, outcomes, List.head?_map, prefers]
  rfl

/-! ## Words -/

theorem outcomes_one {set : CharSet} {character : Char} {behind : List Char}
    (here : outcome.rest = character :: behind) (accepts : set.contains character = true) :
    (one set).outcomes outcome = [outcome.next] := by
  rw [outcomes, consume, here, List.head?_cons, Option.any_some, if_pos accepts]

theorem outcomes_literal (text : String) (outcome : Attempt) :
    (literal text).outcomes outcome =
      if text.toList <+: outcome.rest then [outcome.skip text.toList.length] else [] := by
  rw [literal]
  generalize text.toList = word
  induction word generalizing outcome with
  | nil => rw [if_pos List.nil_prefix]; rfl
  | cons character word induction =>
      rw [List.map_cons, outcomes_concatAll_cons]
      simp only
      cases text : outcome.rest with
      | nil => simp [outcomes, consume, text]
      | cons head behind =>
          by_cases same : head = character
          · subst same
            rw [outcomes_one text ((CharSet.contains_single _ _).mpr rfl), List.flatMap_singleton,
              induction, rest_next, text, List.tail_cons]
            simp only [List.cons_prefix_cons, true_and, List.length_cons]
            rfl
          · have rejects : (CharSet.single character).contains head = false :=
              Bool.eq_false_iff.mpr fun accepts => same ((CharSet.contains_single _ _).mp accepts)
            have other : ¬ character :: word <+: head :: behind := fun isPrefix =>
              same (List.cons_prefix_cons.mp isPrefix).1.symm
            rw [if_neg other, outcomes, consume, text, List.head?_cons, Option.any_some, rejects]
            rfl

theorem prefers_literal {text : String} {behind : List Char}
    (here : outcome.rest = text.toList ++ behind) :
    Prefers (literal text).outcomes outcome (outcome.skip text.toList.length) := by
  rw [Prefers, outcomes_literal, here, if_pos (List.prefix_append _ _)]
  rfl

/-! ## Runs -/

variable {set : CharSet} {run behind : List Char}

theorem outcomes_anyTimes_one (set : CharSet) (outcome : Attempt) :
    (loop (one set) 0 none true).outcomes outcome =
      (if outcome.rest.head?.any set.contains
        then (loop (one set) 0 none true).outcomes outcome.next else []) ++ [outcome] := by
  have takes : Takes (one set).outcomes := takes_outcomes rfl
  rw [outcomes, anyTimes_of_takes true takes, prefer, if_pos rfl]
  refine congrArg (· ++ [outcome]) ?_
  rw [outcomes, consume]
  split
  · rw [List.flatMap_singleton, outcomes]
  · rfl

theorem outcomes_anyTimes_of_accepts {character : Char}
    (here : outcome.rest = character :: behind) (accepts : set.contains character = true) :
    (loop (one set) 0 none true).outcomes outcome =
      (loop (one set) 0 none true).outcomes outcome.next ++ [outcome] := by
  rw [outcomes_anyTimes_one, here, List.head?_cons, Option.any_some, if_pos accepts]

/-- A run goes up to the first character that is not in the set. -/
theorem prefers_run (here : outcome.rest = run ++ behind)
    (accepts : ∀ character ∈ run, set.contains character = true)
    (stops : ∀ character ∈ behind.head?, set.contains character = false) :
    Prefers (loop (one set) 0 none true).outcomes outcome (outcome.skip run.length) := by
  induction run generalizing outcome with
  | nil =>
      have ends : outcome.rest.head?.any set.contains = false := by
        rw [here, List.nil_append]
        cases head : behind.head? with
        | none => rfl
        | some character => exact stops character head
      rw [Prefers, outcomes_anyTimes_one, ends]
      rfl
  | cons character run induction =>
      obtain ⟨isFirst, areLater⟩ := List.forall_mem_cons.mp accepts
      have later := induction (rest_next_of_cons here) areLater
      rw [Prefers, outcomes_anyTimes_of_accepts here isFirst, List.head?_append, later]
      rfl

/-- A run of at least one character. -/
theorem prefers_run_one (filled : run ≠ []) (here : outcome.rest = run ++ behind)
    (accepts : ∀ character ∈ run, set.contains character = true)
    (stops : ∀ character ∈ behind.head?, set.contains character = false) :
    Prefers (loop (one set) 1 none true).outcomes outcome (outcome.skip run.length) := by
  cases run with
  | nil => exact absurd rfl filled
  | cons character run =>
      obtain ⟨isFirst, areLater⟩ := List.forall_mem_cons.mp accepts
      have first : Prefers (one set).outcomes outcome outcome.next := by
        rw [Prefers, outcomes_one here isFirst]
        rfl
      have isRound := prefers_flatMap first (prefers_run (rest_next_of_cons here) areLater stops)
      rw [Prefers, outcomes, times, List.flatMap_singleton]
      exact isRound

/-- No run goes on to a place where the rest fits if that fits only where the run began. -/
theorem flatMap_anyTimes_of_misfits {next : Attempt → List Attempt}
    (misfits : ∀ later : Attempt, later.rest <:+ outcome.rest → later.rest ≠ outcome.rest →
      next later = []) :
    ((loop (one set) 0 none true).outcomes outcome).flatMap next = next outcome := by
  have nothing : (if outcome.rest.head?.any set.contains
      then (loop (one set) 0 none true).outcomes outcome.next else []).flatMap next = [] := by
    split
    · rename_i some
      refine List.flatMap_eq_nil_iff.mpr fun other member => ?_
      have reaches := advances_outcomes _ _ other member
      have suffix := reaches.rest_suffix
      rw [rest_next] at suffix
      refine misfits other (suffix.trans (List.tail_suffix _)) fun same => ?_
      have shorter := reaches.length_le
      rw [same, rest_next, List.length_tail] at shorter
      cases here : outcome.rest with
      | nil =>
          rw [here] at some
          cases some
      | cons character behind =>
          rw [here] at shorter
          exact absurd shorter (Nat.not_succ_le_self _)
    · rfl
  rw [outcomes_anyTimes_one, List.flatMap_append, nothing, List.nil_append, List.flatMap_singleton]

/-- A run gives back characters until what follows fits. It ends where the rest fits, if that does
not fit further behind. -/
theorem prefers_run_then {next : Attempt → List Attempt} (here : outcome.rest = run ++ behind)
    (accepts : ∀ character ∈ run, set.contains character = true)
    (misfits : ∀ later : Attempt, later.rest <:+ behind → later.rest ≠ behind → next later = [])
    (fits : Prefers next (outcome.skip run.length) later) :
    Prefers (fun outcome => ((loop (one set) 0 none true).outcomes outcome).flatMap next)
      outcome later := by
  induction run generalizing outcome with
  | nil =>
      rw [List.nil_append] at here
      rw [Prefers, flatMap_anyTimes_of_misfits (here ▸ misfits)]
      exact fits
  | cons character run induction =>
      obtain ⟨isFirst, areLater⟩ := List.forall_mem_cons.mp accepts
      have isLater := induction (rest_next_of_cons here) areLater fits
      rw [Prefers] at isLater
      rw [Prefers, outcomes_anyTimes_of_accepts here isFirst, List.flatMap_append,
        List.head?_append, isLater]
      rfl

theorem prefers_cons_run {next : List Expression} (here : outcome.rest = run ++ behind)
    (accepts : ∀ character ∈ run, set.contains character = true)
    (misfits : ∀ later : Attempt, later.rest <:+ behind → later.rest ≠ behind →
      (concatAll next).outcomes later = [])
    (fits : Prefers (concatAll next).outcomes (outcome.skip run.length) later) :
    Prefers (concatAll (loop (one set) 0 none true :: next)).outcomes outcome later := by
  rw [outcomes_concatAll_cons]
  exact prefers_run_then here accepts misfits fits

theorem outcomes_cons_literal {text : String} {next : List Expression}
    (other : ¬ text.toList <+: outcome.rest) :
    (concatAll (literal text :: next)).outcomes outcome = [] := by
  rw [outcomes_concatAll_cons]
  simp only [outcomes_literal, if_neg other, List.flatMap_nil]

/-! ## Characters that have to be there -/

/-- Whether all matches of the expression take this character. -/
def requires (character : Char) : Expression → Bool
  | empty => false
  | one set => set == .single character
  | condition _ => false
  | group _ inner => inner.requires character
  | concat first second => first.requires character || second.requires character
  | either first second => first.requires character && second.requires character
  | loop _ _ _ _ => false

variable {expression : Expression} {character : Char}

theorem mem_of_requires (requires : expression.requires character = true)
    (member : later ∈ expression.outcomes outcome) : character ∈ outcome.rest := by
  induction expression generalizing outcome later with
  | empty => cases requires
  | one set =>
      obtain ⟨head, rest, text, accepts, -⟩ := mem_consume.mp member
      rw [eq_of_beq requires, CharSet.contains_single] at accepts
      rw [text, accepts]
      exact List.mem_cons_self
  | condition => cases requires
  | group index inner induction =>
      obtain ⟨closed, isClosed, -⟩ := List.mem_map.mp member
      have begins : (outcome.mark (2 * index)).rest = outcome.rest := rest_mark _ _
      exact begins ▸ induction requires isClosed
  | concat first second isFirst isSecond =>
      obtain ⟨middle, isMiddle, isLater⟩ := List.mem_flatMap.mp member
      rcases Bool.or_eq_true_iff.mp requires with requires | requires
      · exact isFirst requires isMiddle
      · exact (first.advances_outcomes outcome middle isMiddle).rest_suffix.mem
          (isSecond requires isLater)
  | either first second isFirst isSecond =>
      obtain ⟨firstRequires, secondRequires⟩ := Bool.and_eq_true_iff.mp requires
      rcases List.mem_append.mp member with member | member
      · exact isFirst firstRequires member
      · exact isSecond secondRequires member
  | loop => cases requires

/-- Nothing is found in a text without a character that every match takes. -/
theorem readings_of_not_mem (requires : expression.requires character = true) {text : List Char}
    (absent : character ∉ text) : expression.readings text = [] := by
  have nothing : ∀ rest, character ∉ rest → expression.matchAt? (.start rest) = none := by
    intro rest absent
    have outcomes : expression.outcomes (.start (.start rest)) = [] :=
      List.eq_nil_iff_forall_not_mem.mpr fun outcome member =>
        absent (mem_of_requires requires member)
    rw [matchAt?, outcomes]
    rfl
  induction text with
  | nil => rw [readings.eq_def, nothing [] absent]
  | cons head text induction =>
      rw [readings_of_none (nothing _ absent)]
      exact induction fun member => absent (List.mem_cons_of_mem head member)

end Expression

/-- A word can be found in a text from its last landmark on only where that belongs to it. -/
theorem eq_of_landmark {early late behind rest : List Char} {landmark : Char}
    (absent : landmark ∉ late ++ behind) (isSuffix : rest <:+ early ++ landmark :: late ++ behind)
    (isPrefix : early ++ landmark :: late <+: rest) :
    rest = early ++ landmark :: late ++ behind := by
  obtain ⟨before, whole⟩ := isSuffix
  obtain ⟨after, rfl⟩ := isPrefix
  suffices nothing : before = [] by
    rw [nothing] at whole
    exact whole
  have aligned : (before ++ early) ++ landmark :: (late ++ after) =
      early ++ landmark :: (late ++ behind) := by
    simpa using whole
  rcases List.append_eq_append_iff.mp aligned with ⟨more, same, -⟩ | ⟨more, same, rest⟩
  · have length := congrArg List.length same
    simp only [List.length_append] at length
    exact List.eq_nil_of_length_eq_zero (by omega)
  · cases more with
    | nil =>
        rw [List.append_nil] at same
        exact List.append_left_eq_self.mp same
    | cons head more =>
        obtain ⟨-, rest⟩ := List.cons.inj rest
        exact absurd (rest ▸ List.mem_append_right more List.mem_cons_self) absent

namespace Match

/-- The text between the places that were remembered for a group. -/
theorem reading_of_marks {found : Match} {index : Nat} {before inside behind : List Char}
    (isGroup : index ≠ 0) (first : found.marks.lookup (2 * index) = some before.length)
    (last : found.marks.lookup (2 * index + 1) = some (before.length + inside.length)) :
    found.reading (before ++ inside ++ behind) index = some inside := by
  have text := slice_append before behind 0 (Nat.le_refl inside.length)
  rw [Nat.zero_add, Nat.add_comm inside.length] at text
  rw [reading, group?, if_neg isGroup, first, last]
  refine congrArg some (text.trans ?_)
  rw [slice, List.drop_zero, Nat.sub_zero, List.take_length]

end Match

end Grading.Pattern
