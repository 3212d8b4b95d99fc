import Grading.Proofs.Capture

namespace Grading.Pattern

/-! Expressions whose matches begin at the start of a line. A scan gets on to the next line where
nothing is found, and behind a match that ends within a line. -/

namespace Expression

open Attempt

def beginsLine : Expression → Bool
  | concat (condition (.lineStart false)) _ => true
  | _ => false

/-- Whether the expression asks first for the start of a line, and for no other places than those
where lines start and end. -/
structure IsAnchored (expression : Expression) : Prop where
  productive : expression.IsProductive
  needs : expression.isNullable = false
  begins : expression.beginsLine = true
  lines : ∀ place ∈ expression.conditions, place = .lineStart false ∨ place = .lineEnd false

namespace IsAnchored

variable {expression : Expression} {before other : Option Char} {character : Char}
  {line rest text : List Char}

theorem outcomes_eq_nil (anchored : expression.IsAnchored) {outcome : Attempt}
    (inside : ¬ outcome.IsAtLineStart) : expression.outcomes outcome = [] := by
  have begins := anchored.begins
  unfold beginsLine at begins
  split at begins
  · refine List.flatMap_eq_nil_iff.mpr fun later member => ?_
    exact absurd (mem_condition.mp member).1 inside
  · cases begins

theorem matchAt_eq_none (anchored : expression.IsAnchored) (other : character ≠ '\n')
    (text : List Char) (position : Nat) :
    expression.matchAt? ⟨some character, text, position⟩ = none := by
  have inside : ¬ (Attempt.start ⟨some character, text, position⟩).IsAtLineStart :=
    fun isStart => other (beq_iff_eq.mp isStart)
  rw [matchAt?, anchored.outcomes_eq_nil inside]
  rfl

/-- Nothing is found within a line. -/
theorem readingsAt_within (anchored : expression.IsAnchored) (other : character ≠ '\n')
    (inLine : '\n' ∉ line) : expression.readingsAt (some character) line = [] := by
  induction line generalizing character with
  | nil => exact readingsAt_nil anchored.needs _
  | cons head line induction =>
      rw [readingsAt_of_none (anchored.matchAt_eq_none other _ 0)]
      obtain ⟨isOther, areOther⟩ := List.ne_and_not_mem_of_not_mem_cons inLine
      exact induction (Ne.symm isOther) areOther

theorem readingsAt_within_append (anchored : expression.IsAnchored) (other : character ≠ '\n')
    (inLine : '\n' ∉ line) (rest : List Char) :
    expression.readingsAt (some character) (line ++ '\n' :: rest) =
      expression.readingsAt (some '\n') rest := by
  induction line generalizing character with
  | nil => exact readingsAt_of_none (anchored.matchAt_eq_none other _ 0)
  | cons head line induction =>
      rw [List.cons_append, readingsAt_of_none (anchored.matchAt_eq_none other _ 0)]
      obtain ⟨isOther, areOther⟩ := List.ne_and_not_mem_of_not_mem_cons inLine
      exact induction (Ne.symm isOther) areOther

theorem shifts_agree (anchored : expression.IsAnchored) :
    ∀ place ∈ expression.conditions, ∀ ⦃outcome later : Attempt⦄,
      outcome.Shifts (Option.all (· == '\n')) 0 [] later →
        place.holds later.cursor = place.holds outcome.cursor := by
  intro place member outcome later shifts
  have same : later.cursor.rest = outcome.cursor.rest := shifts.rest.trans (List.append_nil _)
  rcases anchored.lines place member with rfl | rfl
  · exact shifts.before
  · exact congrArg (fun rest : List Char => rest.head?.all (· == '\n')) same

/-- Of what precedes a place only that counts whether a line starts there. -/
theorem readingsAt_congr (anchored : expression.IsAnchored)
    (same : other.all (· == '\n') = before.all (· == '\n')) (text : List Char) :
    expression.readingsAt other text = expression.readingsAt before text := by
  induction size : text.length using Nat.strongRecOn generalizing before other text with
  | ind length induction =>
      have begins : (Attempt.start ⟨before, text, 0⟩).Shifts (Option.all (· == '\n')) 0 []
          (.start ⟨other, text, 0⟩) := ⟨same, (List.append_nil _).symm, rfl, rfl⟩
      rcases expression.matchAt_contained [] anchored.shifts_agree begins
          fun _ _ => Nat.zero_le _ with
        ⟨isHit, isFound⟩ | ⟨hit, found, isHit, isFound, reading, remains, sameBehind⟩
      · cases text with
        | nil => rw [readingsAt_nil anchored.needs, readingsAt_nil anchored.needs]
        | cons character rest => rw [readingsAt_of_none isHit, readingsAt_of_none isFound]
      · rw [List.nil_append, List.append_nil] at reading
        rw [List.append_nil] at remains
        rw [readingsAt_of_some anchored.needs isHit, readingsAt_of_some anchored.needs isFound,
          reading, remains]
        exact congrArg (hit.reading text :: ·) (induction _
          (size ▸ matchAt_shorter anchored.needs isHit) sameBehind _ rfl)

theorem readingsAt_lineFeed (anchored : expression.IsAnchored) (text : List Char) :
    expression.readingsAt (some '\n') text = expression.readingsAt none text := by
  have same : (some '\n').all (· == '\n') = (none : Option Char).all (· == '\n') := rfl
  exact anchored.readingsAt_congr same text

/-- A line at whose start nothing is found is skipped. -/
theorem readingsAt_of_none_line (anchored : expression.IsAnchored) (inLine : '\n' ∉ line)
    (nothing : expression.matchAt? ⟨none, line ++ '\n' :: rest, 0⟩ = none) :
    expression.readingsAt none (line ++ '\n' :: rest) = expression.readingsAt none rest := by
  rw [← anchored.readingsAt_lineFeed rest]
  cases line with
  | nil => exact readingsAt_of_none nothing
  | cons head line =>
      obtain ⟨isOther, areOther⟩ := List.ne_and_not_mem_of_not_mem_cons inLine
      rw [List.cons_append] at nothing ⊢
      rw [readingsAt_of_none nothing]
      exact anchored.readingsAt_within_append (Ne.symm isOther) areOther rest

theorem readingsAt_of_none_last (anchored : expression.IsAnchored) (inLine : '\n' ∉ line)
    (nothing : expression.matchAt? ⟨none, line, 0⟩ = none) :
    expression.readingsAt none line = [] := by
  cases line with
  | nil => exact readingsAt_nil anchored.needs none
  | cons head line =>
      obtain ⟨isOther, areOther⟩ := List.ne_and_not_mem_of_not_mem_cons inLine
      rw [readingsAt_of_none nothing]
      exact anchored.readingsAt_within (Ne.symm isOther) areOther

section

variable {asked : List Char → Prop}
  (begins : ∀ {text before}, ¬ asked text → expression.matchAt? ⟨before, text, 0⟩ = none)
  (misses : Misses (fun text => ∃ late, text = '\n' :: late ∧ asked late) (character :: line)
    ('\n' :: rest))

include begins misses

theorem matchAt_of_misses (anchored : expression.IsAnchored) :
    expression.matchAt? ⟨some character, line ++ '\n' :: rest, 0⟩ = none := by
  by_cases isBreak : character = '\n'
  · exact begins fun isAsked => (misses_cons.mp misses).1 ⟨_, by rw [isBreak]; rfl, isAsked⟩
  · exact anchored.matchAt_eq_none isBreak _ 0

/-- Nothing is found up to the end of a line if no line in between begins like a match. -/
theorem readingsAt_of_misses (anchored : expression.IsAnchored) :
    expression.readingsAt (some character) (line ++ '\n' :: rest) =
      expression.readingsAt none rest := by
  have nothing := matchAt_of_misses begins misses anchored
  induction line generalizing character with
  | nil => rw [List.nil_append, readingsAt_of_none nothing, anchored.readingsAt_lineFeed]
  | cons head line induction =>
      have areLater := (misses_cons.mp misses).2
      rw [List.cons_append] at nothing ⊢
      rw [readingsAt_of_none nothing,
        induction areLater (matchAt_of_misses begins areLater anchored)]

end

/-- A block is scanned apart from what follows if its first match does not get out of it and no
other line of it begins like a match. -/
theorem readingsAt_block (anchored : expression.IsAnchored) {asked : List Char → Prop}
    {block : List Char} {hit : Match}
    (starts : ∀ place ∈ expression.conditions, place = .lineStart false)
    (begins : ∀ {text before}, ¬ asked text → expression.matchAt? ⟨before, text, 0⟩ = none)
    (isHit : expression.matchAt? ⟨none, block, 0⟩ = some hit)
    (misses : Misses (fun text => ∃ late, text = '\n' :: late ∧ asked late) block ('\n' :: rest))
    (spares : ∀ found, expression.matchAt? ⟨none, block ++ '\n' :: rest, 0⟩ = some found →
      ('\n' :: rest).length ≤ found.behind.rest.length) :
    expression.readingsAt none (block ++ '\n' :: rest) =
      hit.reading block :: expression.readingsAt none rest := by
  have shifted : (Attempt.start ⟨none, block, 0⟩).Shifts id ([] : List Char).length ('\n' :: rest)
      (.start ⟨none, block ++ '\n' :: rest, 0⟩) := ⟨rfl, rfl, rfl, rfl⟩
  rcases expression.matchAt_contained [] (fun place member _ _ shifts => by
      rw [starts place member]
      exact congrArg (Option.all (· == '\n')) shifts.before) shifted spares with
    ⟨nothing, -⟩ | ⟨first, found, isFirst, isFound, reading, remains, -⟩
  · rw [nothing] at isHit
    cases isHit
  · obtain rfl := Option.some.inj (isFirst.symm.trans isHit)
    have shorter := matchAt_shorter anchored.needs isFirst
    rw [readingsAt_of_some anchored.needs isFound, ← List.nil_append block, reading, remains]
    refine congrArg (_ :: ·) ?_
    obtain ⟨outcome, member, rfl⟩ := of_matchAt isFound
    obtain ⟨taken, reads⟩ := (expression.advances_outcomes _ outcome member).exists_reads
    have isBlock : block = taken ++ first.behind.rest := by
      have whole : block ++ '\n' :: rest = taken ++ outcome.rest := reads.rest
      rw [show outcome.rest = first.behind.rest ++ '\n' :: rest from remains,
        ← List.append_assoc] at whole
      exact List.append_cancel_right whole
    rcases List.eq_nil_or_concat' taken with rfl | ⟨early, last, rfl⟩
    · rw [isBlock] at shorter
      exact absurd shorter (Nat.lt_irrefl _)
    · have isLast : outcome.cursor.before = some last := by
        rw [reads.before, List.getLast?_concat, Option.some_or]
      rw [isBlock, List.append_assoc, List.singleton_append] at misses
      rw [isLast]
      exact anchored.readingsAt_of_misses begins misses.behind

end IsAnchored

end Expression

end Grading.Pattern
