import Mathlib.Data.List.Basic
import Grading.Pattern.Search

namespace Grading.Pattern

/-! What an expression can come to at a place of a text, in the order of preference. These lists say
what a search has to find, without programs and without what was tried before. -/

/-- How far an attempt at an expression got: a place in the text, and the places remembered on the
way. -/
structure Attempt where
  cursor : Cursor
  marks : Marks

namespace Attempt

def start (cursor : Cursor) : Attempt := ⟨cursor, []⟩

/-- What is left of the text. -/
def rest (outcome : Attempt) : List Char := outcome.cursor.rest

def mark (slot : Nat) (outcome : Attempt) : Attempt :=
  { outcome with marks := (slot, outcome.cursor.position) :: outcome.marks }

@[simp] theorem rest_mark (slot : Nat) (outcome : Attempt) :
    (outcome.mark slot).rest = outcome.rest := rfl

/-- One character further. At the end of a text nothing is further. -/
def next (outcome : Attempt) : Attempt :=
  { outcome with cursor := outcome.cursor.advance?.getD outcome.cursor }

@[simp] theorem rest_next (outcome : Attempt) : outcome.next.rest = outcome.rest.tail := by
  obtain ⟨⟨before, _ | ⟨character, rest⟩, position⟩, marks⟩ := outcome <;> rfl

@[simp] theorem marks_next (outcome : Attempt) : outcome.next.marks = outcome.marks := rfl

theorem position_next {outcome : Attempt} (more : outcome.rest ≠ []) :
    outcome.next.cursor.position = outcome.cursor.position + 1 := by
  obtain ⟨⟨before, _ | ⟨character, rest⟩, position⟩, marks⟩ := outcome
  · exact absurd rfl more
  · rfl

def consume (set : CharSet) (outcome : Attempt) : List Attempt :=
  if outcome.rest.head?.any set.contains then [outcome.next] else []

/-- Trying on and leaving off: `more` comes first if `greedy`. -/
def prefer (greedy : Bool) (more : List Attempt) (outcome : Attempt) : List Attempt :=
  if greedy then more ++ [outcome] else outcome :: more

theorem mem_prefer {greedy : Bool} {more : List Attempt} {outcome other : Attempt} :
    other ∈ prefer greedy more outcome ↔ other ∈ more ∨ other = outcome := by
  cases greedy <;> simp [prefer, or_comm]

section

variable (greedy : Bool) (part : Attempt → List Attempt)

def times : (count : Nat) → Attempt → List Attempt
  | 0, outcome => [outcome]
  | count + 1, outcome => (part outcome).flatMap (times count)

def upTo : (count : Nat) → Attempt → List Attempt
  | 0, outcome => [outcome]
  | count + 1, outcome => prefer greedy ((part outcome).flatMap (upTo count)) outcome

/-- Any number of times, as long as each time takes something of the text. -/
def anyTimes (outcome : Attempt) : List Attempt :=
  prefer greedy ((part outcome).flatMap fun later =>
    if later.rest.length < outcome.rest.length then anyTimes later else []) outcome
termination_by outcome.rest.length

end

end Attempt

namespace Expression

open Attempt

/-- All ways in which the expression can go on from an outcome, the preferred ones first. -/
def outcomes : Expression → Attempt → List Attempt
  | empty, outcome => [outcome]
  | one set, outcome => outcome.consume set
  | condition place, outcome => if place.holds outcome.cursor then [outcome] else []
  | group index inner, outcome =>
      (inner.outcomes (outcome.mark (2 * index))).map (mark (2 * index + 1))
  | concat first second, outcome => (first.outcomes outcome).flatMap second.outcomes
  | either first second, outcome => first.outcomes outcome ++ second.outcomes outcome
  | loop inner 0 none greedy, outcome => anyTimes greedy inner.outcomes outcome
  | loop inner (least + 1) none greedy, outcome =>
      (times inner.outcomes least outcome).flatMap fun last =>
        (inner.outcomes last).flatMap (anyTimes greedy inner.outcomes)
  | loop inner least (some most) greedy, outcome =>
      (times inner.outcomes least outcome).flatMap (upTo greedy inner.outcomes (most - least))

/-- Whether each loop without an upper bound takes something of the text every time. -/
def IsProductive : Expression → Prop
  | empty => True
  | one _ => True
  | condition _ => True
  | group _ inner => inner.IsProductive
  | concat first second => first.IsProductive ∧ second.IsProductive
  | either first second => first.IsProductive ∧ second.IsProductive
  | loop inner _ none _ => inner.IsProductive ∧ inner.isNullable = false
  | loop inner _ (some _) _ => inner.IsProductive

instance decidableIsProductive : (expression : Expression) → Decidable expression.IsProductive
  | empty => .isTrue trivial
  | one _ => .isTrue trivial
  | condition _ => .isTrue trivial
  | group _ inner => inner.decidableIsProductive
  | concat first second =>
      @instDecidableAnd _ _ first.decidableIsProductive second.decidableIsProductive
  | either first second =>
      @instDecidableAnd _ _ first.decidableIsProductive second.decidableIsProductive
  | loop inner _ none _ => @instDecidableAnd _ _ inner.decidableIsProductive inferInstance
  | loop inner _ (some _) _ => inner.decidableIsProductive

end Expression

/-! ## How outcomes come about -/

namespace Attempt

/-- What follows from an outcome character by character, with places remembered on the way. -/
inductive Reaches (outcome : Attempt) : Attempt → Prop
  | refl : Reaches outcome outcome
  | next {later : Attempt} (reaches : Reaches outcome later) (more : later.rest ≠ []) :
      Reaches outcome later.next
  | mark {later : Attempt} (reaches : Reaches outcome later) (slot : Nat) :
      Reaches outcome (later.mark slot)

namespace Reaches

variable {outcome middle later : Attempt}

theorem trans (reaches : outcome.Reaches middle) (others : middle.Reaches later) :
    outcome.Reaches later := by
  induction others with
  | refl => exact reaches
  | next _ more induction => exact .next induction more
  | mark _ slot induction => exact .mark induction slot

theorem rest_suffix (reaches : outcome.Reaches later) : later.rest <:+ outcome.rest := by
  induction reaches with
  | refl => exact List.suffix_refl _
  | next _ _ induction =>
      rw [rest_next]
      exact (List.tail_suffix _).trans induction
  | mark _ _ induction => exact induction

theorem length_le (reaches : outcome.Reaches later) : later.rest.length ≤ outcome.rest.length :=
  reaches.rest_suffix.length_le

end Reaches

/-- A part that only goes on from where it begins. -/
def Advances (part : Attempt → List Attempt) : Prop :=
  ∀ outcome, ∀ later ∈ part outcome, outcome.Reaches later

/-- A part that always takes something of the text. -/
def Takes (part : Attempt → List Attempt) : Prop :=
  ∀ outcome, ∀ later ∈ part outcome, later.rest.length < outcome.rest.length

section

variable {greedy : Bool} {part other : Attempt → List Attempt}

theorem advances_pure : Advances fun outcome => [outcome] := by
  intro outcome later member
  cases List.mem_singleton.mp member
  exact .refl

theorem mem_consume {set : CharSet} {outcome later : Attempt} :
    later ∈ consume set outcome ↔
      ∃ character rest, outcome.rest = character :: rest ∧ set.contains character = true ∧
        later = outcome.next := by
  rw [consume]
  cases outcome.rest with
  | nil => simp
  | cons character rest =>
      by_cases accepts : set.contains character <;> simp [accepts]

theorem advances_consume (set : CharSet) : Advances (consume set) := by
  intro outcome later member
  obtain ⟨character, rest, text, -, rfl⟩ := mem_consume.mp member
  exact .next .refl (text ▸ List.cons_ne_nil _ _)

theorem takes_consume (set : CharSet) : Takes (consume set) := by
  intro outcome later member
  obtain ⟨character, rest, text, -, rfl⟩ := mem_consume.mp member
  rw [rest_next, text]
  exact Nat.lt_succ_self _

theorem Advances.flatMap (first : Advances part) (second : Advances other) :
    Advances fun outcome => (part outcome).flatMap other := by
  intro outcome later member
  rcases List.mem_flatMap.mp member with ⟨middle, isMiddle, isLater⟩
  exact (first outcome middle isMiddle).trans (second middle later isLater)

theorem Takes.flatMap (first : Takes part) (second : Advances other) :
    Takes fun outcome => (part outcome).flatMap other := by
  intro outcome later member
  rcases List.mem_flatMap.mp member with ⟨middle, isMiddle, isLater⟩
  exact Nat.lt_of_le_of_lt (second middle later isLater).length_le (first outcome middle isMiddle)

theorem Advances.flatMap_takes (first : Advances part) (second : Takes other) :
    Takes fun outcome => (part outcome).flatMap other := by
  intro outcome later member
  rcases List.mem_flatMap.mp member with ⟨middle, isMiddle, isLater⟩
  exact Nat.lt_of_lt_of_le (second middle later isLater) (first outcome middle isMiddle).length_le

theorem Advances.prefer (advances : Advances part) :
    Advances fun outcome => Attempt.prefer greedy (part outcome) outcome := by
  intro outcome later member
  rcases mem_prefer.mp member with more | rfl
  · exact advances outcome later more
  · exact .refl

theorem advances_times (advances : Advances part) (count : Nat) :
    Advances (times part count) := by
  induction count with
  | zero => exact advances_pure
  | succ count induction => exact advances.flatMap induction

theorem advances_upTo (advances : Advances part) (count : Nat) :
    Advances (upTo greedy part count) := by
  induction count with
  | zero => exact advances_pure
  | succ count induction => exact (advances.flatMap induction).prefer

theorem advances_anyTimes (advances : Advances part) : Advances (anyTimes greedy part) := by
  intro outcome
  induction size : outcome.rest.length using Nat.strongRecOn generalizing outcome with
  | ind length induction =>
      intro later member
      rw [anyTimes] at member
      rcases mem_prefer.mp member with more | rfl
      · rcases List.mem_flatMap.mp more with ⟨middle, isMiddle, isLater⟩
        split at isLater
        · rename_i shorter
          exact (advances outcome middle isMiddle).trans
            (induction _ (size ▸ shorter) middle rfl later isLater)
        · cases isLater
      · exact .refl

/-- A part that always takes something can be tried again without a look at what is left. -/
theorem anyTimes_of_takes (greedy : Bool) (takes : Takes part) (outcome : Attempt) :
    anyTimes greedy part outcome =
      prefer greedy ((part outcome).flatMap (anyTimes greedy part)) outcome := by
  rw [anyTimes]
  refine congrArg (prefer greedy · outcome) (List.flatMap_congr fun later member => ?_)
  rw [if_pos (takes outcome later member)]

end

end Attempt

namespace Expression

open Attempt

theorem advances_outcomes (expression : Expression) : Advances expression.outcomes := by
  induction expression with
  | empty => exact advances_pure
  | one set => exact advances_consume set
  | condition place =>
      intro outcome later member
      rw [outcomes] at member
      split at member
      · exact advances_pure outcome later member
      · cases member
  | group index inner induction =>
      intro outcome later member
      rcases List.mem_map.mp member with ⟨closed, isClosed, rfl⟩
      exact .mark (.trans (.mark .refl _) (induction _ closed isClosed)) _
  | concat first second firstAdvances secondAdvances => exact firstAdvances.flatMap secondAdvances
  | either first second firstAdvances secondAdvances =>
      intro outcome later member
      rcases List.mem_append.mp member with isFirst | isSecond
      · exact firstAdvances outcome later isFirst
      · exact secondAdvances outcome later isSecond
  | loop inner least most greedy induction =>
      cases most with
      | none =>
          cases least with
          | zero =>
              intro outcome
              rw [outcomes]
              exact advances_anyTimes induction outcome
          | succ least =>
              exact (advances_times induction least).flatMap
                (induction.flatMap (advances_anyTimes induction))
      | some most =>
          intro outcome
          rw [outcomes]
          exact (advances_times induction least).flatMap
            (advances_upTo induction (most - least)) outcome

/-- What cannot be met without characters takes some. -/
theorem takes_outcomes {expression : Expression} (needs : expression.isNullable = false) :
    Takes expression.outcomes := by
  induction expression with
  | empty => cases needs
  | one set => exact takes_consume set
  | condition place => cases needs
  | group index inner induction =>
      intro outcome later member
      rcases List.mem_map.mp member with ⟨closed, isClosed, rfl⟩
      exact induction needs (outcome.mark (2 * index)) closed isClosed
  | concat first second firstTakes secondTakes =>
      rcases Bool.and_eq_false_iff.mp needs with needs | needs
      · exact (firstTakes needs).flatMap second.advances_outcomes
      · exact first.advances_outcomes.flatMap_takes (secondTakes needs)
  | either first second firstTakes secondTakes =>
      rcases Bool.or_eq_false_iff.mp needs with ⟨firstNeeds, secondNeeds⟩
      intro outcome later member
      rcases List.mem_append.mp member with isFirst | isSecond
      · exact firstTakes firstNeeds outcome later isFirst
      · exact secondTakes secondNeeds outcome later isSecond
  | loop inner least most greedy induction =>
      rcases Bool.or_eq_false_iff.mp needs with ⟨some, innerNeeds⟩
      have takes := induction innerNeeds
      have advances := inner.advances_outcomes
      cases least with
      | zero => cases some
      | succ least =>
          cases most with
          | none =>
              exact (advances_times advances least).flatMap_takes
                (takes.flatMap (advances_anyTimes advances))
          | some most =>
              intro outcome
              rw [outcomes]
              exact (takes.flatMap (advances_times advances least)).flatMap
                (advances_upTo advances (most - (least + 1))) outcome

end Expression

end Grading.Pattern
