import Mathlib.Data.List.Forall2
import Grading.Proofs.Search

namespace Grading.Pattern

/-! An expression comes to the same in a part of a text as in the whole text, except for what
reaches behind that part. All its matches in a text are found by a scan, which needs to know of a
place only what follows it and the character before it. -/

/-! ## What stays true from an outcome to those that follow -/

namespace Attempt

variable {part other : Attempt → List Attempt} {holds : Attempt → Prop} {greedy : Bool}

def Keeps (holds : Attempt → Prop) (part : Attempt → List Attempt) : Prop :=
  ∀ outcome, holds outcome → ∀ later ∈ part outcome, holds later

theorem keeps_pure : Keeps holds fun outcome => [outcome] :=
  fun _ isTrue _ member => List.mem_singleton.mp member ▸ isTrue

theorem Keeps.flatMap (first : Keeps holds part) (second : Keeps holds other) :
    Keeps holds fun outcome => (part outcome).flatMap other := by
  intro outcome isTrue later member
  obtain ⟨middle, isMiddle, isLater⟩ := List.mem_flatMap.mp member
  exact second middle (first outcome isTrue middle isMiddle) later isLater

theorem keeps_times (keeps : Keeps holds part) (count : Nat) : Keeps holds (times part count) := by
  induction count with
  | zero => exact keeps_pure
  | succ count induction => exact keeps.flatMap induction

theorem keeps_upTo (keeps : Keeps holds part) (count : Nat) :
    Keeps holds (upTo greedy part count) := by
  induction count with
  | zero => exact keeps_pure
  | succ count induction =>
      intro outcome isTrue later member
      rcases mem_prefer.mp member with more | rfl
      · exact keeps.flatMap induction outcome isTrue later more
      · exact isTrue

theorem keeps_anyTimes (keeps : Keeps holds part) : Keeps holds (anyTimes greedy part) := by
  intro outcome
  induction size : outcome.rest.length using Nat.strongRecOn generalizing outcome with
  | ind length induction =>
      intro isTrue later member
      rw [anyTimes] at member
      rcases mem_prefer.mp member with more | rfl
      · obtain ⟨middle, isMiddle, isLater⟩ := List.mem_flatMap.mp more
        split at isLater
        · rename_i shorter
          exact induction _ (size ▸ shorter) middle rfl (keeps outcome isTrue middle isMiddle)
            later isLater
        · cases isLater
      · exact isTrue

end Attempt

namespace Expression

open Attempt

def sets : Expression → List CharSet
  | empty => []
  | one set => [set]
  | condition _ => []
  | group _ inner => inner.sets
  | concat first second => first.sets ++ second.sets
  | either first second => first.sets ++ second.sets
  | loop inner _ _ _ => inner.sets

def conditions : Expression → List Condition
  | empty => []
  | one _ => []
  | condition place => [place]
  | group _ inner => inner.conditions
  | concat first second => first.conditions ++ second.conditions
  | either first second => first.conditions ++ second.conditions
  | loop inner _ _ _ => inner.conditions

variable {expression : Expression} {holds : Attempt → Prop}

/-- An outcome is made of single steps: a character of a set, or a place that is remembered. -/
theorem keeps_outcomes
    (takes : ∀ set ∈ expression.sets, ∀ outcome, holds outcome →
      outcome.rest.head?.any set.contains = true → holds outcome.next)
    (remembers : ∀ index, expression.hasGroup index = true → ∀ outcome, holds outcome →
      holds (outcome.mark (2 * index)) ∧ holds (outcome.mark (2 * index + 1))) :
    Keeps holds expression.outcomes := by
  induction expression with
  | empty => exact keeps_pure
  | one set =>
      intro outcome isTrue later member
      rw [outcomes, consume] at member
      split at member
      · rename_i accepts
        cases List.mem_singleton.mp member
        exact takes set (List.mem_singleton_self set) outcome isTrue accepts
      · cases member
  | condition place =>
      intro outcome isTrue later member
      rw [outcomes] at member
      split at member
      · exact keeps_pure outcome isTrue later member
      · cases member
  | group index inner induction =>
      have own : (group index inner).hasGroup index = true := by
        rw [hasGroup, beq_self_eq_true, Bool.true_or]
      have keeps := induction takes fun other isInner =>
        remembers other (Bool.or_eq_true_iff.mpr (.inr isInner))
      intro outcome isTrue later member
      obtain ⟨closed, isClosed, rfl⟩ := List.mem_map.mp member
      exact (remembers index own closed
        (keeps _ (remembers index own outcome isTrue).1 closed isClosed)).2
  | concat first second firstKeeps secondKeeps =>
      exact (firstKeeps (fun set member => takes set (List.mem_append_left _ member))
        fun index isFirst => remembers index (Bool.or_eq_true_iff.mpr (.inl isFirst))).flatMap
          (secondKeeps (fun set member => takes set (List.mem_append_right _ member))
            fun index isSecond => remembers index (Bool.or_eq_true_iff.mpr (.inr isSecond)))
  | either first second firstKeeps secondKeeps =>
      intro outcome isTrue later member
      rcases List.mem_append.mp member with isFirst | isSecond
      · exact firstKeeps (fun set member => takes set (List.mem_append_left _ member))
          (fun index isFirst => remembers index (Bool.or_eq_true_iff.mpr (.inl isFirst)))
          outcome isTrue later isFirst
      · exact secondKeeps (fun set member => takes set (List.mem_append_right _ member))
          (fun index isSecond => remembers index (Bool.or_eq_true_iff.mpr (.inr isSecond)))
          outcome isTrue later isSecond
  | loop inner least most greedy induction =>
      have keeps := induction takes remembers
      cases most with
      | none =>
          cases least with
          | zero =>
              intro outcome
              rw [outcomes]
              exact keeps_anyTimes keeps outcome
          | succ least =>
              exact (keeps_times keeps least).flatMap (keeps.flatMap (keeps_anyTimes keeps))
      | some most =>
          intro outcome
          rw [outcomes]
          exact (keeps_times keeps least).flatMap (keeps_upTo keeps (most - least)) outcome

end Expression

/-! ## More text before and behind -/

/-- The same outcome in a text with more characters before and behind it. The character before it
looks the same. -/
structure Attempt.Shifts {α : Type} (view : Option Char → α) (shift : Nat) (tail : List Char)
    (outcome other : Attempt) : Prop where
  before : view other.cursor.before = view outcome.cursor.before
  rest : other.rest = outcome.rest ++ tail
  position : other.cursor.position = outcome.cursor.position + shift
  marks : other.marks = outcome.marks.map (Prod.map id (· + shift))

namespace Attempt

variable {α : Type} {view : Option Char → α} {shift : Nat} {tail : List Char} {greedy : Bool}
  {outcome other : Attempt} {part later : Attempt → List Attempt}

theorem Shifts.mark (shifts : outcome.Shifts view shift tail other) (slot : Nat) :
    (outcome.mark slot).Shifts view shift tail (other.mark slot) where
  before := shifts.before
  rest := shifts.rest
  position := shifts.position
  marks := by
    simp only [Attempt.mark, List.map_cons, Prod.map_apply, id_eq, shifts.position, shifts.marks]

theorem before_next {outcome : Attempt} {character : Char} {behind : List Char}
    (here : outcome.rest = character :: behind) : outcome.next.cursor.before = some character := by
  obtain ⟨⟨before, _ | ⟨head, rest⟩, position⟩, marks⟩ := outcome
  · cases here
  · cases here
    rfl

theorem Shifts.next (shifts : outcome.Shifts view shift tail other) (more : outcome.rest ≠ []) :
    outcome.next.Shifts view shift tail other.next where
  before := by
    obtain ⟨character, behind, here⟩ := List.exists_cons_of_ne_nil more
    rw [before_next here, before_next (shifts.rest.trans (here ▸ List.cons_append))]
  rest := by rw [rest_next, rest_next, shifts.rest, List.tail_append_of_ne_nil more]
  position := by
    have moreToo : other.rest ≠ [] := by
      rw [shifts.rest]
      exact List.append_ne_nil_of_left_ne_nil more tail
    rw [position_next more, position_next moreToo, shifts.position, Nat.add_right_comm]
  marks := shifts.marks

/-- Whether the outcome took nothing of the tail of the text. -/
def spares (tail : List Char) (outcome : Attempt) : Bool := tail.length ≤ outcome.rest.length

theorem Shifts.spares (shifts : outcome.Shifts view shift tail other) :
    other.spares tail = true := by
  rw [Attempt.spares, shifts.rest, List.length_append, decide_eq_true_eq]
  exact Nat.le_add_left _ _

/-- What takes of the tail is never undone. -/
theorem filter_spares_of_advances (advances : Advances part) (takes : other.spares tail = false) :
    (part other).filter (Attempt.spares tail) = [] := by
  refine List.filter_eq_nil_iff.mpr fun later member spared => ?_
  rw [Attempt.spares, decide_eq_true_eq] at spared
  exact of_decide_eq_false takes
    (Nat.le_trans spared (advances other later member).length_le)

/-- A part that comes to the same with a tail behind the text, except for what takes of the tail. -/
def IsContained (view : Option Char → α) (shift : Nat) (tail : List Char)
    (part : Attempt → List Attempt) : Prop :=
  ∀ ⦃outcome other⦄, outcome.Shifts view shift tail other →
    List.Forall₂ (Shifts view shift tail) (part outcome) ((part other).filter (spares tail))

theorem filter_flatMap_spares (advances : Advances later) (outcomes : List Attempt) :
    (outcomes.flatMap later).filter (spares tail) =
      (outcomes.filter (spares tail)).flatMap fun outcome =>
        (later outcome).filter (spares tail) := by
  induction outcomes with
  | nil => rfl
  | cons outcome outcomes induction =>
      rw [List.flatMap_cons, List.filter_append, induction]
      cases spared : outcome.spares tail with
      | true => rw [List.filter_cons_of_pos spared, List.flatMap_cons]
      | false =>
          rw [List.filter_cons_of_neg (Bool.eq_false_iff.mp spared),
            filter_spares_of_advances advances spared, List.nil_append]

theorem IsContained.flatMap (contained : IsContained view shift tail part)
    (also : IsContained view shift tail later) (advances : Advances later) :
    IsContained view shift tail fun outcome => (part outcome).flatMap later := by
  intro outcome other shifts
  simp only [filter_flatMap_spares advances]
  exact List.rel_flatMap (contained shifts) also

theorem forall₂_prefer {more others : List Attempt} (shifts : outcome.Shifts view shift tail other)
    (contained : List.Forall₂ (Shifts view shift tail) more (others.filter (spares tail))) :
    List.Forall₂ (Shifts view shift tail) (prefer greedy more outcome)
      ((prefer greedy others other).filter (spares tail)) := by
  cases greedy with
  | true =>
      rw [prefer, prefer, if_pos rfl, if_pos rfl, List.filter_append,
        List.filter_cons_of_pos shifts.spares]
      exact List.rel_append contained (.cons shifts .nil)
  | false =>
      rw [prefer, prefer, if_neg Bool.false_ne_true, if_neg Bool.false_ne_true,
        List.filter_cons_of_pos shifts.spares]
      exact .cons shifts contained

theorem isContained_pure : IsContained view shift tail fun outcome => [outcome] := by
  intro outcome other shifts
  rw [List.filter_cons_of_pos shifts.spares]
  exact .cons shifts .nil

theorem isContained_consume (set : CharSet) : IsContained view shift tail (consume set) := by
  intro outcome other shifts
  rw [consume, consume, shifts.rest]
  cases text : outcome.rest with
  | nil =>
      -- Only the tail is left, and what takes of it does not count.
      have takes : ∀ later ∈ consume set other, later.spares tail = false := by
        intro later member
        have shorter := takes_consume set other later member
        rw [shifts.rest, text, List.nil_append] at shorter
        exact decide_eq_false (Nat.not_le_of_lt shorter)
      rw [consume, shifts.rest, text] at takes
      rw [List.filter_eq_nil_iff.mpr fun later member => Bool.eq_false_iff.mp (takes later member)]
      exact .nil
  | cons character rest =>
      rw [List.cons_append, List.head?_cons, List.head?_cons]
      have shifts := shifts.next (text ▸ List.cons_ne_nil _ _)
      split
      · rw [List.filter_cons_of_pos shifts.spares]
        exact .cons shifts .nil
      · exact .nil

theorem isContained_times (contained : IsContained view shift tail part) (advances : Advances part)
    (count : Nat) : IsContained view shift tail (times part count) := by
  induction count with
  | zero => exact isContained_pure
  | succ count induction => exact contained.flatMap induction (advances_times advances count)

theorem isContained_upTo (contained : IsContained view shift tail part) (advances : Advances part)
    (count : Nat) : IsContained view shift tail (upTo greedy part count) := by
  induction count with
  | zero => exact isContained_pure
  | succ count induction =>
      exact fun _ _ shifts => forall₂_prefer shifts
        (contained.flatMap induction (advances_upTo advances count) shifts)

theorem isContained_anyTimes (contained : IsContained view shift tail part)
    (advances : Advances part) : IsContained view shift tail (anyTimes greedy part) := by
  intro outcome
  induction size : outcome.rest.length using Nat.strongRecOn generalizing outcome with
  | ind length induction =>
      intro other shifts
      rw [anyTimes, anyTimes]
      refine forall₂_prefer shifts ?_
      have advancesToo : Advances fun later : Attempt =>
          if later.rest.length < other.rest.length then anyTimes greedy part later else [] := by
        intro outcome later member
        beta_reduce at member
        split at member
        · exact advances_anyTimes advances outcome later member
        · cases member
      rw [filter_flatMap_spares advancesToo]
      refine List.rel_flatMap (contained shifts) fun early late shiftsToo => ?_
      simp only [shifts.rest, shiftsToo.rest, List.length_append, Nat.add_lt_add_iff_right]
      split
      · rename_i shorter
        exact induction _ (size ▸ shorter) rfl shiftsToo
      · exact .nil

end Attempt

namespace Expression

open Attempt

theorem isContained_outcomes {expression : Expression} {α : Type} {view : Option Char → α}
    {shift : Nat} {tail : List Char}
    (agrees : ∀ place ∈ expression.conditions, ∀ ⦃outcome other : Attempt⦄,
      outcome.Shifts view shift tail other →
        place.holds other.cursor = place.holds outcome.cursor) :
    IsContained view shift tail expression.outcomes := by
  induction expression with
  | empty => exact isContained_pure
  | one set => exact isContained_consume set
  | condition place =>
      intro outcome other shifts
      rw [outcomes, outcomes, agrees place (List.mem_singleton_self place) shifts]
      split
      · exact isContained_pure shifts
      · exact .nil
  | group index inner induction =>
      intro outcome other shifts
      rw [outcomes, outcomes, List.filter_map, List.forall₂_map_left_iff,
        List.forall₂_map_right_iff]
      exact (induction agrees (shifts.mark _)).imp fun _ _ closed => closed.mark _
  | concat first second isFirst isSecond =>
      exact (isFirst fun place member => agrees place (List.mem_append_left _ member)).flatMap
        (isSecond fun place member => agrees place (List.mem_append_right _ member))
        second.advances_outcomes
  | either first second isFirst isSecond =>
      intro outcome other shifts
      rw [outcomes, outcomes, List.filter_append]
      exact List.rel_append
        (isFirst (fun place member => agrees place (List.mem_append_left _ member)) shifts)
        (isSecond (fun place member => agrees place (List.mem_append_right _ member)) shifts)
  | loop inner least most greedy induction =>
      have contained := induction agrees
      have advances := inner.advances_outcomes
      cases most with
      | none =>
          cases least with
          | zero =>
              intro outcome other shifts
              rw [outcomes, outcomes]
              exact isContained_anyTimes contained advances shifts
          | succ least =>
              exact (isContained_times contained advances least).flatMap
                (contained.flatMap (isContained_anyTimes contained advances)
                  (advances_anyTimes advances))
                (advances.flatMap (advances_anyTimes advances))
      | some most =>
          intro outcome other shifts
          rw [outcomes, outcomes]
          exact (isContained_times contained advances least).flatMap
            (isContained_upTo contained advances (most - least)) (advances_upTo advances _) shifts

end Expression

end Grading.Pattern
