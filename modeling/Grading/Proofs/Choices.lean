import Grading.Proofs.Preference
import Grading.Report.Summary

namespace Grading.Pattern

/-! All choices that the parts of an expression have, and the one that a reluctant run prefers: it
ends at the first place where what follows fits. -/

/-! ## The text between two outcomes -/

namespace Attempt

/-- The later outcome is behind this text. -/
structure Reads (taken : List Char) (outcome later : Attempt) : Prop where
  rest : outcome.rest = taken ++ later.rest
  before : later.cursor.before = taken.getLast?.or outcome.cursor.before
  position : later.cursor.position = outcome.cursor.position + taken.length

variable {outcome middle later : Attempt} {taken more run behind : List Char}

namespace Reads

theorem refl (outcome : Attempt) : Reads [] outcome outcome := ⟨rfl, rfl, rfl⟩

theorem remains (reads : Reads taken outcome later) (here : outcome.rest = taken ++ behind) :
    later.rest = behind :=
  List.append_cancel_left (reads.rest.symm.trans here)

theorem trans (reads : Reads taken outcome middle) (others : Reads more middle later) :
    Reads (taken ++ more) outcome later where
  rest := by rw [reads.rest, others.rest, List.append_assoc]
  before := by rw [others.before, reads.before, List.getLast?_append, Option.or_assoc]
  position := by rw [others.position, reads.position, List.length_append, Nat.add_assoc]

theorem mark (reads : Reads taken outcome later) (slot : Nat) :
    Reads taken outcome (later.mark slot) :=
  ⟨reads.rest, reads.before, reads.position⟩

theorem of_mark {slot : Nat} (reads : Reads taken (outcome.mark slot) later) :
    Reads taken outcome later :=
  ⟨reads.rest, reads.before, reads.position⟩

theorem next {character : Char} (here : outcome.rest = character :: behind) :
    Reads [character] outcome outcome.next where
  rest := by rw [here, rest_next, here]; rfl
  before := before_next here
  position := position_next (here ▸ List.cons_ne_nil _ _)

theorem skip (here : outcome.rest = run ++ behind) :
    Reads run outcome (outcome.skip run.length) := by
  induction run generalizing outcome with
  | nil => exact refl outcome
  | cons character run induction =>
      exact (next here).trans (induction (rest_next_of_cons here))

end Reads

theorem skip_skip (first second : Nat) (outcome : Attempt) :
    (outcome.skip first).skip second = outcome.skip (first + second) := by
  induction first generalizing outcome with
  | zero => rw [Nat.zero_add, Attempt.skip]
  | succ first induction => rw [Nat.add_right_comm, Attempt.skip, Attempt.skip, induction]

theorem Reaches.exists_reads (reaches : outcome.Reaches later) :
    ∃ taken, Reads taken outcome later := by
  induction reaches with
  | refl => exact ⟨[], .refl outcome⟩
  | next _ more induction =>
      obtain ⟨taken, reads⟩ := induction
      obtain ⟨character, behind, here⟩ := List.exists_cons_of_ne_nil more
      exact ⟨taken ++ [character], reads.trans (.next here)⟩
  | mark _ slot induction =>
      obtain ⟨taken, reads⟩ := induction
      exact ⟨taken, reads.mark slot⟩

/-- Whether a line starts here. -/
def IsAtLineStart (outcome : Attempt) : Prop := outcome.cursor.before.all (· == '\n') = true

end Attempt

/-! ## Choices -/

namespace Expression

open Attempt

variable {outcome later : Attempt} {first second : Expression} {rest : List Expression}
  {set : CharSet} {run behind : List Char} {greedy : Bool}

theorem mem_concatAll_cons :
    later ∈ (concatAll (first :: rest)).outcomes outcome ↔
      ∃ middle ∈ first.outcomes outcome, later ∈ (concatAll rest).outcomes middle := by
  rw [outcomes_concatAll_cons, List.mem_flatMap]

theorem mem_group {index : Nat} :
    later ∈ (group index first).outcomes outcome ↔
      ∃ closed ∈ first.outcomes (outcome.mark (2 * index)),
        later = closed.mark (2 * index + 1) := by
  rw [outcomes, List.mem_map]
  exact exists_congr fun _ => and_congr_right fun _ => eq_comm

theorem mem_condition {place : Condition} :
    later ∈ (condition place).outcomes outcome ↔
      place.holds outcome.cursor = true ∧ later = outcome := by
  rw [outcomes]
  split <;> simp [*]

theorem outcomes_anyNumber (first : Expression) (greedy : Bool) :
    (loop first 0 none greedy).outcomes = anyTimes greedy first.outcomes := by
  funext outcome
  rw [outcomes]

/-- One round and then others, or none at all. -/
theorem mem_anyNumber (takes : Takes first.outcomes) :
    later ∈ (loop first 0 none greedy).outcomes outcome ↔
      (∃ middle ∈ first.outcomes outcome,
        later ∈ (loop first 0 none greedy).outcomes middle) ∨ later = outcome := by
  rw [outcomes_anyNumber, anyTimes_of_takes greedy takes, mem_prefer, List.mem_flatMap]

theorem outcomes_greedy (takes : Takes first.outcomes) (outcome : Attempt) :
    (loop first 0 none true).outcomes outcome =
      (first.outcomes outcome).flatMap (loop first 0 none true).outcomes ++ [outcome] := by
  rw [outcomes_anyNumber, anyTimes_of_takes true takes, prefer, if_pos rfl]

theorem outcomes_perhaps (first : Expression) (greedy : Bool) (outcome : Attempt) :
    (loop first 0 (some 1) greedy).outcomes outcome =
      prefer greedy (first.outcomes outcome) outcome := by
  have once : (loop first 0 (some 1) greedy).outcomes outcome =
      prefer greedy ((first.outcomes outcome).flatMap fun later => [later]) outcome := by
    rw [outcomes]
    exact List.flatMap_singleton _ _
  rw [once, List.flatMap_singleton']

/-! ## Texts that an expression takes -/

/-- Whether an expression takes the texts of this kind wherever they follow, and no others. -/
structure IsMetBy (expression : Expression) (kind : List Char → Prop) : Prop where
  kind_of_mem : ∀ ⦃outcome later : Attempt⦄, later ∈ expression.outcomes outcome →
    ∃ run, kind run ∧ Reads run outcome later
  exists_mem : ∀ ⦃outcome : Attempt⦄ ⦃run behind : List Char⦄, kind run →
    outcome.rest = run ++ behind → ∃ later ∈ expression.outcomes outcome, Reads run outcome later

/-- One character of a set. -/
def IsOne (set : CharSet) (run : List Char) : Prop :=
  ∃ character, set.contains character = true ∧ run = [character]

/-- Any number of characters of a set. -/
def IsRun (set : CharSet) (run : List Char) : Prop :=
  ∀ character ∈ run, set.contains character = true

theorem isMetBy_literal (text : String) : (literal text).IsMetBy (· = text.toList) where
  kind_of_mem := by
    intro outcome later member
    rw [outcomes_literal] at member
    split at member
    · rename_i isPrefix
      obtain ⟨behind, here⟩ := isPrefix
      obtain rfl := List.mem_singleton.mp member
      exact ⟨_, rfl, .skip here.symm⟩
    · cases member
  exists_mem := by
    rintro outcome _ behind rfl here
    refine ⟨_, ?_, .skip here⟩
    rw [outcomes_literal, if_pos ⟨behind, here.symm⟩]
    exact List.mem_singleton_self _

theorem isMetBy_one (set : CharSet) : (one set).IsMetBy (IsOne set) where
  kind_of_mem := by
    intro outcome later member
    obtain ⟨character, behind, here, accepts, rfl⟩ := mem_consume.mp member
    exact ⟨_, ⟨character, accepts, rfl⟩, .next here⟩
  exists_mem := by
    rintro outcome _ behind ⟨character, accepts, rfl⟩ here
    exact ⟨_, mem_consume.mpr ⟨character, behind, here, accepts, rfl⟩, .next here⟩

namespace IsMetBy

variable {kind other : List Char → Prop}

theorem congr (met : first.IsMetBy kind) (same : ∀ text, kind text ↔ other text) :
    first.IsMetBy other := by
  rwa [show other = kind from funext fun text => propext (same text).symm]

theorem group (met : first.IsMetBy kind) (index : Nat) : (group index first).IsMetBy kind where
  kind_of_mem := by
    intro outcome later member
    obtain ⟨closed, isClosed, rfl⟩ := mem_group.mp member
    obtain ⟨run, isKind, reads⟩ := met.kind_of_mem isClosed
    exact ⟨run, isKind, reads.of_mark.mark _⟩
  exists_mem := by
    intro outcome run behind isKind here
    obtain ⟨closed, isClosed, reads⟩ :=
      met.exists_mem isKind (show (outcome.mark (2 * index)).rest = _ from here)
    exact ⟨_, mem_group.mpr ⟨closed, isClosed, rfl⟩, reads.of_mark.mark _⟩

theorem concat (met : first.IsMetBy kind) (also : second.IsMetBy other) :
    (concat first second).IsMetBy fun text =>
      ∃ early late, kind early ∧ other late ∧ text = early ++ late where
  kind_of_mem := by
    intro outcome later member
    obtain ⟨middle, isFirst, isSecond⟩ := List.mem_flatMap.mp member
    obtain ⟨early, isKind, reads⟩ := met.kind_of_mem isFirst
    obtain ⟨late, isOther, others⟩ := also.kind_of_mem isSecond
    exact ⟨_, ⟨early, late, isKind, isOther, rfl⟩, reads.trans others⟩
  exists_mem := by
    rintro outcome _ behind ⟨early, late, isKind, isOther, rfl⟩ here
    rw [List.append_assoc] at here
    obtain ⟨middle, isFirst, reads⟩ := met.exists_mem isKind here
    have remains := reads.remains here
    obtain ⟨later, isSecond, others⟩ := also.exists_mem isOther remains
    exact ⟨later, List.mem_flatMap.mpr ⟨middle, isFirst, isSecond⟩, reads.trans others⟩

theorem either (met : first.IsMetBy kind) (also : second.IsMetBy other) :
    (either first second).IsMetBy fun text => kind text ∨ other text where
  kind_of_mem := by
    intro outcome later member
    rcases List.mem_append.mp member with isFirst | isSecond
    · obtain ⟨run, isKind, reads⟩ := met.kind_of_mem isFirst
      exact ⟨run, .inl isKind, reads⟩
    · obtain ⟨run, isOther, reads⟩ := also.kind_of_mem isSecond
      exact ⟨run, .inr isOther, reads⟩
  exists_mem := by
    rintro outcome run behind (isKind | isOther) here
    · obtain ⟨later, isFirst, reads⟩ := met.exists_mem isKind here
      exact ⟨later, List.mem_append_left _ isFirst, reads⟩
    · obtain ⟨later, isSecond, reads⟩ := also.exists_mem isOther here
      exact ⟨later, List.mem_append_right _ isSecond, reads⟩

theorem perhaps (met : first.IsMetBy kind) (greedy : Bool) :
    (loop first 0 (some 1) greedy).IsMetBy fun run => run = [] ∨ kind run where
  kind_of_mem := by
    intro outcome later member
    rw [outcomes_perhaps, mem_prefer] at member
    rcases member with isFirst | rfl
    · obtain ⟨run, isKind, reads⟩ := met.kind_of_mem isFirst
      exact ⟨run, .inr isKind, reads⟩
    · exact ⟨[], .inl rfl, .refl _⟩
  exists_mem := by
    rintro outcome run behind isRun here
    rw [outcomes_perhaps]
    rcases isRun with rfl | isKind
    · exact ⟨outcome, mem_prefer.mpr (.inr rfl), .refl _⟩
    · obtain ⟨later, isFirst, reads⟩ := met.exists_mem isKind here
      exact ⟨later, mem_prefer.mpr (.inl isFirst), reads⟩

theorem takes (met : first.IsMetBy (IsOne set)) : Takes first.outcomes := by
  intro outcome later member
  obtain ⟨_, ⟨character, -, rfl⟩, reads⟩ := met.kind_of_mem member
  rw [reads.rest]
  exact Nat.lt_succ_self _

theorem anyNumber (met : first.IsMetBy (IsOne set)) (greedy : Bool) :
    (loop first 0 none greedy).IsMetBy (IsRun set) where
  kind_of_mem := by
    intro outcome later member
    induction size : outcome.rest.length using Nat.strongRecOn generalizing outcome with
    | ind length induction =>
        rcases (mem_anyNumber met.takes).mp member with ⟨middle, isFirst, further⟩ | rfl
        · obtain ⟨_, ⟨character, accepts, rfl⟩, reads⟩ := met.kind_of_mem isFirst
          obtain ⟨run, isRun, others⟩ :=
            induction _ (size ▸ met.takes outcome middle isFirst) further rfl
          exact ⟨_, List.forall_mem_cons.mpr ⟨accepts, isRun⟩, reads.trans others⟩
        · exact ⟨[], List.forall_mem_nil _, .refl _⟩
  exists_mem := by
    intro outcome run behind isRun here
    induction run generalizing outcome with
    | nil => exact ⟨outcome, (mem_anyNumber met.takes).mpr (.inr rfl), .refl _⟩
    | cons character run induction =>
        obtain ⟨isFirst, areLater⟩ := List.forall_mem_cons.mp isRun
        obtain ⟨middle, isMiddle, reads⟩ :=
          met.exists_mem ⟨character, isFirst, rfl⟩ (here : _ = [character] ++ (run ++ behind))
        have remains := reads.remains here
        obtain ⟨later, isLater, others⟩ := induction areLater remains
        exact ⟨later, (mem_anyNumber met.takes).mpr (.inl ⟨middle, isMiddle, isLater⟩),
          reads.trans others⟩

theorem oneOrMore (met : first.IsMetBy (IsOne set)) (greedy : Bool) :
    (loop first 1 none greedy).IsMetBy fun run => run ≠ [] ∧ IsRun set run := by
  have rounds : (loop first 1 none greedy).outcomes =
      (Expression.concat first (loop first 0 none greedy)).outcomes := by
    funext outcome
    rw [outcomes, outcomes, outcomes_anyNumber]
    exact List.flatMap_singleton _ _
  have isMet := (met.concat (met.anyNumber greedy)).congr fun text =>
    show (∃ early late, IsOne set early ∧ IsRun set late ∧ text = early ++ late) ↔
        text ≠ [] ∧ IsRun set text by
      constructor
      · rintro ⟨_, late, ⟨character, accepts, rfl⟩, isRun, rfl⟩
        exact ⟨List.cons_ne_nil _ _, List.forall_mem_cons.mpr ⟨accepts, isRun⟩⟩
      · rintro ⟨filled, isRun⟩
        obtain ⟨character, late, rfl⟩ := List.exists_cons_of_ne_nil filled
        obtain ⟨isFirst, areLater⟩ := List.forall_mem_cons.mp isRun
        exact ⟨[character], late, ⟨character, isFirst, rfl⟩, areLater, rfl⟩
  constructor
  · rw [rounds]
    exact isMet.kind_of_mem
  · rw [rounds]
    exact isMet.exists_mem

theorem exactly (met : first.IsMetBy (IsOne set)) (count : Nat) (greedy : Bool) :
    (loop first count (some count) greedy).IsMetBy fun run =>
      run.length = count ∧ IsRun set run := by
  have rounds : (loop first count (some count) greedy).outcomes = times first.outcomes count := by
    funext outcome
    rw [outcomes, Nat.sub_self]
    exact List.flatMap_singleton' _
  constructor
  · rw [rounds]
    clear rounds
    intro outcome later member
    induction count generalizing outcome with
    | zero =>
        obtain rfl := List.mem_singleton.mp member
        exact ⟨[], ⟨rfl, List.forall_mem_nil _⟩, .refl _⟩
    | succ count induction =>
        obtain ⟨middle, isFirst, further⟩ := List.mem_flatMap.mp member
        obtain ⟨_, ⟨character, accepts, rfl⟩, reads⟩ := met.kind_of_mem isFirst
        obtain ⟨run, ⟨length, isRun⟩, others⟩ := induction further
        exact ⟨_, ⟨congrArg (· + 1) length, List.forall_mem_cons.mpr ⟨accepts, isRun⟩⟩,
          reads.trans others⟩
  · rw [rounds]
    rintro outcome run behind ⟨rfl, isRun⟩ here
    clear rounds
    induction run generalizing outcome with
    | nil => exact ⟨outcome, List.mem_singleton_self _, .refl _⟩
    | cons character run induction =>
        obtain ⟨isFirst, areLater⟩ := List.forall_mem_cons.mp isRun
        obtain ⟨middle, isMiddle, reads⟩ :=
          met.exists_mem ⟨character, isFirst, rfl⟩ (here : _ = [character] ++ (run ++ behind))
        have remains := reads.remains here
        obtain ⟨later, isLater, others⟩ := induction areLater remains
        exact ⟨later, List.mem_flatMap.mpr ⟨middle, isMiddle, isLater⟩, reads.trans others⟩

end IsMetBy

variable {kind : List Char → Prop}

/-- A sequence is followed part by part. -/
theorem IsMetBy.of_mem_cons (met : first.IsMetBy kind)
    (member : later ∈ (concatAll (first :: rest)).outcomes outcome) :
    ∃ run middle, kind run ∧ Reads run outcome middle ∧
      later ∈ (concatAll rest).outcomes middle := by
  obtain ⟨middle, isFirst, isLater⟩ := mem_concatAll_cons.mp member
  obtain ⟨run, isKind, reads⟩ := met.kind_of_mem isFirst
  exact ⟨run, middle, isKind, reads, isLater⟩

theorem IsMetBy.cons_ne_nil (met : first.IsMetBy kind) (isKind : kind run)
    (here : outcome.rest = run ++ behind)
    (fits : ∀ middle, Reads run outcome middle → (concatAll rest).outcomes middle ≠ []) :
    (concatAll (first :: rest)).outcomes outcome ≠ [] := by
  obtain ⟨middle, isFirst, reads⟩ := met.exists_mem isKind here
  obtain ⟨later, isLater⟩ := List.exists_mem_of_ne_nil _ (fits middle reads)
  exact List.ne_nil_of_mem (mem_concatAll_cons.mpr ⟨middle, isFirst, isLater⟩)

theorem mem_cons_condition {place : Condition} :
    later ∈ (concatAll (condition place :: rest)).outcomes outcome ↔
      place.holds outcome.cursor = true ∧ later ∈ (concatAll rest).outcomes outcome := by
  rw [mem_concatAll_cons]
  constructor
  · rintro ⟨middle, isPlace, isLater⟩
    obtain ⟨holds, rfl⟩ := mem_condition.mp isPlace
    exact ⟨holds, isLater⟩
  · rintro ⟨holds, isLater⟩
    exact ⟨_, mem_condition.mpr ⟨holds, rfl⟩, isLater⟩

theorem cons_condition_ne_nil {place : Condition} (holds : place.holds outcome.cursor = true)
    (fits : (concatAll rest).outcomes outcome ≠ []) :
    (concatAll (condition place :: rest)).outcomes outcome ≠ [] := by
  obtain ⟨later, isLater⟩ := List.exists_mem_of_ne_nil _ fits
  exact List.ne_nil_of_mem (mem_cons_condition.mpr ⟨holds, isLater⟩)

/-! ## Preferences -/

/-- The preferred way on from several outcomes begins at one of them. -/
theorem exists_of_head?_flatMap {next : Attempt → List Attempt} {outcomes : List Attempt}
    (isFirst : (outcomes.flatMap next).head? = some later) :
    ∃ middle ∈ outcomes, Prefers next middle later := by
  rw [List.head?_flatMap] at isFirst
  exact List.exists_of_findSome?_eq_some isFirst

theorem IsMetBy.of_prefers_cons (met : first.IsMetBy kind)
    (prefers : Prefers (concatAll (first :: rest)).outcomes outcome later) :
    ∃ run middle, kind run ∧ Reads run outcome middle ∧
      Prefers (concatAll rest).outcomes middle later := by
  rw [outcomes_concatAll_cons] at prefers
  obtain ⟨middle, isFirst, isLater⟩ := exists_of_head?_flatMap prefers
  obtain ⟨run, isKind, reads⟩ := met.kind_of_mem isFirst
  exact ⟨run, middle, isKind, reads, isLater⟩

theorem of_prefers_cons_condition {place : Condition}
    (prefers : Prefers (concatAll (condition place :: rest)).outcomes outcome later) :
    place.holds outcome.cursor = true ∧ Prefers (concatAll rest).outcomes outcome later := by
  rw [outcomes_concatAll_cons] at prefers
  obtain ⟨middle, isPlace, isLater⟩ := exists_of_head?_flatMap prefers
  obtain ⟨holds, rfl⟩ := mem_condition.mp isPlace
  exact ⟨holds, isLater⟩

theorem prefers_perhaps (prefers : Prefers first.outcomes outcome later) :
    Prefers (loop first 0 (some 1) true).outcomes outcome later := by
  rw [Prefers, outcomes_perhaps, prefer, if_pos rfl, List.head?_append, prefers]
  rfl

theorem prefers_perhaps_not (nothing : first.outcomes outcome = []) :
    Prefers (loop first 0 (some 1) true).outcomes outcome outcome := by
  rw [Prefers, outcomes_perhaps, nothing]
  rfl

/-! ## Reluctant runs -/

theorem outcomes_reluctant (takes : Takes first.outcomes) (outcome : Attempt) :
    (loop first 0 none false).outcomes outcome =
      outcome :: (first.outcomes outcome).flatMap (loop first 0 none false).outcomes := by
  rw [outcomes_anyNumber, anyTimes_of_takes false takes, prefer, if_neg Bool.false_ne_true]

/-- A reluctant run ends at once if what follows fits, and goes on otherwise. -/
theorem prefers_reluctant_iff {next : Attempt → List Attempt} (takes : Takes first.outcomes) :
    Prefers (fun outcome => ((loop first 0 none false).outcomes outcome).flatMap next)
        outcome later ↔
      Prefers next outcome later ∨ next outcome = [] ∧
        Prefers (fun outcome => (first.outcomes outcome).flatMap fun middle =>
          ((loop first 0 none false).outcomes middle).flatMap next) outcome later := by
  rw [Prefers, outcomes_reluctant takes, List.flatMap_cons, List.head?_append, List.flatMap_assoc,
    Prefers, Prefers]
  cases next outcome with
  | nil => simp
  | cons other others => simp

/-- A reluctant run goes no further than to a place where what follows fits. -/
theorem exists_of_prefers_reluctant {next : Attempt → List Attempt}
    (met : first.IsMetBy (IsOne set)) (here : outcome.rest = run ++ behind)
    (fits : ∀ place, Reads run outcome place → next place ≠ [])
    (prefers : Prefers (fun outcome => ((loop first 0 none false).outcomes outcome).flatMap next)
      outcome later) :
    ∃ early late, run = early ++ late ∧ ∃ place ∈ (loop first 0 none false).outcomes outcome,
      Reads early outcome place ∧ place.rest = late ++ behind ∧ Prefers next place later := by
  induction run generalizing outcome with
  | nil =>
      rcases (prefers_reluctant_iff met.takes).mp prefers with isNext | ⟨nothing, -⟩
      · exact ⟨[], [], rfl, outcome, (mem_anyNumber met.takes).mpr (.inr rfl), .refl _, here,
          isNext⟩
      · exact absurd nothing (fits outcome (.refl _))
  | cons character run induction =>
      rcases (prefers_reluctant_iff met.takes).mp prefers with isNext | ⟨-, isLater⟩
      · exact ⟨[], _, rfl, outcome, (mem_anyNumber met.takes).mpr (.inr rfl), .refl _, here, isNext⟩
      · obtain ⟨middle, isMiddle, isLater⟩ := exists_of_head?_flatMap isLater
        obtain ⟨_, ⟨head, -, rfl⟩, reads⟩ := met.kind_of_mem isMiddle
        obtain ⟨rfl, remains⟩ := List.cons.inj (reads.rest.symm.trans here)
        obtain ⟨early, late, rfl, place, isPlace, others, isRest, isNext⟩ :=
          induction remains (fun place others => fits place (reads.trans others)) isLater
        exact ⟨head :: early, late, rfl, place,
          (mem_anyNumber met.takes).mpr (.inl ⟨middle, isMiddle, isPlace⟩), reads.trans others,
          isRest, isNext⟩

theorem exists_of_prefers_cons_reluctant (met : first.IsMetBy (IsOne set))
    (here : outcome.rest = run ++ behind)
    (fits : ∀ place, Reads run outcome place → (concatAll rest).outcomes place ≠ [])
    (prefers : Prefers (concatAll (loop first 0 none false :: rest)).outcomes outcome later) :
    ∃ early late place, run = early ++ late ∧ Reads early outcome place ∧
      place.rest = late ++ behind ∧ Prefers (concatAll rest).outcomes place later := by
  rw [outcomes_concatAll_cons] at prefers
  obtain ⟨early, late, whole, place, -, reads, isRest, isNext⟩ :=
    exists_of_prefers_reluctant met here fits prefers
  exact ⟨early, late, place, whole, reads, isRest, isNext⟩

/-- A reluctant run ends at the first place where what follows fits. -/
theorem prefers_reluctant_then {next : Attempt → List Attempt} (here : outcome.rest = run ++ behind)
    (accepts : ∀ character ∈ run, set.contains character = true)
    (misfits : ∀ early late, run = early ++ late → late ≠ [] →
      next (outcome.skip early.length) = [])
    (fits : Prefers next (outcome.skip run.length) later) :
    Prefers (fun outcome => ((loop (one set) 0 none false).outcomes outcome).flatMap next)
      outcome later := by
  have takes : Takes (one set).outcomes := takes_outcomes rfl
  induction run generalizing outcome with
  | nil => exact (prefers_reluctant_iff takes).mpr (.inl fits)
  | cons character run induction =>
      obtain ⟨isFirst, areLater⟩ := List.forall_mem_cons.mp accepts
      have nothing : next outcome = [] := misfits [] (character :: run) rfl (List.cons_ne_nil _ _)
      have isLater := induction (rest_next_of_cons here) areLater
        (fun early late whole some => misfits (character :: early) late (by rw [whole]; rfl) some)
        fits
      refine (prefers_reluctant_iff takes).mpr (.inr ⟨nothing, ?_⟩)
      rw [Prefers, outcomes_one here isFirst, List.flatMap_singleton]
      exact isLater

end Expression

end Grading.Pattern

namespace Grading.Report

open Pattern

theorem contains_allBut_iff {character : Char} {run : List Char} :
    (∀ other ∈ run, (allBut character).contains other = true) ↔ character ∉ run := by
  simp only [contains_allBut]
  exact ⟨fun all member => all character member rfl, fun absent other member same =>
    absent (same ▸ member)⟩

theorem isMetBy_few {character : Char} :
    (few (allBut character)).IsMetBy fun run => character ∉ run :=
  ((Expression.isMetBy_one _).anyNumber _).congr fun _ => contains_allBut_iff

end Grading.Report
