import Grading.Proofs.Exploration

namespace Grading.Pattern

/-! When an expression is met, whatever is preferred. Unlike the outcomes, this makes sense of loops
whose rounds can take nothing. A program gets through the instructions of an expression in exactly
the ways in which the expression is met. -/

/-! ## Meeting an expression -/

/-- The part is met so many times, one time after the other. -/
inductive Rounds (part : Attempt → Attempt → Prop) : (count : Nat) → Attempt → Attempt → Prop
  | none (outcome : Attempt) : Rounds part 0 outcome outcome
  | more {count : Nat} {outcome middle later : Attempt} (isFirst : part outcome middle)
      (areLater : Rounds part count middle later) : Rounds part (count + 1) outcome later

namespace Rounds

variable {part : Attempt → Attempt → Prop} {count more : Nat} {outcome middle later : Attempt}

theorem append (rounds : Rounds part count outcome middle)
    (others : Rounds part more middle later) :
    Rounds part (count + more) outcome later := by
  induction rounds with
  | none outcome => rwa [Nat.zero_add]
  | more isFirst _ induction =>
      rw [Nat.add_right_comm]
      exact .more isFirst (induction others)

theorem split (rounds : Rounds part (count + more) outcome later) :
    ∃ middle, Rounds part count outcome middle ∧ Rounds part more middle later := by
  induction count generalizing outcome with
  | zero =>
      rw [Nat.zero_add] at rounds
      exact ⟨outcome, .none outcome, rounds⟩
  | succ count induction =>
      rw [Nat.add_right_comm] at rounds
      cases rounds with
      | more isFirst areLater =>
          obtain ⟨middle, early, late⟩ := induction areLater
          exact ⟨middle, .more isFirst early, late⟩

theorem zero_iff : Rounds part 0 outcome later ↔ later = outcome := by
  constructor
  · rintro ⟨⟩
    rfl
  · rintro rfl
    exact .none later

theorem succ_iff : Rounds part (count + 1) outcome later ↔
    ∃ middle, part outcome middle ∧ Rounds part count middle later := by
  constructor
  · rintro ⟨⟩
    exact ⟨_, ‹_›, ‹_›⟩
  · rintro ⟨middle, isFirst, areLater⟩
    exact .more isFirst areLater

theorem keeps {holds : Attempt → Prop}
    (each : ∀ outcome later, part outcome later → holds outcome → holds later)
    (rounds : Rounds part count outcome later) (isTrue : holds outcome) : holds later := by
  induction rounds with
  | none => exact isTrue
  | more isFirst _ induction => exact induction (each _ _ isFirst isTrue)

end Rounds

namespace Expression

/-- Whether the expression can be met from an outcome to a later one. -/
def Meets : Expression → Attempt → Attempt → Prop
  | empty, outcome, later => later = outcome
  | one set, outcome, later => later ∈ outcome.consume set
  | condition place, outcome, later => place.holds outcome.cursor = true ∧ later = outcome
  | group index inner, outcome, later => ∃ closed,
      inner.Meets (outcome.mark (2 * index)) closed ∧ later = closed.mark (2 * index + 1)
  | concat first second, outcome, later => ∃ middle,
      first.Meets outcome middle ∧ second.Meets middle later
  | either first second, outcome, later => first.Meets outcome later ∨ second.Meets outcome later
  | loop inner least most _, outcome, later => ∃ more,
      (∀ bound ∈ most, more ≤ bound - least) ∧ Rounds inner.Meets (least + more) outcome later

end Expression

/-! ## Groups that take part -/

namespace Attempt

/-- Whether a place is remembered under the number. -/
def isMarked (slot : Nat) (outcome : Attempt) : Bool := (outcome.marks.lookup slot).isSome

variable {slot other : Nat} {outcome : Attempt}

theorem isMarked_mark_self (slot : Nat) (outcome : Attempt) :
    (outcome.mark slot).isMarked slot = true := by
  rw [isMarked, mark, List.lookup_cons, beq_self_eq_true]
  rfl

theorem isMarked_mark (other : Nat) (marked : outcome.isMarked slot = true) :
    (outcome.mark other).isMarked slot = true := by
  rw [isMarked, mark, List.lookup_cons]
  split
  · rfl
  · exact marked

end Attempt

namespace Expression

open Attempt

variable {expression : Expression} {outcome later : Attempt} {slot index : Nat}

/-- What was remembered once is remembered from then on, if perhaps for another place. -/
theorem isMarked_of_meets (meets : expression.Meets outcome later)
    (marked : outcome.isMarked slot = true) : later.isMarked slot = true := by
  induction expression generalizing outcome later with
  | empty =>
      obtain rfl := meets
      exact marked
  | one set =>
      obtain ⟨_, _, -, -, rfl⟩ := mem_consume.mp meets
      exact marked
  | condition place =>
      obtain ⟨-, rfl⟩ := meets
      exact marked
  | group index inner induction =>
      obtain ⟨closed, inside, rfl⟩ := meets
      exact isMarked_mark _ (induction inside (isMarked_mark _ marked))
  | concat first second isFirst isSecond =>
      obtain ⟨middle, early, late⟩ := meets
      exact isSecond late (isFirst early marked)
  | either first second isFirst isSecond =>
      rcases meets with meets | meets
      · exact isFirst meets marked
      · exact isSecond meets marked
  | loop inner least most greedy induction =>
      obtain ⟨more, -, rounds⟩ := meets
      exact rounds.keeps (fun _ _ meets => induction meets) marked

/-- Whether the group takes part whenever the expression is met. -/
def engages (index : Nat) : Expression → Bool
  | empty => false
  | one _ => false
  | condition _ => false
  | group number inner => number == index || inner.engages index
  | concat first second => first.engages index || second.engages index
  | either first second => first.engages index && second.engages index
  | loop inner least _ _ => least != 0 && inner.engages index

theorem isMarked_of_engages (engages : expression.engages index = true)
    (meets : expression.Meets outcome later) :
    later.isMarked (2 * index) = true ∧ later.isMarked (2 * index + 1) = true := by
  induction expression generalizing outcome later with
  | empty | one | condition => cases engages
  | group number inner induction =>
      obtain ⟨closed, inside, rfl⟩ := meets
      rcases Bool.or_eq_true_iff.mp engages with same | engages
      · obtain rfl := eq_of_beq same
        have opened := isMarked_of_meets inside (isMarked_mark_self (2 * number) outcome)
        exact ⟨isMarked_mark _ opened, isMarked_mark_self _ closed⟩
      · obtain ⟨first, last⟩ := induction engages inside
        exact ⟨isMarked_mark _ first, isMarked_mark _ last⟩
  | concat first second isFirst isSecond =>
      obtain ⟨middle, early, late⟩ := meets
      rcases Bool.or_eq_true_iff.mp engages with engages | engages
      · obtain ⟨first, last⟩ := isFirst engages early
        exact ⟨isMarked_of_meets late first, isMarked_of_meets late last⟩
      · exact isSecond engages late
  | either first second isFirst isSecond =>
      obtain ⟨early, late⟩ := Bool.and_eq_true_iff.mp engages
      rcases meets with meets | meets
      · exact isFirst early meets
      · exact isSecond late meets
  | loop inner least most greedy induction =>
      obtain ⟨some, engages⟩ := Bool.and_eq_true_iff.mp engages
      obtain ⟨more, -, rounds⟩ := meets
      obtain ⟨least, rfl⟩ := Nat.exists_eq_succ_of_ne_zero (bne_iff_ne.mp some)
      rw [Nat.succ_add] at rounds
      cases rounds with
      | more isFirst areLater =>
          obtain ⟨first, last⟩ := induction engages isFirst
          have each : ∀ slot outcome later, inner.Meets outcome later →
              outcome.isMarked slot = true → later.isMarked slot = true :=
            fun _ _ _ meets => isMarked_of_meets meets
          exact ⟨areLater.keeps (each _) first, areLater.keeps (each _) last⟩

end Expression

/-! ## Steps of a program -/

namespace Thread

def LeadsTo (program : Program) (thread later : Thread) : Prop :=
  ∃ next, thread.step program = .threads next ∧ later ∈ next

/-- The later thread comes of the first one in so many steps. -/
inductive Path (program : Program) : (count : Nat) → Thread → Thread → Prop
  | refl (thread : Thread) : Path program 0 thread thread
  | step {count : Nat} {thread middle later : Thread} (leads : thread.LeadsTo program middle)
      (path : Path program count middle later) : Path program (count + 1) thread later

def ComesTo (program : Program) (thread later : Thread) : Prop :=
  ∃ count, Path program count thread later

variable {program : Program} {count : Nat} {thread middle later final : Thread}
  {next : List Thread}

namespace ComesTo

theorem refl (thread : Thread) : thread.ComesTo program thread := ⟨0, .refl thread⟩

theorem of_step (leads : thread.step program = .threads next) (member : later ∈ next) :
    thread.ComesTo program later :=
  ⟨1, .step ⟨next, leads, member⟩ (.refl later)⟩

theorem trans (comes : thread.ComesTo program middle) (others : middle.ComesTo program later) :
    thread.ComesTo program later := by
  obtain ⟨count, path⟩ := comes
  induction path with
  | refl => exact others
  | step leads _ induction =>
      obtain ⟨total, path⟩ := induction others
      exact ⟨total + 1, .step leads path⟩

end ComesTo

/-- The thread is so many steps away from the end of a match. -/
def Ends (program : Program) (count : Nat) (thread final : Thread) : Prop :=
  Path program count thread final ∧ final.step program = .matched

theorem Ends.of_step (ends : Ends program count thread final)
    (leads : thread.step program = .threads next) :
    ∃ later ∈ next, ∃ fewer < count, Ends program fewer later final := by
  obtain ⟨path, matched⟩ := ends
  cases path with
  | refl =>
      rw [leads] at matched
      cases matched
  | step isStep path =>
      obtain ⟨others, same, member⟩ := isStep
      cases leads.symm.trans same
      exact ⟨_, member, _, Nat.lt_succ_self _, path, matched⟩

end Thread

/-! ## Instructions of an expression -/

open Attempt Thread

/-- What is laid out can be got through just as the part can be met. -/
structure Layout.Carries (program : Program) (layout : Layout)
    (part : Attempt → Attempt → Prop) : Prop where
  leads : ∀ {start next : Nat}, layout start next → ∀ {outcome later : Attempt},
    part outcome later → (outcome.thread start).ComesTo program (later.thread next)
  passes : ∀ {start next : Nat}, layout start next → ∀ {outcome : Attempt} {final : Thread}
    {count : Nat}, Ends program count (outcome.thread start) final →
      ∃ later, part outcome later ∧ ∃ fewer ≤ count, Ends program fewer (later.thread next) final

section

variable {program : Program} {greedy : Bool} {first next decision count : Nat} {outcome : Attempt}
  {final : Thread}

theorem comesTo_choice
    (decides : program.instructions[decision]? = some (Assembly.choice greedy first next))
    (outcome : Attempt) {choice : Nat} (isChoice : choice = first ∨ choice = next) :
    (outcome.thread decision).ComesTo program (outcome.thread choice) := by
  cases greedy with
  | true => exact .of_step (step_fork decides outcome) (by rcases isChoice with rfl | rfl <;> simp)
  | false => exact .of_step (step_fork decides outcome) (by rcases isChoice with rfl | rfl <;> simp)

theorem ends_choice
    (decides : program.instructions[decision]? = some (Assembly.choice greedy first next))
    (ends : Ends program count (outcome.thread decision) final) :
    ∃ choice, (choice = first ∨ choice = next) ∧
      ∃ fewer < count, Ends program fewer (outcome.thread choice) final := by
  cases greedy with
  | true =>
      obtain ⟨later, member, rest⟩ := ends.of_step (step_fork decides outcome)
      rcases List.mem_pair.mp member with rfl | rfl
      · exact ⟨first, .inl rfl, rest⟩
      · exact ⟨next, .inr rfl, rest⟩
  | false =>
      obtain ⟨later, member, rest⟩ := ends.of_step (step_fork decides outcome)
      rcases List.mem_pair.mp member with rfl | rfl
      · exact ⟨next, .inr rfl, rest⟩
      · exact ⟨first, .inl rfl, rest⟩

end

namespace Layout.Carries

variable {program : Program} {first second layout : Layout} {part other : Attempt → Attempt → Prop}

theorem of_iff (carries : layout.Carries program part)
    (same : ∀ outcome later, part outcome later ↔ other outcome later) :
    layout.Carries program other where
  leads wired _ _ meets := carries.leads wired ((same _ _).mpr meets)
  passes wired _ _ _ ends := by
    obtain ⟨later, meets, rest⟩ := carries.passes wired ends
    exact ⟨later, (same _ _).mp meets, rest⟩

theorem of_layout (carries : first.Carries program part)
    (wires : ∀ start next, second start next → first start next) : second.Carries program part where
  leads wired _ _ meets := carries.leads (wires _ _ wired) meets
  passes wired _ _ _ ends := carries.passes (wires _ _ wired) ends

theorem nothing : Layout.Carries program (fun start next => start = next)
    fun outcome later => later = outcome where
  leads := by
    rintro start _ rfl outcome _ rfl
    exact .refl _
  passes := by
    rintro start _ rfl outcome final count ends
    exact ⟨outcome, rfl, count, Nat.le_refl _, ends⟩

theorem one (set : CharSet) : Layout.Carries program
    (fun start next => program.instructions[start]? = some (.consume set next))
    fun outcome later => later ∈ outcome.consume set where
  leads consumes outcome _ isNext :=
    .of_step (step_consume consumes outcome) (List.mem_map_of_mem isNext)
  passes := by
    intro start next consumes outcome final count ends
    obtain ⟨_, member, fewer, less, ends⟩ := ends.of_step (step_consume consumes outcome)
    obtain ⟨later, isNext, rfl⟩ := List.mem_map.mp member
    exact ⟨later, isNext, fewer, Nat.le_of_lt less, ends⟩

theorem condition (place : Condition) : Layout.Carries program
    (fun start next => program.instructions[start]? = some (.check place next))
    fun outcome later => place.holds outcome.cursor = true ∧ later = outcome where
  leads := by
    rintro start next checks _ later ⟨holds, rfl⟩
    exact .of_step (step_check checks later) (by rw [if_pos holds]; exact List.mem_cons_self)
  passes := by
    intro start next checks outcome final count ends
    obtain ⟨_, member, fewer, less, ends⟩ := ends.of_step (step_check checks outcome)
    split at member
    · rename_i holds
      obtain rfl := List.mem_singleton.mp member
      exact ⟨outcome, ⟨holds, rfl⟩, fewer, Nat.le_of_lt less, ends⟩
    · cases member

/-- A part between two places that are remembered. -/
theorem between (carries : layout.Carries program part) (opening closing : Nat) :
    Layout.Carries program (fun start next => ∃ first close,
        program.instructions[start]? = some (.mark opening first) ∧ layout first close ∧
          program.instructions[close]? = some (.mark closing next))
      fun outcome later => ∃ closed, part (outcome.mark opening) closed ∧
        later = closed.mark closing where
  leads := by
    rintro start next ⟨first, close, opens, isInner, closes⟩ outcome _ ⟨closed, inside, rfl⟩
    have opened := ComesTo.of_step (step_mark opens outcome) List.mem_cons_self
    have ended := ComesTo.of_step (step_mark closes closed) List.mem_cons_self
    exact (opened.trans (carries.leads isInner inside)).trans ended
  passes := by
    rintro start next ⟨first, close, opens, isInner, closes⟩ outcome final count ends
    obtain ⟨_, member, fewer, less, ends⟩ := ends.of_step (step_mark opens outcome)
    obtain rfl := List.mem_singleton.mp member
    obtain ⟨closed, inside, fewest, least, ends⟩ := carries.passes isInner ends
    obtain ⟨_, member, last, under, ends⟩ := ends.of_step (step_mark closes closed)
    obtain rfl := List.mem_singleton.mp member
    exact ⟨_, ⟨closed, inside, rfl⟩, last, by omega, ends⟩

/-- One part after the other. -/
theorem append (isFirst : first.Carries program part) (isSecond : second.Carries program other) :
    Layout.Carries program (fun start next => ∃ middle, first start middle ∧ second middle next)
      fun outcome later => ∃ middle, part outcome middle ∧ other middle later where
  leads := by
    rintro start next ⟨between, early, late⟩ outcome later ⟨middle, meets, others⟩
    exact (isFirst.leads early meets).trans (isSecond.leads late others)
  passes := by
    rintro start next ⟨between, early, late⟩ outcome final count ends
    obtain ⟨middle, meets, fewer, less, ends⟩ := isFirst.passes early ends
    obtain ⟨later, others, fewest, least, ends⟩ := isSecond.passes late ends
    exact ⟨later, ⟨middle, meets, others⟩, fewest, Nat.le_trans least less, ends⟩

theorem either (isFirst : first.Carries program part) (isSecond : second.Carries program other) :
    Layout.Carries program (fun start next => ∃ left right,
        program.instructions[start]? = some (.fork left right) ∧ first left next ∧
          second right next)
      fun outcome later => part outcome later ∨ other outcome later where
  leads := by
    rintro start next ⟨left, right, forks, early, late⟩ outcome later (meets | meets)
    · have chosen := ComesTo.of_step (step_fork forks outcome) (List.mem_pair.mpr (.inl rfl))
      exact chosen.trans (isFirst.leads early meets)
    · have chosen := ComesTo.of_step (step_fork forks outcome) (List.mem_pair.mpr (.inr rfl))
      exact chosen.trans (isSecond.leads late meets)
  passes := by
    rintro start next ⟨left, right, forks, early, late⟩ outcome final count ends
    obtain ⟨_, member, fewer, less, ends⟩ := ends.of_step (step_fork forks outcome)
    rcases List.mem_pair.mp member with rfl | rfl
    · obtain ⟨later, meets, fewest, least, ends⟩ := isFirst.passes early ends
      exact ⟨later, .inl meets, fewest, by omega, ends⟩
    · obtain ⟨later, meets, fewest, least, ends⟩ := isSecond.passes late ends
      exact ⟨later, .inr meets, fewest, by omega, ends⟩

/-- A part that can be left out. -/
theorem optional (carries : layout.Carries program part) (greedy : Bool) :
    Layout.Carries program (fun start next => ∃ first,
        program.instructions[start]? = some (Assembly.choice greedy first next) ∧
          layout first next)
      fun outcome later => later = outcome ∨ part outcome later where
  leads := by
    rintro start next ⟨first, decides, isPart⟩ outcome later (rfl | meets)
    · exact comesTo_choice decides later (.inr rfl)
    · exact (comesTo_choice decides outcome (.inl rfl)).trans (carries.leads isPart meets)
  passes := by
    rintro start next ⟨first, decides, isPart⟩ outcome final count ends
    obtain ⟨choice, rfl | rfl, fewer, less, ends⟩ := ends_choice decides ends
    · obtain ⟨later, meets, fewest, least, ends⟩ := carries.passes isPart ends
      exact ⟨later, .inr meets, fewest, by omega, ends⟩
    · exact ⟨outcome, .inl rfl, fewer, Nat.le_of_lt less, ends⟩

/-! ## Instructions of a loop -/

theorem times (carries : layout.Carries program part) (count : Nat) :
    (Layout.times layout count).Carries program (Rounds part count) := by
  induction count with
  | zero => exact nothing.of_iff fun _ _ => Rounds.zero_iff.symm
  | succ count induction => exact (carries.append induction).of_iff fun _ _ => Rounds.succ_iff.symm

theorem upTo (carries : layout.Carries program part) (greedy : Bool) (bound : Nat) :
    (Layout.upTo program.instructions greedy layout bound).Carries program fun outcome later =>
      ∃ count ≤ bound, Rounds part count outcome later := by
  induction bound with
  | zero =>
      refine nothing.of_iff fun outcome later => ⟨fun same => ?_, ?_⟩
      · exact ⟨0, Nat.le_refl 0, Rounds.zero_iff.mpr same⟩
      · rintro ⟨count, none, rounds⟩
        exact Rounds.zero_iff.mp (Nat.le_zero.mp none ▸ rounds)
  | succ bound induction =>
      refine (((carries.append induction).optional greedy).of_layout ?_).of_iff ?_
      · rintro start next ⟨first, rest, decides, isPart, isUpTo⟩
        exact ⟨first, decides, rest, isPart, isUpTo⟩
      · intro outcome later
        constructor
        · rintro (rfl | ⟨middle, isFirst, count, few, areLater⟩)
          · exact ⟨0, Nat.zero_le _, .none later⟩
          · exact ⟨count + 1, Nat.succ_le_succ few, .more isFirst areLater⟩
        · rintro ⟨count, few, rounds⟩
          cases rounds with
          | none => exact .inl rfl
          | more isFirst areLater =>
              exact .inr ⟨_, isFirst, _, Nat.le_of_succ_le_succ few, areLater⟩

/-- Every round takes steps, though not always characters: the induction is on the steps. -/
theorem round (carries : layout.Carries program part) (greedy : Bool) (first : Nat) :
    Layout.Carries program
      (fun decision next => Layout.round program.instructions greedy layout decision first next)
      fun outcome later => ∃ count, Rounds part count outcome later where
  leads := by
    rintro decision next ⟨decides, isPart⟩ outcome later ⟨count, rounds⟩
    induction rounds with
    | none outcome => exact comesTo_choice decides outcome (.inr rfl)
    | more isFirst _ induction =>
        have begun := carries.leads isPart isFirst
        exact ((comesTo_choice decides _ (.inl rfl)).trans begun).trans induction
  passes := by
    rintro decision next ⟨decides, isPart⟩ outcome final total ends
    induction total using Nat.strongRecOn generalizing outcome with
    | ind total induction =>
        obtain ⟨choice, rfl | rfl, fewer, less, ends⟩ := ends_choice decides ends
        · obtain ⟨between, isFirst, fewest, least, ends⟩ := carries.passes isPart ends
          obtain ⟨later, ⟨count, areLater⟩, last, under, ends⟩ :=
            induction fewest (Nat.lt_of_le_of_lt least less) ends
          exact ⟨later, ⟨count + 1, .more isFirst areLater⟩, last, by omega, ends⟩
        · exact ⟨outcome, ⟨0, .none outcome⟩, fewer, Nat.le_of_lt less, ends⟩

/-- A round, and then as many as there are. -/
theorem rounds (carries : layout.Carries program part) (greedy : Bool) :
    Layout.Carries program (fun start next => ∃ decision, layout start decision ∧
        Layout.round program.instructions greedy layout decision start next)
      fun outcome later => ∃ count, Rounds part (count + 1) outcome later where
  leads := by
    rintro start next wired outcome later ⟨count, rounds⟩
    obtain ⟨middle, isFirst, areLater⟩ := Rounds.succ_iff.mp rounds
    exact (carries.append (carries.round greedy start)).leads wired
      ⟨middle, isFirst, count, areLater⟩
  passes := by
    rintro start next wired outcome final count ends
    obtain ⟨later, ⟨middle, isFirst, count, areLater⟩, rest⟩ :=
      (carries.append (carries.round greedy start)).passes wired ends
    exact ⟨later, ⟨count, .more isFirst areLater⟩, rest⟩

theorem loop {inner : Expression} (least : Nat) (most : Option Nat) (greedy : Bool)
    (carries : (inner.wiring program.instructions).Carries program inner.Meets) :
    ((Expression.loop inner least most greedy).wiring program.instructions).Carries program
      (Expression.loop inner least most greedy).Meets := by
  cases most with
  | none =>
      cases least with
      | zero =>
          refine (((carries.rounds greedy).optional greedy).of_layout ?_).of_iff ?_
          · rintro start next ⟨first, decision, -, decides, round⟩
            exact ⟨first, decides, decision, round.2, round⟩
          · intro outcome later
            constructor
            · rintro (rfl | ⟨count, rounds⟩)
              · exact ⟨0, nofun, .none later⟩
              · exact ⟨count + 1, nofun, (Nat.zero_add _).symm ▸ rounds⟩
            · rintro ⟨more, -, met⟩
              rw [Nat.zero_add] at met
              cases met with
              | none => exact .inl rfl
              | more isFirst areLater => exact .inr ⟨_, .more isFirst areLater⟩
      | succ least =>
          refine (((carries.times least).append (carries.rounds greedy)).of_layout ?_).of_iff ?_
          · rintro start next ⟨last, decision, areTimes, round⟩
            exact ⟨last, areTimes, decision, round.2, round⟩
          · intro outcome later
            constructor
            · rintro ⟨middle, early, count, late⟩
              refine ⟨count, nofun, ?_⟩
              rw [Nat.add_right_comm, Nat.add_assoc]
              exact early.append late
            · rintro ⟨more, -, met⟩
              rw [Nat.add_right_comm, Nat.add_assoc] at met
              obtain ⟨middle, early, late⟩ := met.split
              exact ⟨middle, early, more, late⟩
  | some most =>
      refine (((carries.times least).append (carries.upTo greedy (most - least))).of_layout
        ?_).of_iff ?_
      · intro start next wired
        rwa [Expression.wiring] at wired
      · intro outcome later
        constructor
        · rintro ⟨middle, early, more, few, late⟩
          refine ⟨more, ?_, early.append late⟩
          rintro _ ⟨⟩
          exact few
        · rintro ⟨more, few, met⟩
          obtain ⟨middle, early, late⟩ := met.split
          exact ⟨middle, early, more, few most rfl, late⟩

end Layout.Carries

theorem carries_meets {program : Program} (expression : Expression) :
    (expression.wiring program.instructions).Carries program expression.Meets := by
  induction expression with
  | empty => exact .nothing
  | one set => exact .one set
  | condition place => exact .condition place
  | group index inner carries => exact carries.between (2 * index) (2 * index + 1)
  | concat first second isFirst isSecond => exact isFirst.append isSecond
  | either first second isFirst isSecond => exact isFirst.either isSecond
  | loop inner least most greedy carries => exact carries.loop least most greedy

end Grading.Pattern
