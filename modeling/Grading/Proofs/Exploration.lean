import Mathlib.Data.List.Forall2
import Grading.Pattern.Search
import Grading.Proofs.Assembly

namespace Grading.Pattern

/-! A search that remembers what it tried finds what the expression prefers. The proof goes through
a search that remembers nothing: it follows the outcomes of the expression, and what was tried once
would lead it nowhere a second time. -/

/-! ## Searching without a memory -/

/-- What comes of the threads of a stack if nothing is remembered, and after how many steps. -/
inductive Explores (program : Program) : List Thread → Option Thread → Nat → Prop
  | nothing : Explores program [] none 0
  | matched {thread : Thread} {stack : List Thread} (ends : thread.step program = .matched) :
      Explores program (thread :: stack) (some thread) 0
  | onward {thread : Thread} {next stack : List Thread} {result : Option Thread} {count : Nat}
      (leads : thread.step program = .threads next)
      (rest : Explores program (next ++ stack) result count) :
      Explores program (thread :: stack) result (count + 1)

namespace Explores

variable {program : Program} {thread : Thread} {first second : List Thread}
  {result other : Option Thread} {count more : Nat}

theorem unique (explores : Explores program first result count)
    (again : Explores program first other more) : result = other ∧ count = more := by
  induction explores generalizing other more with
  | nothing =>
      cases again
      exact ⟨rfl, rfl⟩
  | matched ends =>
      cases again with
      | matched => exact ⟨rfl, rfl⟩
      | onward leads rest =>
          rw [ends] at leads
          cases leads
  | onward leads rest induction =>
      cases again with
      | matched ends =>
          rw [ends] at leads
          cases leads
      | onward leadsToo restToo =>
          rw [leads] at leadsToo
          cases leadsToo
          obtain ⟨same, steps⟩ := induction restToo
          exact ⟨same, congrArg (· + 1) steps⟩

theorem append_some (explores : Explores program first (some thread) count) :
    Explores program (first ++ second) (some thread) count := by
  generalize found : some thread = result at explores
  induction explores with
  | nothing => cases found
  | matched ends =>
      cases found
      exact .matched ends
  | onward leads rest induction =>
      have rest := induction found
      rw [List.append_assoc] at rest
      exact .onward leads rest

theorem append_none (explores : Explores program first none count)
    (later : Explores program second result more) :
    Explores program (first ++ second) result (count + more) := by
  generalize nowhere : (none : Option Thread) = nothing at explores
  induction explores with
  | nothing =>
      rw [Nat.zero_add]
      exact later
  | matched => cases nowhere
  | onward leads rest induction =>
      have rest := induction nowhere
      rw [List.append_assoc] at rest
      rw [Nat.add_right_comm]
      exact .onward leads rest

/-- The threads above decide, unless they lead nowhere. -/
theorem split (first second : List Thread)
    (explores : Explores program (first ++ second) result count) :
    (∃ thread, result = some thread ∧ Explores program first (some thread) count) ∨
      ∃ early late, Explores program first none early ∧ Explores program second result late ∧
        count = early + late := by
  generalize whole : first ++ second = stack at explores
  induction explores generalizing first with
  | nothing =>
      obtain ⟨rfl, rfl⟩ := List.append_eq_nil_iff.mp whole
      exact .inr ⟨0, 0, .nothing, .nothing, rfl⟩
  | matched ends =>
      cases first with
      | nil =>
          cases whole
          exact .inr ⟨0, 0, .nothing, .matched ends, rfl⟩
      | cons thread first =>
          cases whole
          exact .inl ⟨_, rfl, .matched ends⟩
  | onward leads rest induction =>
      cases first with
      | nil =>
          cases whole
          exact .inr ⟨0, _, .nothing, .onward leads rest, (Nat.zero_add _).symm⟩
      | cons thread first =>
          cases whole
          rcases induction _ (List.append_assoc ..) with
            ⟨found, rfl, above⟩ | ⟨_, _, above, below, rfl⟩
          · exact .inl ⟨found, rfl, .onward leads above⟩
          · exact .inr ⟨_, _, .onward leads above, below, Nat.add_right_comm ..⟩

end Explores

/-! ## Following the outcomes -/

def Finds (program : Program) (stack : List Thread) (result : Option Thread) : Prop :=
  ∃ count, Explores program stack result count

/-- Threads that can stand for others: whatever is found from them is found from the others. -/
def Serves (program : Program) (threads others : List Thread) : Prop :=
  ∀ result, Finds program threads result → Finds program others result

namespace Serves

variable {program : Program} {first second third fourth : List Thread}

theorem refl (threads : List Thread) : Serves program threads threads := fun _ finds => finds

theorem trans (serves : Serves program first second) (others : Serves program second third) :
    Serves program first third := fun result finds => others result (serves result finds)

theorem append (serves : Serves program first second) (others : Serves program third fourth) :
    Serves program (first ++ third) (second ++ fourth) := by
  rintro result ⟨count, explores⟩
  rcases explores.split first third with ⟨thread, rfl, above⟩ | ⟨early, late, above, below, -⟩
  · obtain ⟨steps, above⟩ := serves _ ⟨count, above⟩
    exact ⟨steps, above.append_some⟩
  · obtain ⟨early, above⟩ := serves _ ⟨early, above⟩
    obtain ⟨late, below⟩ := others _ ⟨late, below⟩
    exact ⟨early + late, above.append_none below⟩

theorem flatMap {α : Type} {threads : α → List Thread} {thread : α → Thread} {items : List α}
    (serves : ∀ item ∈ items, Serves program (threads item) [thread item]) :
    Serves program (items.flatMap threads) (items.map thread) := by
  induction items with
  | nil => exact refl []
  | cons item items induction =>
      exact (serves item List.mem_cons_self).append
        (induction fun other member => serves other (List.mem_cons_of_mem _ member))

theorem of_step {thread : Thread} {next : List Thread}
    (leads : thread.step program = .threads next) : Serves program next [thread] :=
  fun _ ⟨count, explores⟩ =>
    ⟨count + 1, .onward leads ((List.append_nil next).symm ▸ explores)⟩

end Serves

namespace Attempt

/-- The search of an outcome that goes on at an instruction. -/
def thread (instruction : Nat) (outcome : Attempt) : Thread :=
  ⟨instruction, outcome.cursor, outcome.marks⟩

variable {program : Program} {start next first second : Nat}

theorem step_consume {set : CharSet} (consumes : program.instructions[start]? =
    some (.consume set next)) (outcome : Attempt) :
    (outcome.thread start).step program = .threads ((outcome.consume set).map (thread next)) := by
  obtain ⟨⟨before, _ | ⟨character, rest⟩, position⟩, marks⟩ := outcome
  · simp only [thread, Thread.step, consumes]
    rfl
  · by_cases accepts : set.contains character
    all_goals
      simp only [thread, Thread.step, consumes, consume, Attempt.rest, List.head?_cons,
        Option.any_some, accepts, if_true, Bool.false_eq_true, if_false]
      rfl

theorem step_check {place : Condition} (checks : program.instructions[start]? =
    some (.check place next)) (outcome : Attempt) :
    (outcome.thread start).step program =
      .threads ((if place.holds outcome.cursor then [outcome] else []).map (thread next)) := by
  by_cases holds : place.holds outcome.cursor
  all_goals
    simp only [thread, Thread.step, checks, holds, if_true, Bool.false_eq_true, if_false]
    rfl

theorem step_mark {slot : Nat} (marks : program.instructions[start]? = some (.mark slot next))
    (outcome : Attempt) :
    (outcome.thread start).step program = .threads [(outcome.mark slot).thread next] := by
  simp only [thread, Thread.step, marks]
  rfl

theorem step_fork (forks : program.instructions[start]? = some (.fork first second))
    (outcome : Attempt) :
    (outcome.thread start).step program =
      .threads [outcome.thread first, outcome.thread second] := by
  simp only [thread, Thread.step, forks]

end Attempt

section

open Attempt

/-- Whether a part comes to its outcomes wherever it is laid out. -/
def Layout.Yields (program : Program) (layout : Layout) (part : Attempt → List Attempt) : Prop :=
  ∀ start next, layout start next → ∀ outcome,
    Serves program ((part outcome).map (thread next)) [outcome.thread start]

variable {program : Program} {layout : Layout} {part other : Attempt → List Attempt} {greedy : Bool}
  {start middle next decision first : Nat} {outcome : Attempt}

/-- One part behind another one. -/
theorem serves_flatMap
    (serves : Serves program ((part outcome).map (thread middle)) [outcome.thread start])
    (others : ∀ later ∈ part outcome,
      Serves program ((other later).map (thread next)) [later.thread middle]) :
    Serves program (((part outcome).flatMap other).map (thread next)) [outcome.thread start] := by
  rw [List.map_flatMap]
  exact (Serves.flatMap others).trans serves

theorem serves_prefer {more : List Attempt}
    (decides : program.instructions[decision]? = some (Assembly.choice greedy first next))
    (serves : Serves program (more.map (thread next)) [outcome.thread first]) :
    Serves program ((prefer greedy more outcome).map (thread next)) [outcome.thread decision] := by
  cases greedy with
  | true =>
      rw [prefer, if_pos rfl, List.map_append]
      exact (serves.append (.refl _)).trans (.of_step (step_fork decides outcome))
  | false =>
      exact (Serves.append (.refl [outcome.thread next]) serves).trans
        (.of_step (step_fork decides outcome))

theorem yields_times (yields : layout.Yields program part) (count : Nat) :
    (Layout.times layout count).Yields program (times part count) := by
  induction count with
  | zero =>
      rintro start next rfl outcome
      exact .refl _
  | succ count induction =>
      rintro start next ⟨middle, isPart, isTimes⟩ outcome
      exact serves_flatMap (yields start middle isPart outcome) fun later _ =>
        induction middle next isTimes later

theorem yields_upTo (yields : layout.Yields program part) (count : Nat) :
    (Layout.upTo program.instructions greedy layout count).Yields program
      (upTo greedy part count) := by
  induction count with
  | zero =>
      rintro start next rfl outcome
      exact .refl _
  | succ count induction =>
      rintro start next ⟨first, rest, decides, isPart, isUpTo⟩ outcome
      exact serves_prefer decides (serves_flatMap (yields first rest isPart outcome) fun later _ =>
        induction rest next isUpTo later)

/-- Rounds end because each takes something: the induction is on what is left of the text. -/
theorem serves_anyTimes (yields : layout.Yields program part) (takes : Takes part)
    (rounds : Layout.round program.instructions greedy layout decision first next)
    (outcome : Attempt) :
    Serves program ((anyTimes greedy part outcome).map (thread next))
      [outcome.thread decision] := by
  induction size : outcome.rest.length using Nat.strongRecOn generalizing outcome with
  | ind length induction =>
      rw [anyTimes_of_takes greedy takes]
      exact serves_prefer rounds.1 (serves_flatMap (yields first decision rounds.2 outcome)
        fun later member => induction _ (size ▸ takes outcome later member) later rfl)

theorem yields_anyTimes {inner : Expression} (greedy : Bool) (least : Nat)
    (yields : (inner.layout program.instructions).Yields program inner.outcomes)
    (needs : inner.isNullable = false) :
    ((Expression.loop inner least none greedy).layout program.instructions).Yields program
      (Expression.loop inner least none greedy).outcomes := by
  have takes := Expression.takes_outcomes needs
  cases least with
  | zero =>
      rintro start next ⟨first, rounds⟩ outcome
      rw [Expression.outcomes]
      exact serves_anyTimes yields takes rounds outcome
  | succ least =>
      rintro start next ⟨last, decision, isTimes, rounds⟩ outcome
      exact serves_flatMap (yields_times yields least start last isTimes outcome)
        fun later _ => serves_flatMap (yields last decision rounds.2 later)
          fun final _ => serves_anyTimes yields takes rounds final

theorem yields_atMost {inner : Expression} (greedy : Bool) (least most : Nat)
    (yields : (inner.layout program.instructions).Yields program inner.outcomes) :
    ((Expression.loop inner least (some most) greedy).layout program.instructions).Yields program
      (Expression.loop inner least (some most) greedy).outcomes := by
  intro start next isLoop outcome
  rw [Expression.layout] at isLoop
  obtain ⟨optional, isTimes, isUpTo⟩ := isLoop
  rw [Expression.outcomes]
  exact serves_flatMap (yields_times yields least start optional isTimes outcome)
    fun later _ => yields_upTo yields (most - least) optional next isUpTo later

theorem yields_outcomes {expression : Expression} (productive : expression.IsProductive) :
    (expression.layout program.instructions).Yields program expression.outcomes := by
  induction expression with
  | empty =>
      rintro start next rfl outcome
      exact .refl _
  | one set =>
      intro start next consumes outcome
      exact .of_step (step_consume consumes outcome)
  | condition place =>
      intro start next checks outcome
      rw [Expression.outcomes]
      exact .of_step (step_check checks outcome)
  | group index inner induction =>
      rintro start next ⟨first, close, opens, isInner, closes⟩ outcome
      refine (Serves.trans ?_ (induction productive first close isInner _)).trans
        (.of_step (step_mark opens outcome))
      rw [Expression.outcomes, List.map_map, List.map_eq_flatMap]
      exact .flatMap fun later _ => .of_step (step_mark closes later)
  | concat first second firstYields secondYields =>
      rintro start next ⟨middle, isFirst, isSecond⟩ outcome
      exact serves_flatMap (firstYields productive.1 start middle isFirst outcome) fun later _ =>
        secondYields productive.2 middle next isSecond later
  | either first second firstYields secondYields =>
      rintro start next ⟨left, right, forks, isFirst, isSecond⟩ outcome
      rw [Expression.outcomes, List.map_append]
      exact ((firstYields productive.1 left next isFirst outcome).append
        (secondYields productive.2 right next isSecond outcome)).trans
          (.of_step (step_fork forks outcome))
  | loop inner least most greedy induction =>
      cases most with
      | none => exact yields_anyTimes greedy least (induction productive.1) productive.2
      | some most => exact yields_atMost greedy least most (induction productive)

end

end Grading.Pattern
