import Grading.Pattern.Basic
import Grading.Proofs.Exploration

namespace Grading.Pattern

/-! ## Places in a text -/

namespace Cursor

/-- The place behind so many characters of a text. -/
def behind (text : List Char) (count : Nat) : Cursor :=
  ⟨(text.take count).getLast?, text.drop count, count⟩

def IsIn (text : List Char) (cursor : Cursor) : Prop :=
  cursor.position ≤ text.length ∧ cursor = behind text cursor.position

variable {text : List Char} {cursor next : Cursor}

theorem isIn_start (text : List Char) : IsIn text (start text) := ⟨Nat.zero_le _, rfl⟩

theorem IsIn.rest_length (inside : cursor.IsIn text) :
    cursor.position + cursor.rest.length = text.length := by
  rw [inside.2, behind, List.length_drop]
  exact Nat.add_sub_cancel' inside.1

theorem IsIn.eq (inside : cursor.IsIn text) (also : next.IsIn text)
    (same : cursor.position = next.position) : cursor = next := by
  rw [inside.2, also.2, same]

theorem IsIn.cons {before : Option Char} {character : Char} {rest : List Char} {position : Nat}
    (inside : IsIn text ⟨before, character :: rest, position⟩) :
    IsIn text ⟨some character, rest, position + 1⟩ := by
  have remains : character :: rest = text.drop position := congrArg Cursor.rest inside.2
  have further : position < text.length := by
    have length := congrArg List.length remains
    simp only [List.length_cons, List.length_drop] at length
    omega
  rw [List.drop_eq_getElem_cons further] at remains
  obtain ⟨rfl, rfl⟩ := List.cons.inj remains
  refine ⟨further, ?_⟩
  simp only [behind, List.take_add_one, List.getElem?_eq_getElem further, Option.toList_some,
    List.getLast?_concat]

theorem IsIn.advance (inside : cursor.IsIn text) (advances : cursor.advance? = some next) :
    next.IsIn text := by
  obtain ⟨before, _ | ⟨character, rest⟩, position⟩ := cursor
  · cases advances
  · cases advances
    exact inside.cons

end Cursor

/-! ## What a thread leads to -/

namespace Thread

/-- Whether two threads are at one instruction and at one place. -/
def IsLike (thread other : Thread) : Prop :=
  thread.instruction = other.instruction ∧ thread.cursor = other.cursor

variable {program : Program} {thread other : Thread} {next : List Thread}

/-- A thread stays at its place or gets to the next one. It leads to two others at most. -/
theorem step_eq_threads (leads : thread.step program = .threads next) :
    next.length ≤ 2 ∧ ∀ later ∈ next,
      later.cursor = thread.cursor ∨ thread.cursor.advance? = some later.cursor := by
  rw [step] at leads
  split at leads
  · cases leads
    simp
  · cases leads
  · split at leads
    · cases leads
      simp
    · rename_i character rest text
      split at leads
      · cases leads
        simp [Cursor.advance?, text]
      · cases leads
        simp
  · split at leads <;>
    · cases leads
      simp
  · cases leads
    simp
  · cases leads
    simp

/-- What was remembered on the way makes no difference to where a thread leads. -/
theorem IsLike.step (program : Program) (like : thread.IsLike other) :
    (thread.step program = .matched ∧ other.step program = .matched) ∨
      ∃ next others, thread.step program = .threads next ∧
        other.step program = .threads others ∧ List.Forall₂ IsLike next others := by
  obtain ⟨instruction, cursor, marks⟩ := thread
  obtain ⟨_, _, others⟩ := other
  obtain ⟨rfl, rfl⟩ := like
  simp only [Thread.step]
  split
  · exact .inr ⟨_, _, rfl, rfl, .nil⟩
  · exact .inl ⟨rfl, rfl⟩
  · split
    · exact .inr ⟨_, _, rfl, rfl, .nil⟩
    · split
      · exact .inr ⟨_, _, rfl, rfl, .cons ⟨rfl, rfl⟩ .nil⟩
      · exact .inr ⟨_, _, rfl, rfl, .nil⟩
  · split
    · exact .inr ⟨_, _, rfl, rfl, .cons ⟨rfl, rfl⟩ .nil⟩
    · exact .inr ⟨_, _, rfl, rfl, .nil⟩
  · exact .inr ⟨_, _, rfl, rfl, .cons ⟨rfl, rfl⟩ .nil⟩
  · exact .inr ⟨_, _, rfl, rfl, .cons ⟨rfl, rfl⟩ (.cons ⟨rfl, rfl⟩ .nil)⟩

end Thread

theorem Explores.like {program : Program} {stack others : List Thread} {result : Option Thread}
    {count : Nat} (explores : Explores program stack result count)
    (like : List.Forall₂ Thread.IsLike stack others) :
    ∃ other, Explores program others other count ∧ (other = none ↔ result = none) := by
  induction explores generalizing others with
  | nothing =>
      cases like
      exact ⟨none, .nothing, Iff.rfl⟩
  | matched ends =>
      cases like with
      | cons same =>
          rcases same.step program with ⟨-, endsToo⟩ | ⟨_, _, leads, -⟩
          · exact ⟨_, .matched endsToo, by simp⟩
          · rw [ends] at leads
            cases leads
  | onward leads rest induction =>
      cases like with
      | cons same below =>
          rcases same.step program with ⟨ends, -⟩ | ⟨_, _, leadsToo, others, above⟩
          · rw [leads] at ends
            cases ends
          · rw [leads] at leadsToo
            cases leadsToo
            obtain ⟨other, explores, found⟩ := induction (List.rel_append above below)
            exact ⟨other, .onward others explores, found⟩

/-! ## Searching with a memory -/

/-- Whether the thread leads nowhere, or what the search will find is still on the way to it:
then the search that began with the thread has fewer steps to go than it had in all. -/
def Thread.IsSpent (program : Program) (result : Option Thread) (count : Nat) (thread : Thread) :
    Prop :=
  ∀ found steps, Explores program [thread] found steps →
    found = none ∨ (result ≠ none ∧ count < steps)

namespace Visited

variable {program : Program} {text : List Char} {visited : Visited} {thread other : Thread}
  {result : Option Thread} {count : Nat}

def unset (visited : Visited) : Nat := visited.flags.count false

/-- A memory for the threads of a program in a text. All threads that are remembered are spent. -/
structure Holds (program : Program) (text : List Char) (result : Option Thread) (count : Nat)
    (visited : Visited) : Prop where
  width : visited.width = text.length + 1
  size : visited.flags.size = program.instructions.size * (text.length + 1)
  spent : ∀ thread : Thread, thread.cursor.IsIn text → visited.contains thread = true →
    thread.IsSpent program result count

/-- Only threads at instructions have a flag. -/
theorem slot_lt (visited : Visited) (width : visited.width = text.length + 1)
    (inside : thread.cursor.IsIn text)
    (instruction : thread.instruction < program.instructions.size) :
    visited.slot thread < program.instructions.size * (text.length + 1) := by
  rw [slot, width]
  calc thread.instruction * (text.length + 1) + thread.cursor.position
      < (thread.instruction + 1) * (text.length + 1) := by
        rw [Nat.add_one_mul]
        exact Nat.add_lt_add_left (Nat.lt_succ_of_le inside.1) _
    _ ≤ _ := Nat.mul_le_mul_right _ instruction

theorem isLike_of_slot (width : visited.width = text.length + 1)
    (inside : thread.cursor.IsIn text) (also : other.cursor.IsIn text)
    (same : visited.slot thread = visited.slot other) : thread.IsLike other := by
  simp only [slot, width] at same
  have instruction := congrArg (· / (text.length + 1)) same
  have position := congrArg (· % (text.length + 1)) same
  simp only [Nat.mul_add_mod_self_right, Nat.mod_eq_of_lt (Nat.lt_succ_of_le inside.1),
    Nat.mod_eq_of_lt (Nat.lt_succ_of_le also.1)] at position
  simp only [position, Nat.mul_comm _ (text.length + 1), Nat.mul_add_div (Nat.succ_pos _),
    Nat.add_right_cancel_iff] at instruction
  exact ⟨instruction, inside.eq also position⟩

theorem contains_insert (inserted : (visited.insert thread).contains other = true) :
    visited.contains other = true ∨ visited.slot other = visited.slot thread := by
  by_cases same : visited.slot other = visited.slot thread
  · exact .inr same
  · have kept : (visited.insert thread).contains other = visited.contains other := by
      change (visited.flags.setIfInBounds (visited.slot thread) true).getD (visited.slot other) true
        = visited.flags.getD (visited.slot other) true
      rw [Array.getD_eq_getD_getElem?, Array.getD_eq_getD_getElem?,
        Array.getElem?_setIfInBounds_ne (Ne.symm same)]
    exact .inl (kept ▸ inserted)

theorem unset_insert (new : visited.contains thread = false) :
    (visited.insert thread).unset + 1 = visited.unset := by
  rw [contains, Array.getD_eq_getD_getElem?] at new
  rcases Nat.lt_or_ge (visited.slot thread) visited.flags.size with inside | outside
  · rw [Array.getElem?_eq_getElem inside, Option.getD_some] at new
    have some : 0 < visited.flags.count false :=
      Array.count_pos_iff.mpr (new ▸ Array.getElem_mem inside)
    simp only [unset, insert, Array.setIfInBounds_def, inside, dif_pos, Array.count_set, new,
      beq_self_eq_true, if_true]
    exact Nat.sub_add_cancel some
  · rw [Array.getElem?_eq_none outside] at new
    cases new

/-- At first only threads that have no instruction count as tried. -/
theorem step_of_contains_empty (inside : thread.cursor.IsIn text)
    (contains : (Visited.empty program (text.length + 1)).contains thread = true) :
    thread.step program = .threads [] := by
  have outside : program.instructions.size ≤ thread.instruction := by
    by_contra instruction
    have below := slot_lt (Visited.empty program (text.length + 1)) rfl inside
      (Nat.lt_of_not_le instruction)
    rw [Visited.contains, Array.getD_eq_getD_getElem?] at contains
    change (Array.replicate _ false)[_]?.getD true = true at contains
    rw [Array.getElem?_replicate, if_pos below] at contains
    cases contains
  simp only [Thread.step, Array.getElem?_eq_none outside]

namespace Holds

variable {stack : List Thread} {other : Option Thread} {fewer : Nat}

theorem weaken (holds : visited.Holds program text result count) (le : fewer ≤ count) :
    visited.Holds program text result fewer where
  width := holds.width
  size := holds.size
  spent thread inside contains found steps explores :=
    (holds.spent thread inside contains found steps explores).imp_right fun ⟨finds, further⟩ =>
      ⟨finds, Nat.lt_of_le_of_lt le further⟩

/-- After a search without a result another one can begin. -/
theorem restart (holds : visited.Holds program text none fewer) (result : Option Thread)
    (count : Nat) : visited.Holds program text result count where
  width := holds.width
  size := holds.size
  spent thread inside contains found steps explores :=
    .inl ((holds.spent thread inside contains found steps explores).resolve_right
      fun ⟨finds, _⟩ => finds rfl)

/-- What is remembered can be left out. -/
theorem skip (holds : visited.Holds program text result count) (inside : thread.cursor.IsIn text)
    (contains : visited.contains thread = true)
    (explores : Explores program (thread :: stack) result count) :
    ∃ fewer, Explores program stack result fewer ∧ visited.Holds program text result fewer := by
  rcases Explores.split [thread] stack explores with
    ⟨found, -, above⟩ | ⟨early, late, -, below, rfl⟩
  · rcases holds.spent thread inside contains _ _ above with nowhere | ⟨-, further⟩
    · cases nowhere
    · exact absurd further (Nat.lt_irrefl _)
  · exact ⟨late, below, holds.weaken (Nat.le_add_left ..)⟩

theorem insert (holds : visited.Holds program text result (count + 1))
    (inside : thread.cursor.IsIn text)
    (explores : Explores program (thread :: stack) result (count + 1)) :
    (visited.insert thread).Holds program text result count where
  width := holds.width
  size := Array.size_setIfInBounds.trans holds.size
  spent other also inserted found steps alone := by
    rcases contains_insert inserted with contains | same
    · exact (holds.weaken (Nat.le_succ _)).spent other also contains found steps alone
    · have like := isLike_of_slot holds.width also inside same
      obtain ⟨end', alone, ends⟩ := alone.like (.cons like .nil)
      rcases Explores.split [thread] stack explores with
        ⟨result, rfl, above⟩ | ⟨early, late, above, -, -⟩
      · obtain ⟨-, rfl⟩ := alone.unique above
        exact .inr ⟨nofun, Nat.lt_succ_self _⟩
      · obtain ⟨rfl, -⟩ := alone.unique above
        exact .inl (ends.mp rfl)

theorem empty (program : Program) (text : List Char) :
    (Visited.empty program (text.length + 1)).Holds program text none 0 where
  width := rfl
  size := Array.size_replicate
  spent _ inside contains _ _ alone :=
    .inl (alone.unique (.onward (step_of_contains_empty inside contains) .nothing)).1

end Holds

end Visited

variable {program : Program} {text : List Char}

/-- The steps of the search that remembers nothing bound those of the search with a memory. Each
thread that is remembered takes one flag and leaves two threads at most. -/
theorem explore_of_explores (fuel : Nat) {visited : Visited} {stack : List Thread}
    {result : Option Thread} {count : Nat} (explores : Explores program stack result count)
    (places : ∀ thread ∈ stack, thread.cursor.IsIn text)
    (holds : visited.Holds program text result count)
    (enough : stack.length + 2 * visited.unset < fuel) :
    (explore program fuel visited stack).1 = result ∧
      (explore program fuel visited stack).2.Holds program text result 0 := by
  -- The steps are counted by `explores`, the flags by `enough`: a thread that was tried before
  -- shortens the stack, and any other one sets a flag for the two that it may leave.
  induction fuel generalizing visited stack count with
  | zero => cases enough
  | succ fuel induction =>
      cases stack with
      | nil =>
          cases explores
          exact ⟨rfl, holds⟩
      | cons thread stack =>
          have inside := places thread List.mem_cons_self
          have below := fun other member => places other (List.mem_cons_of_mem thread member)
          rw [explore]
          split
          · rename_i contains
            obtain ⟨fewer, explores, holds⟩ := holds.skip inside contains explores
            refine induction explores below holds ?_
            rw [List.length_cons] at enough
            omega
          · rename_i new
            cases explores with
            | matched ends =>
                rw [ends]
                exact ⟨rfl, holds⟩
            | onward leads rest =>
                have few := Thread.step_eq_threads leads
                have flags := Visited.unset_insert (Bool.eq_false_iff.mpr new)
                rw [leads]
                refine induction rest ?_ (holds.insert inside (.onward leads rest)) ?_
                · intro other member
                  rcases List.mem_append.mp member with isNext | isBelow
                  · rcases few.2 other isNext with same | advances
                    · exact same ▸ inside
                    · exact inside.advance advances
                  · exact below other isBelow
                · rw [List.length_append]
                  rw [List.length_cons] at enough
                  omega

/-! ## Matches -/

namespace Expression

/-- The match at a place that the expression prefers. -/
def matchAt? (expression : Expression) (cursor : Cursor) : Option Match :=
  (expression.outcomes (.start cursor)).head?.map fun outcome =>
    ⟨cursor.position, outcome.cursor, outcome.marks⟩

/-- The match at the first place from which there is one. -/
def matchFrom? (expression : Expression) (before : Option Char) (position : Nat) :
    (rest : List Char) → Option Match
  | [] => expression.matchAt? ⟨before, [], position⟩
  | character :: rest =>
      (expression.matchAt? ⟨before, character :: rest, position⟩).or
        (expression.matchFrom? (some character) (position + 1) rest)

end Expression

variable {expression : Expression}

theorem finds_ofExpression (productive : expression.IsProductive) (cursor : Cursor) :
    ∃ accept, Finds (.ofExpression expression)
      [⟨(Program.ofExpression expression).start, cursor, []⟩]
      ((expression.outcomes (.start cursor)).head?.map (Attempt.thread accept)) := by
  obtain ⟨accept, accepts, isLaid⟩ := Program.layout_ofExpression productive
  refine ⟨accept, yields_outcomes productive _ _ isLaid (.start cursor) _ ?_⟩
  cases expression.outcomes (.start cursor) with
  | nil => exact ⟨0, .nothing⟩
  | cons outcome others =>
      exact ⟨0, .matched (by simp only [Attempt.thread, Thread.step, accepts])⟩

theorem matchAt_ofExpression (productive : expression.IsProductive) {visited : Visited}
    {cursor : Cursor} (inside : cursor.IsIn text)
    (holds : visited.Holds (.ofExpression expression) text none 0) :
    ∃ after, matchAt (.ofExpression expression)
        (exploreFuel (.ofExpression expression) (text.length + 1)) visited cursor =
          (expression.matchAt? cursor, after) ∧
      (expression.matchAt? cursor = none →
        after.Holds (.ofExpression expression) text none 0) := by
  obtain ⟨accept, count, explores⟩ := finds_ofExpression productive cursor
  have flags : visited.unset ≤
      (Program.ofExpression expression).instructions.size * (text.length + 1) :=
    holds.size ▸ Array.count_le_size
  have enough : 1 + 2 * visited.unset <
      exploreFuel (.ofExpression expression) (text.length + 1) := by
    rw [exploreFuel, Nat.mul_assoc]
    omega
  have places : ∀ thread ∈ [Thread.mk (Program.ofExpression expression).start cursor []],
      thread.cursor.IsIn text := fun thread member => List.mem_singleton.mp member ▸ inside
  have explored := explore_of_explores _ explores places (holds.restart _ _) enough
  rw [matchAt, Expression.matchAt?]
  generalize explore _ _ visited _ = found at explored
  obtain ⟨result, after⟩ := found
  obtain ⟨rfl, holds⟩ := explored
  cases outcomes : expression.outcomes (.start cursor) with
  | nil =>
      rw [outcomes] at holds
      exact ⟨after, rfl, fun _ => holds⟩
  | cons outcome others => exact ⟨after, rfl, nofun⟩

theorem searchFrom_ofExpression (productive : expression.IsProductive) {visited : Visited}
    {before : Option Char} {position : Nat} {rest : List Char}
    (inside : Cursor.IsIn text ⟨before, rest, position⟩)
    (holds : visited.Holds (.ofExpression expression) text none 0) :
    searchFrom (.ofExpression expression)
        (exploreFuel (.ofExpression expression) (text.length + 1)) visited before position rest =
      expression.matchFrom? before position rest := by
  induction rest generalizing visited before position with
  | nil =>
      obtain ⟨after, found, -⟩ := matchAt_ofExpression productive inside holds
      rw [searchFrom, found, Expression.matchFrom?]
  | cons character rest induction =>
      obtain ⟨after, found, holds⟩ := matchAt_ofExpression productive inside holds
      rw [searchFrom, found, Expression.matchFrom?]
      cases result : expression.matchAt? ⟨before, character :: rest, position⟩ with
      | none => exact induction inside.cons (holds result)
      | some found => rfl

/-- A search finds the preferred match at the first place from which there is one. -/
theorem Program.find?_ofExpression (productive : expression.IsProductive) {cursor : Cursor}
    (inside : cursor.IsIn text) :
    (Program.ofExpression expression).find? cursor =
      expression.matchFrom? cursor.before cursor.position cursor.rest := by
  rw [Program.find?, inside.rest_length]
  exact searchFrom_ofExpression productive inside (.empty _ text)

end Grading.Pattern
