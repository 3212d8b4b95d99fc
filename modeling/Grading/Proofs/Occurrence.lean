import Grading.Proofs.Paths
import Grading.Proofs.Search

namespace Grading.Pattern

/-! A search finds something just if the expression is met somewhere in the text, and what it finds
begins at the first such place. This is said of all expressions, so it does not go through what they
prefer: what a search remembers is closed under the steps of the program. -/

/-! ## Closed memories -/

theorem Thread.exists_isLike_of_mem {threads others : List Thread} {thread : Thread}
    (alike : List.Forall₂ IsLike threads others) (member : thread ∈ threads) :
    ∃ other ∈ others, thread.IsLike other := by
  induction alike with
  | nil => cases member
  | cons like _ induction =>
      rcases List.mem_cons.mp member with rfl | member
      · exact ⟨_, List.mem_cons_self, like⟩
      · obtain ⟨other, isOther, like⟩ := induction member
        exact ⟨other, List.mem_cons_of_mem _ isOther, like⟩

namespace Visited

variable {program : Program} {text : List Char} {visited : Visited} {thread later final : Thread}
  {stack next : List Thread} {count : Nat}

theorem contains_of_isLike (like : thread.IsLike later)
    (contains : visited.contains later = true) : visited.contains thread = true := by
  rw [Visited.contains, slot, like.1, like.2]
  exact contains

theorem contains_insert_of_slot (same : visited.slot later = visited.slot thread) :
    (visited.insert thread).contains later = true := by
  change (visited.flags.setIfInBounds (visited.slot thread) true).getD (visited.slot later) true =
    true
  rw [same, Array.getD_eq_getD_getElem?, Array.getElem?_setIfInBounds_self]
  split <;> rfl

theorem contains_insert_of_contains (contains : visited.contains later = true) :
    (visited.insert thread).contains later = true := by
  by_cases same : visited.slot later = visited.slot thread
  · exact contains_insert_of_slot same
  · change (visited.flags.setIfInBounds (visited.slot thread) true).getD (visited.slot later) true =
      true
    rw [Array.getD_eq_getD_getElem?, Array.getElem?_setIfInBounds_ne (Ne.symm same),
      ← Array.getD_eq_getD_getElem?]
    exact contains

/-- Where a thread that is remembered leads to is remembered as well, or still to be tried. -/
structure Closed (program : Program) (text : List Char) (visited : Visited)
    (stack : List Thread) : Prop where
  width : visited.width = text.length + 1
  size : visited.flags.size = program.instructions.size * (text.length + 1)
  onward : ∀ thread : Thread, thread.cursor.IsIn text → visited.contains thread = true →
    ∃ next, thread.step program = .threads next ∧ ∀ later ∈ next,
      visited.contains later = true ∨ ∃ other ∈ stack, later.IsLike other

namespace Closed

theorem empty (program : Program) (text : List Char) :
    (Visited.empty program (text.length + 1)).Closed program text [] where
  width := rfl
  size := Array.size_replicate
  onward _ inside contains := ⟨[], step_of_contains_empty inside contains, nofun⟩

theorem tries (closed : visited.Closed program text []) (stack : List Thread) :
    visited.Closed program text stack where
  width := closed.width
  size := closed.size
  onward thread inside contains := by
    obtain ⟨next, leads, areKnown⟩ := closed.onward thread inside contains
    exact ⟨next, leads, fun later member => (areKnown later member).imp_right nofun⟩

/-- A thread that is remembered need not be tried again. -/
theorem skip (closed : visited.Closed program text (thread :: stack))
    (contains : visited.contains thread = true) : visited.Closed program text stack where
  width := closed.width
  size := closed.size
  onward other inside known := by
    obtain ⟨next, leads, areKnown⟩ := closed.onward other inside known
    refine ⟨next, leads, fun later member => ?_⟩
    rcases areKnown later member with isKnown | ⟨same, isTried, like⟩
    · exact .inl isKnown
    · rcases List.mem_cons.mp isTried with rfl | isLater
      · exact .inl (contains_of_isLike like contains)
      · exact .inr ⟨same, isLater, like⟩

theorem insert (closed : visited.Closed program text (thread :: stack))
    (inside : thread.cursor.IsIn text) (leads : thread.step program = .threads next) :
    (visited.insert thread).Closed program text (next ++ stack) where
  width := closed.width
  size := Array.size_setIfInBounds.trans closed.size
  onward other also inserted := by
    rcases contains_insert inserted with contains | same
    · obtain ⟨others, leadsTo, areKnown⟩ := closed.onward other also contains
      refine ⟨others, leadsTo, fun later member => ?_⟩
      rcases areKnown later member with isKnown | ⟨tried, isTried, like⟩
      · exact .inl (contains_insert_of_contains isKnown)
      · rcases List.mem_cons.mp isTried with rfl | isLater
        · exact .inl (contains_of_isLike like (contains_insert_of_slot rfl))
        · exact .inr ⟨tried, List.mem_append_right _ isLater, like⟩
    · rcases (isLike_of_slot closed.width also inside same).step program with
        ⟨-, ends⟩ | ⟨others, those, leadsTo, leadsToo, alike⟩
      · rw [leads] at ends
        cases ends
      · cases leads.symm.trans leadsToo
        refine ⟨others, leadsTo, fun later member => .inr ?_⟩
        obtain ⟨tried, isTried, like⟩ := Thread.exists_isLike_of_mem alike member
        exact ⟨tried, List.mem_append_left _ isTried, like⟩

/-- When nothing is to be tried any more, no thread that is remembered leads to a match. -/
theorem not_ends (closed : visited.Closed program text []) (inside : thread.cursor.IsIn text)
    (contains : visited.contains thread = true) : ¬thread.Ends program count final := by
  rintro ⟨path, matched⟩
  induction path with
  | refl thread =>
      obtain ⟨next, leads, -⟩ := closed.onward thread inside contains
      rw [leads] at matched
      cases matched
  | step isStep _ induction =>
      obtain ⟨next, leads, areKnown⟩ := closed.onward _ inside contains
      obtain ⟨others, leadsToo, member⟩ := isStep
      cases leads.symm.trans leadsToo
      have isKnown := (areKnown _ member).resolve_right nofun
      rcases (Thread.step_eq_threads leads).2 _ member with same | advances
      · exact induction (same ▸ inside) isKnown matched
      · exact induction (inside.advance advances) isKnown matched

end Closed

end Visited

/-! ## What a search comes to -/

section

open Thread

variable {program : Program} {text : List Char} {expression : Expression}

/-- A search from the threads of a stack: what it found is the end of a match, and if it found
nothing, then none of them leads to one. -/
def Settles (program : Program) (text : List Char) (visited : Visited) (stack : List Thread) :
    Option Thread × Visited → Prop
  | (some final, _) => ∃ thread ∈ stack, ∃ count, thread.Ends program count final
  | (none, after) => after.Closed program text [] ∧
      (∀ thread ∈ stack, after.contains thread = true) ∧
      ∀ thread, visited.contains thread = true → after.contains thread = true

namespace Settles

variable {visited : Visited} {thread : Thread} {stack next : List Thread}
  {result : Option Thread × Visited}

/-- What comes of a stack also comes of it with a thread on top that was tried before. -/
theorem skip (settles : Settles program text visited stack result)
    (contains : visited.contains thread = true) :
    Settles program text visited (thread :: stack) result := by
  obtain ⟨_ | final, after⟩ := result
  · obtain ⟨closed, areTried, areKnown⟩ := settles
    exact ⟨closed, List.forall_mem_cons.mpr ⟨areKnown thread contains, areTried⟩, areKnown⟩
  · obtain ⟨tried, member, ends⟩ := settles
    exact ⟨tried, List.mem_cons_of_mem thread member, ends⟩

/-- A thread can be replaced by those that it leads to, when it is remembered. -/
theorem insert (leads : thread.step program = .threads next)
    (settles : Settles program text (visited.insert thread) (next ++ stack) result) :
    Settles program text visited (thread :: stack) result := by
  obtain ⟨_ | final, after⟩ := result
  · obtain ⟨closed, areTried, areKnown⟩ := settles
    have isKnown := areKnown thread (Visited.contains_insert_of_slot rfl)
    have isTried := fun other member => areTried other (List.mem_append_right next member)
    exact ⟨closed, List.forall_mem_cons.mpr ⟨isKnown, isTried⟩, fun other contains =>
      areKnown other (Visited.contains_insert_of_contains contains)⟩
  · obtain ⟨tried, member, count, path, ends⟩ := settles
    rcases List.mem_append.mp member with isNext | isBelow
    · exact ⟨thread, List.mem_cons_self, count + 1, .step ⟨next, leads, isNext⟩ path, ends⟩
    · exact ⟨tried, List.mem_cons_of_mem thread isBelow, count, path, ends⟩

end Settles

theorem settles_explore (fuel : Nat) {visited : Visited} {stack : List Thread}
    (closed : visited.Closed program text stack)
    (places : ∀ thread ∈ stack, thread.cursor.IsIn text)
    (enough : stack.length + 2 * visited.unset < fuel) :
    Settles program text visited stack (explore program fuel visited stack) := by
  -- As in the search that follows the preferences: a thread that was tried before shortens the
  -- stack, and any other one sets a flag for the two that it may leave.
  induction fuel generalizing visited stack with
  | zero => cases enough
  | succ fuel induction =>
      cases stack with
      | nil => exact ⟨closed, nofun, fun _ contains => contains⟩
      | cons thread stack =>
          have inside := places thread List.mem_cons_self
          have below := fun other member => places other (List.mem_cons_of_mem thread member)
          rw [List.length_cons] at enough
          rw [explore]
          split
          · rename_i contains
            exact (induction (closed.skip contains) below (by omega)).skip contains
          · rename_i new
            cases leads : thread.step program with
            | matched => exact ⟨thread, List.mem_cons_self, 0, .refl thread, leads⟩
            | threads next =>
                have few := step_eq_threads leads
                have flags := Visited.unset_insert (Bool.eq_false_iff.mpr new)
                refine .insert leads (induction (closed.insert inside leads) ?_ ?_)
                · intro other member
                  rcases List.mem_append.mp member with isNext | isBelow
                  · rcases few.2 other isNext with same | advances
                    · exact same ▸ inside
                    · exact inside.advance advances
                  · exact below other isBelow
                · rw [List.length_append]
                  omega

end

/-! ## Occurrences -/

namespace Expression

variable (expression : Expression) (text : List Char)

/-- Whether the expression can be met at a place of the text. -/
def MeetsAt (place : Nat) : Prop := ∃ later, expression.Meets (.start (.behind text place)) later

def OccursIn : Prop := ∃ place ≤ text.length, expression.MeetsAt text place

/-- The match is one, and none begins before it. -/
structure IsLeftmost (found : Match) : Prop where
  inside : found.first ≤ text.length
  meets : expression.Meets (.start (.behind text found.first)) ⟨found.behind, found.marks⟩
  leftmost : ∀ place < found.first, ¬expression.MeetsAt text place

/-- What a search comes to that begins at the places from `first` up to `last`: the first match
there, or nothing if there is none. -/
def Searched (first last : Nat) : Option Match → Prop
  | none => ∀ place, first ≤ place → place < last → ¬expression.MeetsAt text place
  | some found => first ≤ found.first ∧ found.first < last ∧
      expression.Meets (.start (.behind text found.first)) ⟨found.behind, found.marks⟩ ∧
      ∀ place, first ≤ place → place < found.first → ¬expression.MeetsAt text place

variable {expression text} {first middle last : Nat} {found : Match} {result : Option Match}

theorem Searched.widen (searched : expression.Searched text first middle (some found))
    (further : middle ≤ last) : expression.Searched text first last (some found) :=
  ⟨searched.1, Nat.lt_of_lt_of_le searched.2.1 further, searched.2.2⟩

theorem Searched.onward (nothing : expression.Searched text first middle none)
    (further : first ≤ middle) (searched : expression.Searched text middle last result) :
    expression.Searched text first last result := by
  cases result with
  | none =>
      intro place above below
      rcases Nat.lt_or_ge place middle with early | late
      · exact nothing place above early
      · exact searched place late below
  | some found =>
      obtain ⟨begins, ends, meets, leftmost⟩ := searched
      refine ⟨Nat.le_trans further begins, ends, meets, fun place above below => ?_⟩
      rcases Nat.lt_or_ge place middle with early | late
      · exact nothing place above early
      · exact leftmost place late below

end Expression

section

open Thread

variable {text : List Char} {expression : Expression}

/-- A search that begins at one place. If it finds nothing, its memory serves for the next place. -/
theorem exists_of_matchAt {visited : Visited} {cursor : Cursor} (inside : cursor.IsIn text)
    (closed : visited.Closed (.ofExpression expression) text []) :
    ∃ result after, matchAt (.ofExpression expression)
        (exploreFuel (.ofExpression expression) (text.length + 1)) visited cursor =
          (result, after) ∧
      expression.Searched text cursor.position (cursor.position + 1) result ∧
      (result = none → after.Closed (.ofExpression expression) text []) := by
  obtain ⟨accept, accepts, wired⟩ := Program.wiring_ofExpression expression
  have matched : ∀ later : Attempt,
      (later.thread accept).step (.ofExpression expression) = .matched := fun later => by
    simp only [Attempt.thread, Thread.step, accepts]
  have carries : (expression.wiring (Program.ofExpression expression).instructions).Carries
      (.ofExpression expression) expression.Meets := carries_meets expression
  have flags : visited.unset ≤
      (Program.ofExpression expression).instructions.size * (text.length + 1) :=
    closed.size ▸ Array.count_le_size
  have settles := settles_explore (exploreFuel (.ofExpression expression) (text.length + 1))
    (closed.tries [⟨(Program.ofExpression expression).start, cursor, []⟩])
    (fun thread member => List.mem_singleton.mp member ▸ inside) (by
      rw [exploreFuel, List.length_singleton, Nat.mul_assoc]
      omega)
  have isPlace : Cursor.behind text cursor.position = cursor := inside.2.symm
  rw [matchAt]
  generalize explore _ _ visited _ = explored at settles
  obtain ⟨_ | final, after⟩ := explored
  · obtain ⟨closed, areTried, -⟩ := settles
    refine ⟨none, after, rfl, fun place above below => ?_, fun _ => closed⟩
    obtain rfl : place = cursor.position := Nat.le_antisymm (Nat.le_of_lt_succ below) above
    rintro ⟨later, meets⟩
    rw [isPlace] at meets
    obtain ⟨count, path⟩ := carries.leads wired meets
    exact closed.not_ends inside (areTried _ List.mem_cons_self) ⟨path, matched later⟩
  · obtain ⟨_, member, count, ends⟩ := settles
    obtain rfl := List.mem_singleton.mp member
    obtain ⟨later, meets, fewer, -, ends⟩ :=
      carries.passes wired (show Ends _ _ ((Attempt.start cursor).thread _) final from ends)
    have isLast : final = later.thread accept := by
      cases ends.1 with
      | refl => rfl
      | step leads _ =>
          obtain ⟨next, leads, -⟩ := leads
          cases (matched later).symm.trans leads
    refine ⟨_, after, rfl, ⟨Nat.le_refl _, Nat.lt_succ_self _, ?_, fun place above below =>
      absurd below (Nat.not_lt_of_le above)⟩, fun found => absurd found (Option.some_ne_none _)⟩
    rw [isPlace, isLast]
    exact meets

theorem searched_searchFrom {visited : Visited} {before : Option Char} {position : Nat}
    {rest : List Char} (inside : Cursor.IsIn text ⟨before, rest, position⟩)
    (closed : visited.Closed (.ofExpression expression) text []) :
    expression.Searched text position (text.length + 1) (searchFrom (.ofExpression expression)
      (exploreFuel (.ofExpression expression) (text.length + 1)) visited before position rest) := by
  induction rest generalizing visited before position with
  | nil =>
      have ends : position = text.length := inside.rest_length
      obtain ⟨result, after, here, searched, -⟩ := exists_of_matchAt inside closed
      rw [searchFrom, here, ← ends]
      exact searched
  | cons character rest induction =>
      obtain ⟨result, after, here, searched, isClosed⟩ := exists_of_matchAt inside closed
      rw [searchFrom, here]
      cases result with
      | none => exact searched.onward (Nat.le_succ _) (induction inside.cons (isClosed rfl))
      | some found => exact searched.widen (Nat.succ_le_succ inside.1)

theorem searched_find? (expression : Expression) (text : List Char) :
    expression.Searched text 0 (text.length + 1)
      ((Program.ofExpression expression).find? (.start text)) := by
  have inside := Cursor.isIn_start text
  rw [Program.find?, inside.rest_length]
  exact searched_searchFrom inside (.empty _ text)

end

namespace Program

variable {expression : Expression} {text : List Char} {found : Match}

/-- A search finds nothing just if the expression cannot be met anywhere. -/
theorem find?_eq_none_iff :
    (ofExpression expression).find? (.start text) = none ↔ ¬expression.OccursIn text := by
  have searched := searched_find? expression text
  cases result : (ofExpression expression).find? (.start text) with
  | none =>
      rw [result] at searched
      refine ⟨fun _ => ?_, fun _ => rfl⟩
      rintro ⟨place, inside, meets⟩
      exact searched place (Nat.zero_le _) (Nat.lt_succ_of_le inside) meets
  | some found =>
      rw [result] at searched
      obtain ⟨-, inside, meets, -⟩ := searched
      exact ⟨nofun, fun nowhere =>
        absurd ⟨found.first, Nat.le_of_lt_succ inside, _, meets⟩ nowhere⟩

theorem isLeftmost_of_find? (finds : (ofExpression expression).find? (.start text) = some found) :
    expression.IsLeftmost text found := by
  have searched := searched_find? expression text
  rw [finds] at searched
  obtain ⟨-, inside, meets, leftmost⟩ := searched
  exact ⟨Nat.le_of_lt_succ inside, meets, fun place => leftmost place (Nat.zero_le _)⟩

end Program

end Grading.Pattern
