import Grading.Duration
import Grading.TestResult

namespace Grading

/-! Searches in what learners' programs print. Such a text can be made to take long, so every search
is given up when its budget is spent, and then nothing was found. -/

/-- The course of an extraction from a text. -/
structure Extraction (α : Type) where
  /-- How long it takes, unless it goes on forever. -/
  time : Option Duration
  /-- What it finds, unless it is aborted. -/
  value : Option α

namespace Extraction

/-- What is found within the budget. Nothing is found by an extraction that is aborted or takes
longer. -/
def within {α : Type} (extraction : Extraction α) (budget : Duration) : Option α :=
  match extraction.time with
  | some time => if time ≤ budget then extraction.value else none
  | none => none

end Extraction

/-- What is searched for at a time, in a text or in diagnostics. -/
inductive Search
  /-- The report of a framework, all at once. -/
  | report (text : List Char)
  | counts (text : List Char)
  | messages (text : List Char)
  | loadErrors (text : List Char)
  | rating (text : List Char)
  | diagnostics (text : List Char)
  /-- Words of the learner's language for diagnostics. -/
  | words (diagnostics : List Diagnostic)
  /-- The failures that error templates describe. -/
  | failures (text : List Char)

/-- How searches go: how long each of them may take, and how long it takes. A search without a time
cannot be started, is aborted, or goes on forever. -/
structure Searching where
  budget : Duration
  time? : Search → Option Duration

namespace Searching

/-- Every search comes to its end at once. -/
def unhurried : Searching := ⟨.zero, fun _ => some .zero⟩

def find {α : Type} (searching : Searching) (search : Search) (value : α) : Option α :=
  Extraction.within ⟨searching.time? search, some value⟩ searching.budget

/-- Whether a search comes to its end within the budget. -/
def finishes (searching : Searching) (search : Search) : Bool :=
  (searching.time? search).any fun time => time ≤ searching.budget

variable {α : Type}

@[simp] theorem find_unhurried (search : Search) (value : α) :
    unhurried.find search value = some value := rfl

/-- What is found depends on the time only in that it is all or nothing. -/
theorem find_eq (searching : Searching) (search : Search) (value : α) :
    searching.find search value = if searching.finishes search then some value else none := by
  rw [find, finishes, Extraction.within]
  cases searching.time? search with
  | none => rfl
  | some time => simp

end Searching

end Grading
