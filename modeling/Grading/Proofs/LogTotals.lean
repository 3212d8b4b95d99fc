import Mathlib.Algebra.BigOperators.Group.List.Basic
import Grading.Proofs.Interruption

namespace Grading

/-! What a log of `cargo test` comes to. Only lines that are entries count, and of those the last
verdict of a build decides whether anything else does. The counts are totals, so that the order of
the suites makes no difference to them. -/

/-! ## Lines -/

namespace Text

end Text

namespace Report.CargoTest

/-! ## Verdicts -/

namespace Entry

def isSuite (entry : Entry) : Bool := entry.kind == some "suite"

def isFailure (entry : Entry) : Bool := entry.kind == some "test" && entry.event == some "failed"

end Entry

/-- The tests that the suites announce. -/
def announced (entries : List Entry) : Nat :=
  ((entries.filter Entry.isSuite).filterMap Entry.testCount).sum

/-- The failures that are reported by the suites that announce nothing. -/
def reported (entries : List Entry) : Nat :=
  ((entries.filter fun entry => entry.isSuite && entry.testCount.isNone).filterMap
    Entry.failed).sum

section

variable {entries others : List Entry} (permuted : entries.Perm others)
include permuted

end

/-! ## Logs -/

/-- A build that fails takes back what the one before it came to. -/
example :
    let start := "\x7b\"reason\":\"build-finished\",\"success\":true\x7d\nnoise\n" ++
      "\x7b\"type\":\"suite\",\"event\":\"started\",\"test_count\":2\x7d\n"
    let failure := "\x7b\"reason\":\"build-finished\",\"success\":false\x7d"
    (read ⟨start, ""⟩).count = 2 ∧ (read ⟨start ++ failure, ""⟩).count = 0 := by
  decide +kernel

end Report.CargoTest

end Grading
