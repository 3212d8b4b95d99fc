import Grading.Report.Basic
import Grading.Localization

namespace Grading

/-! From the output of a framework to an assessment. -/

structure Assessor where
  framework : Framework
  catalog : LinterCatalog

namespace Assessor

/-- The score is that of the report; only texts depend on the catalog. -/
def assess (assessor : Assessor) (output : CapturedOutput)
    (searching : Searching := .unhurried) : Assessment :=
  let report := assessor.framework.read output searching
  let result := if assessor.framework.isLinter then
      assessor.catalog.localizeResult report searching
    else report
  ⟨result, report.score⟩

end Assessor

end Grading
