import Grading.Framework
import Grading.Report.CargoTest
import Grading.Report.JUnit
import Grading.Report.PyLint
import Grading.Report.PyUnit

namespace Grading

/-! Reports of all frameworks. -/

namespace Framework

/-- What the framework reports. A report of JSON lines is read without a search. -/
def read (framework : Framework) (output : CapturedOutput)
    (searching : Searching := .unhurried) : TestResult :=
  match framework with
  | jUnit => Report.JUnit.read output searching
  | pyUnit => Report.PyUnit.read output searching
  | pyLint => Report.PyLint.read output searching
  | cargoTest => Report.CargoTest.read output

end Framework

end Grading
