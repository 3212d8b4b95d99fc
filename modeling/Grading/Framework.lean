import Grading.Text.Line

namespace Grading

/-! The frameworks whose reports can be read. -/

inductive Framework
  | jUnit
  | pyUnit
  | pyLint
  | cargoTest
  deriving DecidableEq, Repr

namespace Framework

def all : List Framework := [jUnit, pyUnit, pyLint, cargoTest]

def name : Framework → String
  | jUnit => "JUnit 4"
  | pyUnit => "PyUnit"
  | pyLint => "PyLint"
  | cargoTest => "CargoTest"

def key : Framework → String
  | jUnit => "JunitAdapter"
  | pyUnit => "PyUnitAdapter"
  | pyLint => "PyLintAdapter"
  | cargoTest => "CargoTestAdapter"

/-- The framework with this name or key. Blanks around it do not count. -/
def ofName? (text : String) : Option Framework :=
  let trimmed := String.ofList (Text.trim text.toList)
  all.find? fun framework => framework.name == trimmed || framework.key == trimmed

def isLinter (framework : Framework) : Bool := framework == pyLint

example : ofName? " JUnit 4\n" = some jUnit := by decide +kernel
example : all.map (fun framework => ofName? framework.key) = all.map some := by decide +kernel

end Framework

end Grading
