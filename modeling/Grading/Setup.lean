import Grading.Environment
import Grading.Framework

namespace Grading

/-! Checking an environment before anything is run in it. -/

inductive SetupError
  | unsupportedFramework (name : String)
  | incompleteTestSetup (environment : String)
  | missingTestSetup (environment : String)
  | invalidTemplate (template reason : String)
  deriving DecidableEq, Repr

namespace SetupError

def message : SetupError → String
  | unsupportedFramework name => "unsupported testing framework: " ++ name
  | incompleteTestSetup environment =>
      "execution environment " ++ environment ++
        " must define test command and testing framework together"
  | missingTestSetup environment =>
      "execution environment " ++ environment ++ " has no test setup"
  | invalidTemplate template reason =>
      "invalid pattern in error template " ++ template ++ ": " ++ reason

end SetupError

namespace Framework

def ofName (text : String) : Except SetupError Framework :=
  match ofName? text with
  | some framework => .ok framework
  | none => .error (.unsupportedFramework (String.ofList (Text.trim text.toList)))

end Framework

structure TestSetup where
  command : CommandTemplate
  framework : Framework
  deriving DecidableEq, Repr

namespace Environment

/-- The test setup, if there is one. Command and framework come together. -/
def testSetup? (environment : Environment) : Except SetupError (Option TestSetup) :=
  match environment.testCommand, environment.testingFramework with
  | some command, some name => do return some ⟨command, ← Framework.ofName name⟩
  | none, none => .ok none
  | _, _ => .error (.incompleteTestSetup environment.name)

def testSetup (environment : Environment) : Except SetupError TestSetup := do
  match ← environment.testSetup? with
  | some setup => return setup
  | none => throw (.missingTestSetup environment.name)

end Environment

end Grading
