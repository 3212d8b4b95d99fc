import Grading.Environment
import Grading.Execution
import Grading.TestResult

namespace Grading.Report.CargoTest

/-! Reports of `cargo test`, which are printed to the standard output: one JSON object a line. -/

open Json (Field Reader)

structure Entry where
  reason : Option String
  success : Option Bool
  kind : Option String
  event : Option String
  testCount : Option Nat
  failed : Option Nat
  stdout : Option String
  deriving DecidableEq, Repr

namespace Entry

def readCount : Reader Nat := Reader.natural countBound

def fields : List Field :=
  [.of "reason" (Reader.optional .text), .of "success" (Reader.optional .boolean),
    .of "type" (Reader.optional .text), .of "event" (Reader.optional .text),
    .of "test_count" (Reader.optional readCount), .of "failed" (Reader.optional readCount),
    .of "stdout" (Reader.optional .text)]

def read : Reader Entry :=
  Reader.record fields fields.length fun given => do
    return { reason := ← given.optional "reason" Reader.text
             success := ← given.optional "success" Reader.boolean
             kind := ← given.optional "type" Reader.text
             event := ← given.optional "event" Reader.text
             testCount := ← given.optional "test_count" readCount
             failed := ← given.optional "failed" readCount
             stdout := ← given.optional "stdout" Reader.text }

/-- The entry of a line. Lines that are none are no part of the report. -/
def ofLine? (line : List Char) : Option Entry :=
  (Reader.run read (String.ofList line)).toOption

/-- Whether the build succeeded, if the entry ends a build and says so. -/
def buildSuccess? (entry : Entry) : Option Bool :=
  if entry.reason = some "build-finished" then entry.success else none

/-- How many tests a suite has, if the entry starts one. -/
def suiteCount (entry : Entry) : Nat :=
  if entry.kind = some "suite" then entry.testCount.getD 0 else 0

def suiteFailed (entry : Entry) : Nat :=
  if entry.kind = some "suite" ∧ entry.testCount = none then entry.failed.getD 0 else 0

def failureOutput? (entry : Entry) : Option String :=
  if entry.kind = some "test" ∧ entry.event = some "failed" then some (entry.stdout.getD "")
  else none

end Entry

def entries (text : List Char) : List Entry :=
  (Text.lines text).filterMap Entry.ofLine?

/-- Whether the last build that ended with a verdict succeeded. -/
def isBuilt (entries : List Entry) : Bool :=
  (entries.filterMap Entry.buildSuccess?).getLast?.getD false

def compileFailure : String := "Could not compile. See below for more details."

/-- The result of the entries of a report. Nothing counts unless the program was built. -/
def resultOf (entries : List Entry) : TestResult :=
  if isBuilt entries then
    .ofCounts ((entries.map Entry.suiteCount).foldl addCounts 0)
      ((entries.map Entry.suiteFailed).foldl addCounts 0) (entries.filterMap Entry.failureOutput?)
  else .ofCounts 0 0 [compileFailure]

def read (output : CapturedOutput) : TestResult :=
  resultOf (entries output.stdout.toList)

end Grading.Report.CargoTest
