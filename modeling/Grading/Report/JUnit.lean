import Grading.Execution
import Grading.Report.Summary
import Grading.Searching

namespace Grading.Report.JUnit

/-! Reports of JUnit 4, which are printed to the standard output. -/

open Pattern (Expression)

/-- How many tests were run, where some of them failed. -/
def countPattern : Pattern := numberBetween "Tests run: " ""

def failuresPattern : Pattern := numberBetween "Failures: " ""

/-- The end of a report without failures. The start of a terminal's title or an exit command can
follow it. -/
def successPattern : Pattern :=
  sequence [literal "OK (", .group 1 (oneOrMore .digit), literal " test", perhaps (literal "s"),
    literal ")", many .blank, perhaps (.either (literal "\x1b]0;") (literal "exit")),
    many .blank, .condition .textEnd]

/-- A message ends before the first call into the framework. -/
def messageEnd : Expression :=
  .concatAll [literal "\tat org", .one .anything, literal "junit"]

/-- The message of an assertion, in the first group. -/
def assertion : Expression :=
  .concatAll [literal "java.lang.AssertionError", perhaps (literal ":"), .one .blank,
    .group 1 (few .anything), messageEnd]

/-- The message of a comparison, in the second group. -/
def comparison : Expression :=
  .concatAll [literal "org.junit.ComparisonFailure:", .one .blank, .group 2 (few .anything),
    messageEnd]

def messagePattern : Pattern := sequence [.either assertion comparison]

/-- The messages of a report. Those that are blank are left out. -/
def messages (text : List Char) : List String :=
  (messagePattern.findAll text).flatMap fun found =>
    let trimmed := ([1, 2].filterMap (found.group? text)).map Text.trim
    (trimmed.filter fun message => !message.isEmpty).map String.ofList

def resultOf (text : List Char) : TestResult :=
  match lastNumber successPattern text with
  | some count => .allPassed count
  | none =>
      .ofCounts ((lastNumber countPattern text).getD 0) ((lastNumber failuresPattern text).getD 0)
        (messages text)

def read (output : CapturedOutput) (searching : Searching := .unhurried) : TestResult :=
  let text := output.stdout.toList
  (searching.find (.report text) (resultOf text)).getD .empty

theorem read_unhurried (output : CapturedOutput) : read output = resultOf output.stdout.toList :=
  rfl

end Grading.Report.JUnit
