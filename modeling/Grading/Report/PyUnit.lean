import Grading.Execution
import Grading.Report.Summary
import Grading.Searching

namespace Grading.Report.PyUnit

/-! Reports of PyUnit, which are printed to the standard error. -/

open Pattern (CharSet Expression)

/-! ## Counts -/

def countPattern : Pattern := numberBetween "Ran " " test"

/-- A number with this title among the reasons of a failure, all of them on one line. -/
def reasonPattern (title : String) : Pattern :=
  sequence [literal "FAILED (", many inLine, literal title, .group 1 (oneOrMore .digit),
    many inLine, literal ")"]

def failuresPattern : Pattern := reasonPattern "failures="

def errorsPattern : Pattern := reasonPattern "errors="

/-- How many tests there were and how many of them failed. A class that cannot be set up reports a
failure without a test; then the failures are counted as tests of their own. -/
def counts (text : List Char) : Nat × Nat :=
  let count := (lastNumber countPattern text).getD 0
  let failed :=
    addCounts ((lastNumber failuresPattern text).getD 0) ((lastNumber errorsPattern text).getD 0)
  (if count < failed then addCounts count failed else count, failed)

/-! ## Messages of failed tests -/

/-- Every character, found to be blank or not: a group of its own in the pattern of messages. -/
def anyOne : Expression :=
  .group 5 (.either (.one .blank) (.one (.complement .blank)))

/-- Input of an interactive session, which follows a message and does not belong to it. -/
def session : Expression :=
  .loop (.group 6 (.concatAll [literal ">>>", few (allBut '>')])) 0 none true

def separator : Expression :=
  .loop (.group 7 (.either (literal "-") (literal "="))) 70 (some 70) true

/-- The title of a failed test with its name in the second group, and the last line of its trace
with the message in the fourth. The line starts with the type of the error, without points. -/
def messagePattern : Pattern :=
  sequence [.condition (.lineStart false),
    .group 1 (.either (literal "ERROR") (literal "FAIL")), literal ": ",
    .group 2 (few .anything), literal " ", few .anything, .condition (.lineStart false),
    few (.complement (.union (.single '.') (.single '\n'))),
    .group 3 (.either (literal "Error") (literal "Exception")), literal ":", .one .blank,
    .group 4 (.loop anyOne 0 none false), session, .one .blank, .one .blank, separator]

/-- Tests with this name show their messages without it. -/
def namelessTest : List Char := "test_assess".toList

def message? (name error : List Char) : Option String :=
  if error.isEmpty then none
  else if name = namelessTest then some (String.ofList error)
  else some (String.ofList (name ++ ':' :: ' ' :: error))

def messages (text : List Char) : List String :=
  (messagePattern.findAll text).filterMap fun found =>
    message? (found.groupText text 2) (Text.trim (found.groupText text 4))

/-! ## Tests that cannot be loaded -/

/-- The place, the line, the kind and the message of an error that keeps a test from being
loaded. -/
def loadErrorPattern : Pattern :=
  sequence [literal "File", .one .blank, literal "\"", .group 1 (many inLine), literal "\"",
    many inLine, literal "line", .one .blank, .group 2 (oneOrMore .digit), many .blank,
    many inLine, many .blank, many (.single '^'), many .blank,
    .group 3 (.either (literal "SyntaxError")
      (.either (literal "IndentationError") (literal "TabError"))),
    literal ":", .group 4 (many inLine)]

def loadErrorMessage (file line kind message : List Char) : String :=
  String.ofList ("<span style=\"color:red\">**".toList ++ kind ++ "**</span>: ".toList ++ message ++
    " in **file** ".toList ++ file ++ " **line ".toList ++ line ++ "**".toList)

def loadErrors (text : List Char) : List String :=
  (loadErrorPattern.findAll text).map fun found =>
    loadErrorMessage (found.groupText text 1) (found.groupText text 2) (found.groupText text 3)
      (Text.trim (found.groupText text 4))

/-! ## Whole reports -/

def read (output : CapturedOutput) (searching : Searching := .unhurried) : TestResult :=
  let text := output.stderr.toList
  let (count, failed) := (searching.find (.counts text) (counts text)).getD (0, 0)
  .ofCounts count failed ((searching.find (.messages text) (messages text)).getD [] ++
    (searching.find (.loadErrors text) (loadErrors text)).getD [])

theorem read_unhurried (output : CapturedOutput) :
    read output =
      .ofCounts (counts output.stderr.toList).1 (counts output.stderr.toList).2
        (messages output.stderr.toList ++ loadErrors output.stderr.toList) := rfl

end Grading.Report.PyUnit
