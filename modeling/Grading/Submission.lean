import Grading.Environment
import Grading.Identifier

namespace Grading

/-! Submissions: the files of a learner and a teacher, and the environment that grades them. -/

open Json (Field Reader Value)

inductive FileRole
  | mainFile
  | regularFile
  | referenceImplementation
  | userDefinedTest
  | teacherDefinedTest
  | teacherDefinedLinter
  deriving DecidableEq, Repr

namespace FileRole

def all : List FileRole :=
  [mainFile, regularFile, referenceImplementation, userDefinedTest, teacherDefinedTest,
    teacherDefinedLinter]

def name : FileRole → String
  | mainFile => "main_file"
  | regularFile => "regular_file"
  | referenceImplementation => "reference_implementation"
  | userDefinedTest => "user_defined_test"
  | teacherDefinedTest => "teacher_defined_test"
  | teacherDefinedLinter => "teacher_defined_linter"

def isGradable : FileRole → Bool
  | teacherDefinedTest | teacherDefinedLinter => true
  | _ => false

def read : Reader FileRole :=
  Reader.choice (all.map fun role => (role.name, role))

end FileRole

structure SubmissionFile where
  name : String
  /-- With its point, or empty. -/
  extension : String
  path : Option String
  content : String
  role : FileRole
  weight : Float
  feedbackMessage : Option String

namespace SubmissionFile

def fullName (file : SubmissionFile) : String := file.name ++ file.extension

/-- The full name, in its directory if it has one. Slashes at the end of the directory are
dropped. -/
def filepath (file : SubmissionFile) : String :=
  match file.path with
  | none | some "" => file.fullName
  | some path =>
      String.ofList (Text.dropEndWhile (· == '/') path.toList) ++ "/" ++ file.fullName

def fields : List Field :=
  [.of "name" .text, .of "extension" .text,
    .of "path" (Reader.optional .text), .of "content" .text,
    .of "role" FileRole.read, .of "weight" .real,
    .of "feedback_message" (Reader.optional .text)]

def read : Reader SubmissionFile :=
  Reader.record fields 5 fun given => do
    return { name := ← given.required "name" Reader.text
             extension := ← given.withDefault "extension" Reader.text ""
             path := ← given.optional "path" Reader.text
             content := ← given.withDefault "content" Reader.text ""
             role := ← given.required "role" FileRole.read
             weight := ← given.withDefault "weight" Reader.real 0
             feedbackMessage := ← given.optional "feedback_message" Reader.text }

def toValue (file : SubmissionFile) : Value :=
  .object [("name", .text file.name), ("extension", .text file.extension),
    ("path", .optional .text file.path), ("content", .text file.content),
    ("role", .text file.role.name), ("weight", .real file.weight),
    ("feedback_message", .optional .text file.feedbackMessage)]

end SubmissionFile

/-- What learners see of the results of single files. -/
structure Visibility where
  /-- Scores stay, everything else is dropped. -/
  hideTestResults : Bool
  showLinter : Bool
  deriving DecidableEq, Repr

namespace Visibility

def default : Visibility := ⟨false, false⟩

def fields : List Field :=
  [.of "hide_test_results" .boolean, .of "show_linter" .boolean]

def read : Reader Visibility :=
  Reader.record fields 0 fun given => do
    return { hideTestResults := ← given.withDefault "hide_test_results" Reader.boolean false
             showLinter := ← given.withDefault "show_linter" Reader.boolean false }

def toValue (visibility : Visibility) : Value :=
  .object [("hide_test_results", .boolean visibility.hideTestResults),
    ("show_linter", .boolean visibility.showLinter)]

end Visibility

structure Submission where
  id : Identifier
  exerciseId : Nat
  userId : String
  files : List SubmissionFile
  environment : Environment
  maximumScore : Float
  visibility : Visibility

namespace Submission

/-- The files that are graded, in their order. -/
def gradableFiles (submission : Submission) : List SubmissionFile :=
  submission.files.filter (·.role.isGradable)

/-- The first file with this path. -/
def fileAt? (submission : Submission) (filepath : String) : Option SubmissionFile :=
  submission.files.find? (·.filepath == filepath)

def readIdentifier : Reader Identifier := fun document => do
  let text ← Reader.text document
  (Identifier.ofText? text).elim (.error .mismatched) .ok

def readNumber : Reader Nat := Reader.natural wordBound

def fields : List Field :=
  [.of "id" readIdentifier, .of "exercise_id" readNumber, .of "user_id" .text,
    .of "files" (Reader.list SubmissionFile.read),
    .of "execution_environment" Environment.read, .of "maximum_score" .real,
    .of "visibility" Visibility.read]

def read : Reader Submission :=
  Reader.record fields 6 fun given => do
    return { id := ← given.required "id" readIdentifier
             exerciseId := ← given.required "exercise_id" readNumber
             userId := ← given.required "user_id" Reader.text
             files := ← given.required "files" (Reader.list SubmissionFile.read)
             environment := ← given.required "execution_environment" Environment.read
             maximumScore := ← given.required "maximum_score" Reader.real
             visibility := ← given.withDefault "visibility" Visibility.read .default }

def toValue (submission : Submission) : Value :=
  .object [("id", .text submission.id.text), ("exercise_id", .natural submission.exerciseId),
    ("user_id", .text submission.userId),
    ("files", .array (submission.files.map SubmissionFile.toValue)),
    ("execution_environment", submission.environment.toValue),
    ("maximum_score", .real submission.maximumScore),
    ("visibility", submission.visibility.toValue)]

end Submission

end Grading
