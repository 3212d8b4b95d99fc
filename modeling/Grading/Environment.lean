import Grading.Command
import Grading.Duration
import Grading.Json.Reader
import Grading.Json.Value

namespace Grading

/-! Execution environments: what an exercise needs to be run and graded, and the documents that
describe them. -/

open Json (Field Reader Value)

structure TemplateAttribute where
  key : String
  pattern : String
  deriving DecidableEq, Repr

/-- A kind of error message, recognised by the pattern of its signature. -/
structure ErrorTemplate where
  id : Nat
  name : String
  signature : String
  attributes : List TemplateAttribute
  deriving DecidableEq, Repr

structure Environment where
  id : Nat
  name : String
  image : String
  runCommand : CommandTemplate
  testCommand : Option CommandTemplate
  /-- The display name or the adapter key of a testing framework. -/
  testingFramework : Option String
  permittedSeconds : Nat
  poolSize : Nat
  errorTemplates : List ErrorTemplate
  deriving DecidableEq, Repr

def wordBound : Nat := Nat.pow 2 64

def countBound : Nat := Nat.pow 2 32

namespace TemplateAttribute

def fields : List Field :=
  [.of "key" .text, .of "regex" .text]

def read : Reader TemplateAttribute :=
  Reader.record fields 2 fun given => do
    return { key := ← given.required "key" Reader.text
             pattern := ← given.required "regex" Reader.text }

def toValue (item : TemplateAttribute) : Value :=
  .object [("key", .text item.key), ("regex", .text item.pattern)]

end TemplateAttribute

namespace ErrorTemplate

def readNumber : Reader Nat := Reader.natural wordBound

def fields : List Field :=
  [.of "id" readNumber, .of "name" .text, .of "signature" .text,
    .of "attributes" (Reader.list TemplateAttribute.read)]

def read : Reader ErrorTemplate :=
  Reader.record fields 3 fun given => do
    return { id := ← given.required "id" readNumber
             name := ← given.required "name" Reader.text
             signature := ← given.required "signature" Reader.text
             attributes :=
               ← given.withDefault "attributes" (Reader.list TemplateAttribute.read) [] }

def toValue (template : ErrorTemplate) : Value :=
  .object [("id", .natural template.id), ("name", .text template.name),
    ("signature", .text template.signature),
    ("attributes", .array (template.attributes.map TemplateAttribute.toValue))]

end ErrorTemplate

namespace CommandTemplate

def read : Reader CommandTemplate := fun document =>
  (Reader.text document).map CommandTemplate.mk

end CommandTemplate

namespace Environment

def defaultPermittedSeconds : Nat := 60

def permittedTime (environment : Environment) : Duration :=
  .ofSeconds environment.permittedSeconds

def readNumber : Reader Nat := Reader.natural wordBound

def readCount : Reader Nat := Reader.natural countBound

def fields : List Field :=
  [.of "id" readNumber, .of "name" .text, .of "docker_image" .text,
    .of "run_command" CommandTemplate.read,
    .of "test_command" (Reader.optional CommandTemplate.read),
    .of "testing_framework" (Reader.optional .text),
    .of "permitted_execution_time" readNumber, .of "pool_size" readCount,
    .of "error_templates" (Reader.list ErrorTemplate.read)]

def read : Reader Environment :=
  Reader.record fields 4 fun given => do
    return { id := ← given.required "id" readNumber
             name := ← given.required "name" Reader.text
             image := ← given.required "docker_image" Reader.text
             runCommand := ← given.required "run_command" CommandTemplate.read
             testCommand := ← given.optional "test_command" CommandTemplate.read
             testingFramework := ← given.optional "testing_framework" Reader.text
             permittedSeconds :=
               ← given.withDefault "permitted_execution_time" readNumber defaultPermittedSeconds
             poolSize := ← given.withDefault "pool_size" readCount 0
             errorTemplates :=
               ← given.withDefault "error_templates" (Reader.list ErrorTemplate.read) [] }

def toValue (environment : Environment) : Value :=
  .object [("id", .natural environment.id), ("name", .text environment.name),
    ("docker_image", .text environment.image), ("run_command", .text environment.runCommand.text),
    ("test_command", .optional (fun command => .text command.text) environment.testCommand),
    ("testing_framework", .optional .text environment.testingFramework),
    ("permitted_execution_time", .natural environment.permittedSeconds),
    ("pool_size", .natural environment.poolSize),
    ("error_templates", .array (environment.errorTemplates.map ErrorTemplate.toValue))]

end Environment

end Grading
