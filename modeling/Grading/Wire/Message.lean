import Grading.Execution
import Grading.Submission
import Grading.Wire.Field

namespace Grading.Wire

/-! The messages of the runner-management service. What has its default value is not written; later
fields win over earlier ones, and messages inside a message are merged. -/

/-- A whole number below zero is written as its complement in 64 bits. -/
def signedWord (value : Int64) : Nat := value.toUInt64.toNat

/-! ## Times -/

structure Time where
  seconds : Int64
  nanos : Int32
  deriving DecidableEq

namespace Time

def zero : Time := ⟨0, 0⟩

def toFields (time : Time) : List Field :=
  Field.unlessDefault (time.seconds == 0) (.ofWord 1 (signedWord time.seconds)) ++
    Field.unlessDefault (time.nanos == 0) (.ofWord 2 (signedWord time.nanos.toInt64))

def merge (time : Time) (field : Field) : Option Time :=
  match field.number with
  | 1 => field.word?.map fun value => { time with seconds := Int64.ofNat value }
  | 2 => field.word?.map fun value => { time with nanos := Int32.ofNat value }
  | _ => some time

/-- The time with the fields of another one merged into it. -/
def mergeBytes (time : Time) (bytes : Bytes) : Option Time := do
  (← Field.decodeInner? bytes).foldlM merge time

def ofDuration? (duration : Duration) : Option Time :=
  if duration.seconds < Nat.pow 2 63 then
    some ⟨Int64.ofNat duration.seconds, Int32.ofNat duration.subsecond⟩
  else none

end Time

/-! ## Acquiring a runner -/

structure AcquireRequest where
  principal : String
  environmentId : UInt64
  image : String
  timeout : Option Time
  deriving DecidableEq

namespace AcquireRequest

def empty : AcquireRequest := ⟨"", 0, "", none⟩

def toFields (message : AcquireRequest) : List Field :=
  Field.unlessDefault message.principal.isEmpty (.ofText 1 message.principal) ++
    Field.unlessDefault (message.environmentId == 0) (.ofWord 2 message.environmentId.toNat) ++
    Field.unlessDefault message.image.isEmpty (.ofText 3 message.image) ++
    (message.timeout.map fun time => .ofBytes 4 (Field.encodeAll time.toFields)).toList

def merge (message : AcquireRequest) (field : Field) : Option AcquireRequest :=
  match field.number with
  | 1 => field.text?.map fun principal => { message with principal }
  | 2 => field.word?.map fun value => { message with environmentId := UInt64.ofNat value }
  | 3 => field.text?.map fun image => { message with image }
  | 4 => do
      let time ← (message.timeout.getD .zero).mergeBytes (← field.bytes?)
      return { message with timeout := some time }
  | _ => some message

def encode (message : AcquireRequest) : Bytes := Field.encodeAll message.toFields

def decode? (bytes : Bytes) : Option AcquireRequest := do
  (← Field.decodeAll? bytes).foldlM merge empty

def ofEnvironment (principal : String) (environment : Environment) : AcquireRequest :=
  ⟨principal, UInt64.ofNat environment.id, environment.image,
    Time.ofDuration? environment.permittedTime⟩

end AcquireRequest

/-! ## Messages that hold a runner alone -/

/-- The answer to an acquisition, and the request to release a runner. -/
structure RunnerMessage where
  runnerId : String
  deriving DecidableEq

namespace RunnerMessage

def toFields (message : RunnerMessage) : List Field :=
  Field.unlessDefault message.runnerId.isEmpty (.ofText 1 message.runnerId)

def merge (message : RunnerMessage) (field : Field) : Option RunnerMessage :=
  match field.number with
  | 1 => field.text?.map RunnerMessage.mk
  | _ => some message

def encode (message : RunnerMessage) : Bytes := Field.encodeAll message.toFields

def decode? (bytes : Bytes) : Option RunnerMessage := do
  (← Field.decodeAll? bytes).foldlM merge ⟨""⟩

end RunnerMessage

/-! ## Copying files -/

structure FileCopy where
  path : String
  content : Bytes
  deriving DecidableEq

namespace FileCopy

def empty : FileCopy := ⟨"", []⟩

def toFields (copy : FileCopy) : List Field :=
  Field.unlessDefault copy.path.isEmpty (.ofText 1 copy.path) ++
    Field.unlessDefault copy.content.isEmpty (.ofBytes 2 copy.content)

def merge (copy : FileCopy) (field : Field) : Option FileCopy :=
  match field.number with
  | 1 => field.text?.map fun path => { copy with path }
  | 2 => field.bytes?.map fun content => { copy with content }
  | _ => some copy

def ofBytes? (bytes : Bytes) : Option FileCopy := do
  (← Field.decodeInner? bytes).foldlM merge empty

def ofFile (file : SubmissionFile) : FileCopy :=
  ⟨file.filepath, file.content.toUTF8.data.toList⟩

end FileCopy

structure CopyFilesRequest where
  runnerId : String
  files : List FileCopy
  deriving DecidableEq

namespace CopyFilesRequest

def toFields (message : CopyFilesRequest) : List Field :=
  Field.unlessDefault message.runnerId.isEmpty (.ofText 1 message.runnerId) ++
    message.files.map fun copy => .ofBytes 2 (Field.encodeAll copy.toFields)

def merge (message : CopyFilesRequest) (field : Field) : Option CopyFilesRequest :=
  match field.number with
  | 1 => field.text?.map fun runnerId => { message with runnerId }
  | 2 => do
      let copy ← FileCopy.ofBytes? (← field.bytes?)
      return { message with files := message.files ++ [copy] }
  | _ => some message

def encode (message : CopyFilesRequest) : Bytes := Field.encodeAll message.toFields

def decode? (bytes : Bytes) : Option CopyFilesRequest := do
  (← Field.decodeAll? bytes).foldlM merge ⟨"", []⟩

end CopyFilesRequest

/-! ## Attaching to a command -/

structure AttachRequest where
  runnerId : String
  command : String
  deriving DecidableEq

namespace AttachRequest

def toFields (message : AttachRequest) : List Field :=
  Field.unlessDefault message.runnerId.isEmpty (.ofText 1 message.runnerId) ++
    Field.unlessDefault message.command.isEmpty (.ofText 2 message.command)

def merge (message : AttachRequest) (field : Field) : Option AttachRequest :=
  match field.number with
  | 1 => field.text?.map fun runnerId => { message with runnerId }
  | 2 => field.text?.map fun command => { message with command }
  | _ => some message

def encode (message : AttachRequest) : Bytes := Field.encodeAll message.toFields

def decode? (bytes : Bytes) : Option AttachRequest := do
  (← Field.decodeAll? bytes).foldlM merge ⟨"", ""⟩

end AttachRequest

/-! ## Events -/

/-- A report of a running command. An event is written even if it holds a default value. -/
structure EventMessage where
  event : Option Event
  deriving DecidableEq

namespace EventMessage

def fieldOf : Event → Field
  | .stdout chunk => .ofText 1 chunk
  | .stderr chunk => .ofText 2 chunk
  | .exit code => .ofWord 3 (signedWord code.toInt64)

def toFields (message : EventMessage) : List Field := (message.event.map fieldOf).toList

def merge (message : EventMessage) (field : Field) : Option EventMessage :=
  match field.number with
  | 1 => field.text?.map fun chunk => ⟨some (.stdout chunk)⟩
  | 2 => field.text?.map fun chunk => ⟨some (.stderr chunk)⟩
  | 3 => field.word?.map fun value => ⟨some (.exit (Int32.ofNat value))⟩
  | _ => some message

def encode (message : EventMessage) : Bytes := Field.encodeAll message.toFields

def decode? (bytes : Bytes) : Option EventMessage := do
  (← Field.decodeAll? bytes).foldlM merge ⟨none⟩

end EventMessage

/-! ## Nothing -/

/-- A message without fields: whatever fields there are, they are skipped. -/
def decodeEmpty? (bytes : Bytes) : Option Unit :=
  (Field.decodeAll? bytes).map fun _ => ()

example : EventMessage.encode ⟨some (.exit (-1))⟩ =
    [0x18, 0xFF, 0xFF, 0xFF, 0xFF, 0xFF, 0xFF, 0xFF, 0xFF, 0xFF, 0x01] := by decide +kernel
example : RunnerMessage.encode ⟨""⟩ = [] := by decide +kernel

end Grading.Wire
