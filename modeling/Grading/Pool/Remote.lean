import Grading.Pool.Basic

namespace Grading

/-! Pools whose runners belong to a runner-management service. -/

structure Status where
  code : Nat
  message : String
  deriving DecidableEq, Repr

namespace Status

def notFound : Nat := 5

def resourceExhausted : Nat := 8

def failedPrecondition : Nat := 9

def unavailable : Nat := 14

def acquireError (status : Status) (environmentId : Nat) : RunnerError :=
  if status.code = resourceExhausted then .depleted environmentId
  else .allocation status.message

def streamError (status : Status) (runnerId : String) : RunnerError :=
  if status.code = resourceExhausted then .outOfMemory
  else if status.code = failedPrecondition then .inUse runnerId
  else .connection status.message

def copyError (status : Status) : RunnerError :=
  .allocation ("copying files failed: " ++ status.message)

/-- What a status means in giving a runner back. A runner that is gone was given back already. -/
def releaseResult (status : Status) : Except RunnerError Unit :=
  if status.code = notFound then .ok () else .error (.connection status.message)

end Status

structure MessageStream where
  items : List (Nat × Except Status Wire.EventMessage)
  ending : StreamEnd

namespace MessageStream

/-- Messages as events. A message without an event is passed over. `carried` is the pause of the
messages that were. -/
def eventsAfter (runnerId : String) (carried : Nat) :
    List (Nat × Except Status Wire.EventMessage) → List StreamItem × Nat
  | [] => ([], carried)
  | (pause, content) :: rest =>
      let item? : Option (Except RunnerError Event) := match content with
        | .error status => some (.error (status.streamError runnerId))
        | .ok message => message.event.map .ok
      match item? with
      | none => eventsAfter runnerId (carried + pause) rest
      | some item =>
          let (items, last) := eventsAfter runnerId 0 rest
          (⟨carried + pause, item⟩ :: items, last)

def toEventStream (runnerId : String) (stream : MessageStream) : EventStream :=
  let (items, last) := eventsAfter runnerId 0 stream.items
  match stream.ending with
  | .closes pause => ⟨items, .closes (last + pause)⟩
  | .hangs => ⟨items, .hangs⟩

end MessageStream

/-- A reply after a while, or none at all. -/
abbrev Reply (α : Type) := Option (Nat × α)

/-- A runner-management service. What it replies can depend on all earlier calls. -/
structure Service where
  acquire : List ServiceCall → Wire.AcquireRequest → Reply (Except Status Wire.RunnerMessage)
  copyFiles : List ServiceCall → Wire.CopyFilesRequest → Reply (Except Status Unit)
  attach : List ServiceCall → Wire.AttachRequest → Reply (Except Status MessageStream)
  release : List ServiceCall → Wire.RunnerMessage → Reply (Except Status Unit)

namespace Service

def unreachable : Service :=
  let status : Status := ⟨Status.unavailable, "tcp connect error"⟩
  { acquire := fun _ _ => some (0, .error status)
    copyFiles := fun _ _ => some (0, .error status)
    attach := fun _ _ => some (0, .error status)
    release := fun _ _ => some (0, .error status) }

def readyRunner (message : Wire.RunnerMessage) (principal : String) (environment : Environment) :
    Except RunnerError Runner :=
  (Runner.new message.runnerId principal environment.id).prepare [.allocating, .ready]

/-- Gives a runner back whose files could not be copied, and reports why. -/
def abortAcquisition (service : Service) (history : List ServiceCall)
    (calls : List (Nat × ServiceCall)) (pause : Nat) (message : Wire.RunnerMessage)
    (status : Status) : Answer (Except RunnerError Runner) :=
  let calls := calls ++ [(pause, .release message)]
  match service.release (history ++ calls.dropLast.map Prod.snd) message with
  | none => ⟨calls, none⟩
  | some (last, _) => ⟨calls, some (pause + last, .error status.copyError)⟩

def copyAfter (service : Service) (history : List ServiceCall) (calls : List (Nat × ServiceCall))
    (pause : Nat) (message : Wire.RunnerMessage) (principal : String) (environment : Environment)
    (files : List SubmissionFile) : Answer (Except RunnerError Runner) :=
  let request : Wire.CopyFilesRequest := ⟨message.runnerId, files.map Wire.FileCopy.ofFile⟩
  match service.copyFiles (history ++ calls.map Prod.snd) request with
  | none => ⟨calls ++ [(pause, .copyFiles request)], none⟩
  | some (second, .ok ()) =>
      ⟨calls ++ [(pause, .copyFiles request)],
        some (pause + second, readyRunner message principal environment)⟩
  | some (second, .error status) =>
      service.abortAcquisition history (calls ++ [(pause, .copyFiles request)]) (pause + second)
        message status

/-- Acquires a runner: the service names one, and the files are copied to it. -/
def acquisition (service : Service) (history : List ServiceCall) (principal : String)
    (environment : Environment) (files : List SubmissionFile) :
    Answer (Except RunnerError Runner) :=
  let request := Wire.AcquireRequest.ofEnvironment principal environment
  let calls := [(0, .acquire request)]
  match service.acquire history request with
  | none => ⟨calls, none⟩
  | some (pause, .error status) =>
      ⟨calls, some (pause, .error (status.acquireError environment.id))⟩
  | some (pause, .ok message) =>
      service.copyAfter history calls pause message principal environment files

def attachment (service : Service) (history : List ServiceCall) (runner : Runner)
    (command : String) : Answer (Except RunnerError EventStream) :=
  let request : Wire.AttachRequest := ⟨runner.id, command⟩
  ⟨[(0, .attach request)], (service.attach history request).map fun (pause, reply) =>
    (pause, match reply with
      | .ok stream => .ok (stream.toEventStream runner.id)
      | .error status => .error (status.streamError runner.id))⟩

def releasing (service : Service) (history : List ServiceCall) (runner : Runner) :
    Answer (Except RunnerError Unit) :=
  let request : Wire.RunnerMessage := ⟨runner.id⟩
  ⟨[(0, .release request)], (service.release history request).map fun (pause, reply) =>
    (pause, match reply with
      | .ok () => .ok ()
      | .error status => status.releaseResult)⟩

def toPool (service : Service) : Pool where
  acquire log := service.acquisition log.calls
  attach log := service.attachment log.calls
  release log := service.releasing log.calls

end Service

end Grading
