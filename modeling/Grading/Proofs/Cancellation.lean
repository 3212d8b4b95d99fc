import Grading.Proofs.Waiting

namespace Grading

/-! What a cancellation does to a pass: the command that is under way then ends with what arrived
before, and those that come later are not started. -/

/-! ## What arrives -/

namespace EventStream

/-- The events that arrive when all of them are taken at once, each with its instant. -/
def arrivalsFrom (now : Nat) : List StreamItem → List (Nat × Event)
  | [] => []
  | item :: rest =>
      match item.content with
      | .ok event => (now + item.pause, event) :: arrivalsFrom (now + item.pause) rest
      | .error _ => arrivalsFrom (now + item.pause) rest

/-- Those that arrive before an instant. -/
def heardBefore (instant now : Nat) (items : List StreamItem) : List Event :=
  ((arrivalsFrom now items).filter (·.1 < instant)).map Prod.snd

end EventStream

/-- What has been heard before an instant of a command that was asked for at `started`. -/
def Answer.heardBefore (answer : Answer (Except RunnerError EventStream)) (instant started : Nat) :
    List Event :=
  match answer.reply with
  | some (pause, .ok stream) => EventStream.heardBefore instant (started + pause) stream.items
  | _ => []

/-! ## Cancelled commands -/

namespace Limits

variable {limits : Limits} {now instant : Nat} {due : Option Nat} {ending : Nat × ExecutionFailure}

end Limits

namespace Connection

variable {started now instant : Nat} {limits : Limits} {ending : StreamEnd}
  {output : CapturedOutput} {items : List StreamItem} {finish : Finish}

end Connection

/-! ## Cancelled jobs -/

namespace Course

variable {limits : Limits} {started : Nat}

end Course

namespace Job

variable {job : Job} {answer : Answer (Except RunnerError EventStream)} {started instant : Nat}
  {finish : Finish}

end Job

/-! ## Cancelled passes -/

/-- What becomes of a visit in a pass that is cancelled at an instant. -/
inductive Visit.CutOff (work cutWork : Assignment)
    (answer : String → Answer (Except RunnerError EventStream)) (instant : Nat)
    (visit cut : Visit) : Prop
  | finished (early : visit.trial.finish.instant < instant) (started : visit.start < instant)
      (same : cut = visit)
  | stopped (heard : List Event) (started : visit.start < instant)
      (late : instant ≤ visit.trial.finish.instant) (start : cut.start = visit.start)
      (file : cut.trial.file = visit.trial.file) (waiting : cut.trial.waiting = visit.trial.waiting)
      (hears : heard = (answer (visit.job work).command).heardBefore instant visit.start)
      (finish : cut.trial.finish = ⟨instant,
        .error ⟨.cancelled, .ofEvents heard, ⟨instant - visit.start⟩⟩, heard, none⟩)
  | skipped (late : instant ≤ visit.start) (file : cut.trial.file = visit.trial.file)
      (result : cut.trial.finish.result = .error ⟨.cancelled, .empty, .zero⟩)
      (unasked : (cut.job cutWork).requests cut.start = [])

namespace Succession

variable {work cutWork : Assignment} {answer : String → Answer (Except RunnerError EventStream)}
  {instant : Nat}

end Succession

end Grading
