import Grading.Channel
import Grading.EventStream

namespace Grading

/-! Listening to a running command until it exits, fails, or is given up. -/

/-- Until when something is waited for: a deadline, and perhaps a cancellation. -/
structure Limits where
  deadline : Nat
  cancellation : Option Nat
  deriving DecidableEq, Repr

namespace Limits

/-- What ends the waiting from `now` on for something that happens at an instant, or never. What is
due at the same instant counts in the order of cancellation, deadline and the thing itself. -/
def cutoff? (limits : Limits) (now : Nat) (instant : Option Nat) :
    Option (Nat × ExecutionFailure) :=
  let expiry := max now limits.deadline
  match limits.cancellation.map (max now) with
  | some cancelled =>
      if cancelled ≤ expiry ∧ instant.all (cancelled ≤ ·) then some (cancelled, .cancelled)
      else if instant.all (expiry ≤ ·) then some (expiry, .timeout)
      else none
  | none => if instant.all (expiry ≤ ·) then some (expiry, .timeout) else none

theorem isSome_cutoff?_none (limits : Limits) (now : Nat) :
    (limits.cutoff? now none).isSome := by
  simp only [cutoff?, Option.all_none]
  split
  · split <;> simp
  · simp

theorem failure_of_cutoff? {limits : Limits} {now : Nat} {instant : Option Nat}
    {ending : Nat × ExecutionFailure} (cut : limits.cutoff? now instant = some ending) :
    ending.2 = .timeout ∨ ending.2 = .cancelled := by
  simp only [cutoff?] at cut
  split at cut
  · split at cut
    · cases cut
      exact .inr rfl
    · split at cut
      · cases cut
        exact .inl rfl
      · cases cut
  · split at cut
    · cases cut
      exact .inl rfl
    · cases cut

def reached? (limits : Limits) (now : Nat) : Option ExecutionFailure :=
  (limits.cutoff? now (some now)).map Prod.snd

end Limits

/-- How the listening ended, when, the events that were listened to, and the channel then. -/
structure Finish where
  instant : Nat
  result : ExecutionResult
  heard : List Event
  channel : Option Channel

namespace Finish

def after (event : Event) (finish : Finish) : Finish :=
  { finish with heard := event :: finish.heard }

end Finish

structure Connection where
  stream : EventStream
  /-- Where events are handed on. -/
  channel : Option Channel

namespace Connection

/-- Why a stream that ends without an exit is a failure. -/
def closedEarly : RunnerError := .connection "event stream closed before exit"

/-- Hands an event on: when that is done, and the channel then. -/
def forward (channel : Option Channel) (now : Nat) (event : Event) :
    Option (Nat × Option Channel) :=
  match channel with
  | none => some (now, none)
  | some channel =>
      (channel.send now event).map fun (instant, channel) => (instant, some channel)

def failed (started now : Nat) (output : CapturedOutput) (failure : ExecutionFailure) :
    ExecutionResult :=
  .error ⟨failure, output, ⟨now - started⟩⟩

def listen (started : Nat) (limits : Limits) (ending : StreamEnd) (now : Nat)
    (output : CapturedOutput) (channel : Option Channel) : List StreamItem → Option Finish
  | [] =>
      match limits.cutoff? now (ending.instant? now) with
      | some (instant, failure) =>
          some ⟨instant, failed started instant output failure, [], channel⟩
      | none =>
          let instant := (ending.instant? now).getD now
          some ⟨instant, failed started instant output (.runner closedEarly), [], channel⟩
  | item :: rest =>
      let arrival := now + item.pause
      match limits.cutoff? now (some arrival) with
      | some (instant, failure) =>
          some ⟨instant, failed started instant output failure, [], channel⟩
      | none =>
          match item.content with
          | .error source =>
              some ⟨arrival, failed started arrival output (.runner source), [], channel⟩
          | .ok event =>
              match forward channel arrival event with
              | none => none
              | some (instant, channel) =>
                  match event with
                  | .exit code =>
                      some ⟨instant, .ok ⟨code, output, ⟨instant - started⟩⟩, [.exit code], channel⟩
                  | event =>
                      (listen started limits ending instant (output.append event) channel rest).map
                        (Finish.after event)

/-- Listens from `now` on until exit, failure, deadline or cancellation. While an event cannot be
handed on, nothing else is noticed; without a result that lasts for ever. -/
def wait (connection : Connection) (now : Nat) (limits : Limits) : Option Finish :=
  listen now limits connection.stream.ending now .empty connection.channel connection.stream.items

def text (connection : Connection) (cancelled : Bool) : String :=
  "Connection \x7b cancelled: " ++ toString cancelled ++ ", forwarding: " ++
    toString connection.channel.isSome ++ " \x7d"

end Connection

end Grading
