import Grading.Execution

namespace Grading

/-! Channels hand events on to a receiver. A channel holds a limited number of events; when it is
full, sending waits until the receiver takes one or leaves. -/

inductive Reception
  | take (pause : Nat)
  /-- It leaves, a pause after the last event. -/
  | leave (pause : Nat)
  /-- It stays and takes nothing more. -/
  | idle
  deriving DecidableEq, Repr

structure Receiver where
  capacity : Nat
  /-- What the receiver does after so many events. -/
  reception : Nat → Reception

namespace Receiver

def eager : Receiver := ⟨1, fun _ => .take 0⟩

def leavingAfter (count : Nat) : Receiver :=
  ⟨1, fun taken => if taken < count then .take 0 else .leave 0⟩

end Receiver

/-- An open or closed channel: the instant since when it is open, and the events that were sent,
each with its instant. -/
structure Channel where
  receiver : Receiver
  opened : Nat
  isOpen : Bool
  sent : List (Nat × Event)

namespace Channel

def new (receiver : Receiver) (opened : Nat) : Channel := ⟨receiver, opened, true, []⟩

/-- When the receiver takes the events sent at these instants, and when it leaves. `taken` events
were taken before, the last one at `since`. -/
def receipts (receiver : Receiver) (taken since : Nat) : List Nat → List Nat × Option Nat
  | [] =>
      match receiver.reception taken with
      | .leave pause => ([], some (since + pause))
      | _ => ([], none)
  | sent :: rest =>
      match receiver.reception taken with
      | .take pause =>
          let instant := max (since + pause) sent
          let (instants, left) := receipts receiver (taken + 1) instant rest
          (instant :: instants, left)
      | .leave pause => ([], some (since + pause))
      | .idle => ([], none)

def receiptsOf (channel : Channel) : List Nat × Option Nat :=
  receipts channel.receiver 0 channel.opened (channel.sent.map Prod.fst)

def received (channel : Channel) : List Event :=
  (channel.sent.take channel.receiptsOf.1.length).map Prod.snd

/-- The channel as it was before an instant. -/
def asOf (channel : Channel) (instant : Nat) : Channel :=
  { channel with sent := channel.sent.filter (·.1 < instant) }

/-- From when on the channel has room for one more event: when enough of the others were taken. It
never has, if the receiver stops before. -/
def roomFrom? (channel : Channel) (taken : List Nat) : Option Nat :=
  if channel.sent.length < channel.receiver.capacity then some 0
  else taken[channel.sent.length - channel.receiver.capacity]?

def close (channel : Channel) : Channel := { channel with isOpen := false }

/-- Sends an event: when that is done, and the channel then. Sending to a receiver that has left
closes the channel. Without a result the sending never ends. -/
def send (channel : Channel) (now : Nat) (event : Event) : Option (Nat × Channel) :=
  if !channel.isOpen then some (now, channel)
  else
    let (taken, left) := channel.receiptsOf
    if left.any (· ≤ now) then some (now, channel.close)
    else
      match channel.roomFrom? taken, left with
      | some instant, _ =>
          let instant := max now instant
          some (instant, { channel with sent := channel.sent ++ [(instant, event)] })
      | none, some instant => some (instant, channel.close)
      | none, none => none

end Channel

end Grading
