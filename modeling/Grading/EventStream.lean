import Grading.Execution

namespace Grading

/-! Streams of events. A stream is read on demand: each item takes its pause from the moment in
which it is asked for. -/

inductive StreamEnd
  /-- Nothing more comes, after a pause. -/
  | closes (pause : Nat)
  /-- Something more could come for ever. -/
  | hangs
  deriving DecidableEq, Repr

def StreamEnd.instant? (now : Nat) : StreamEnd → Option Nat
  | closes pause => some (now + pause)
  | hangs => none

/-- An event or an error, after a pause in nanoseconds. -/
structure StreamItem where
  pause : Nat
  content : Except RunnerError Event

structure EventStream where
  items : List StreamItem
  ending : StreamEnd

namespace EventStream

def ofContents (contents : List (Except RunnerError Event)) (ending : StreamEnd) : EventStream :=
  ⟨contents.map (StreamItem.mk 0), ending⟩

def delayed (pause : Nat) (stream : EventStream) : EventStream :=
  match stream.items, stream.ending with
  | first :: rest, ending => ⟨{ first with pause := pause + first.pause } :: rest, ending⟩
  | [], .closes last => ⟨[], .closes (pause + last)⟩
  | [], .hangs => stream

def contents (stream : EventStream) : List (Except RunnerError Event) :=
  stream.items.map StreamItem.content

end EventStream

end Grading
