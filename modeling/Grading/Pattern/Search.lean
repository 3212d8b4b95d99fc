import Grading.Pattern.Program

namespace Grading.Pattern

/-! Searching a text for the first match of a program. All ways through the program are tried in the
order of preference; an instruction that was reached at a place once is never tried there again,
since it would lead nowhere a second time. -/

/-- Places remembered under numbers, the latest first. -/
abbrev Marks := List (Nat × Nat)

structure Thread where
  instruction : Nat
  cursor : Cursor
  marks : Marks

structure Visited where
  flags : Array Bool
  width : Nat

namespace Visited

def empty (program : Program) (width : Nat) : Visited :=
  ⟨Array.replicate (program.instructions.size * width) false, width⟩

def slot (visited : Visited) (thread : Thread) : Nat :=
  thread.instruction * visited.width + thread.cursor.position

def contains (visited : Visited) (thread : Thread) : Bool :=
  visited.flags.getD (visited.slot thread) true

def insert (visited : Visited) (thread : Thread) : Visited :=
  { visited with flags := visited.flags.setIfInBounds (visited.slot thread) true }

end Visited

/-- What an instruction leads to: the end of a match, or threads in the order of preference. -/
inductive Step
  | matched
  | threads (next : List Thread)

namespace Thread

def step (program : Program) (thread : Thread) : Step :=
  match program.instructions[thread.instruction]? with
  | none => .threads []
  | some .accept => .matched
  | some (.consume set next) =>
      match thread.cursor.rest with
      | [] => .threads []
      | character :: rest =>
          if set.contains character then
            .threads [⟨next, ⟨some character, rest, thread.cursor.position + 1⟩, thread.marks⟩]
          else .threads []
  | some (.check condition next) =>
      if condition.holds thread.cursor then .threads [{ thread with instruction := next }]
      else .threads []
  | some (.mark slot next) =>
      .threads [⟨next, thread.cursor, (slot, thread.cursor.position) :: thread.marks⟩]
  | some (.fork first second) =>
      .threads [{ thread with instruction := first }, { thread with instruction := second }]

end Thread

/-- Tries the threads of a stack until one ends a match. A thread leads to at most two others, and
only the first time that its instruction is tried at its place. -/
def explore (program : Program) : (fuel : Nat) → Visited → List Thread → Option Thread × Visited
  | 0, visited, _ => (none, visited)
  | _ + 1, visited, [] => (none, visited)
  | fuel + 1, visited, thread :: stack =>
      if visited.contains thread then explore program fuel visited stack
      else
        match thread.step program with
        | .matched => (some thread, visited)
        | .threads next => explore program fuel (visited.insert thread) (next ++ stack)

/-- More than all threads that can come up in one search. -/
def exploreFuel (program : Program) (width : Nat) : Nat :=
  2 * program.instructions.size * width + 2

/-- The places of a match, and the places remembered on the way. -/
structure Match where
  first : Nat
  behind : Cursor
  marks : Marks

namespace Match

def isEmpty (found : Match) : Bool := found.first == found.behind.position

end Match

/-- The match that starts at the cursor, and what was tried to find it. -/
def matchAt (program : Program) (fuel : Nat) (visited : Visited) (cursor : Cursor) :
    Option Match × Visited :=
  match explore program fuel visited [⟨program.start, cursor, []⟩] with
  | (some thread, visited) => (some ⟨cursor.position, thread.cursor, thread.marks⟩, visited)
  | (none, visited) => (none, visited)

/-- The first match that starts at the place before `rest` or behind it. What was tried from earlier
starts is not tried again. -/
def searchFrom (program : Program) (fuel : Nat) (visited : Visited) (before : Option Char)
    (position : Nat) : (rest : List Char) → Option Match
  | [] => (matchAt program fuel visited ⟨before, [], position⟩).1
  | character :: rest =>
      match matchAt program fuel visited ⟨before, character :: rest, position⟩ with
      | (some found, _) => some found
      | (none, visited) =>
          searchFrom program fuel visited (some character) (position + 1) rest

namespace Program

def find? (program : Program) (cursor : Cursor) : Option Match :=
  let width := cursor.position + cursor.rest.length + 1
  searchFrom program (exploreFuel program width) (Visited.empty program width) cursor.before
    cursor.position cursor.rest

/-- All matches from the cursor on, one behind the other. An empty match right behind the last one
does not count. -/
def findAllWithin (program : Program) : (fuel : Nat) → Cursor → Option Nat → List Match
  | 0, _, _ => []
  | fuel + 1, cursor, lastEnd =>
      match program.find? cursor with
      | none => []
      | some found =>
          if found.isEmpty && lastEnd == some found.behind.position then
            match cursor.advance? with
            | none => []
            | some next => findAllWithin program fuel next lastEnd
          else found :: findAllWithin program fuel found.behind (some found.behind.position)

/-- All matches in a text. Every second search gets further, so twice its length is enough. -/
def findAll (program : Program) (text : List Char) : List Match :=
  findAllWithin program (2 * text.length + 2) (.start text) none

end Program

end Grading.Pattern
