import Grading.Pattern.CharSet

namespace Grading.Pattern

/-! Regular expressions, and the places in a text that they can ask for. -/

/-- A place in a text: the character before it, what follows it, and how many characters precede
it. -/
structure Cursor where
  before : Option Char
  rest : List Char
  position : Nat
  deriving DecidableEq, Repr

namespace Cursor

def start (text : List Char) : Cursor := ⟨none, text, 0⟩

def advance? (cursor : Cursor) : Option Cursor :=
  match cursor.rest with
  | [] => none
  | character :: rest => some ⟨some character, rest, cursor.position + 1⟩

def isAfterWord (cursor : Cursor) : Bool := cursor.before.any Text.isWordCharacter

def isBeforeWord (cursor : Cursor) : Bool := cursor.rest.head?.any Text.isWordCharacter

end Cursor

inductive Condition
  | textStart
  | textEnd
  /-- A line starts behind a line feed; with `returns` also behind a carriage return that no line
  feed follows. -/
  | lineStart (returns : Bool)
  /-- A line ends before a line feed; with `returns` before a carriage return and before a line feed
  that follows none. -/
  | lineEnd (returns : Bool)
  | wordBoundary
  | noWordBoundary
  | wordStart
  | wordEnd
  | afterNoWord
  | beforeNoWord
  deriving DecidableEq, Repr

namespace Condition

def holds (condition : Condition) (cursor : Cursor) : Bool :=
  let next := cursor.rest.head?
  match condition with
  | textStart => cursor.before.isNone
  | textEnd => cursor.rest.isEmpty
  | lineStart false => cursor.before.all (· == '\n')
  | lineStart true =>
      cursor.before.all (· == '\n') || (cursor.before == some '\r' && next != some '\n')
  | lineEnd false => next.all (· == '\n')
  | lineEnd true =>
      next.all (· == '\r') || (next == some '\n' && cursor.before != some '\r')
  | wordBoundary => cursor.isAfterWord != cursor.isBeforeWord
  | noWordBoundary => cursor.isAfterWord == cursor.isBeforeWord
  | wordStart => !cursor.isAfterWord && cursor.isBeforeWord
  | wordEnd => cursor.isAfterWord && !cursor.isBeforeWord
  | afterNoWord => !cursor.isAfterWord
  | beforeNoWord => !cursor.isBeforeWord

end Condition

inductive Expression
  | empty
  | one (set : CharSet)
  | condition (condition : Condition)
  /-- An expression whose text is remembered under a number. -/
  | group (index : Nat) (inner : Expression)
  | concat (first second : Expression)
  /-- The first alternative is preferred. -/
  | either (first second : Expression)
  /-- At least `least` and, if there is a `most`, at most that many times: as often as possible if
  `greedy`, as seldom as possible otherwise. -/
  | loop (inner : Expression) (least : Nat) (most : Option Nat) (greedy : Bool)
  deriving DecidableEq, Repr

namespace Expression

def concatAll : List Expression → Expression
  | [] => empty
  | [expression] => expression
  | expression :: rest => concat expression (concatAll rest)

def eitherAll : List Expression → Expression
  | [] => empty
  | [expression] => expression
  | expression :: rest => either expression (eitherAll rest)

def literal (text : String) : Expression :=
  concatAll (text.toList.map fun character => one (CharSet.single character))

def isNullable : Expression → Bool
  | empty => true
  | one _ => false
  | condition _ => true
  | group _ inner => inner.isNullable
  | concat first second => first.isNullable && second.isNullable
  | either first second => first.isNullable || second.isNullable
  | loop inner least _ _ => least == 0 || inner.isNullable

/-- The number of the last group, or zero. -/
def lastGroup : Expression → Nat
  | empty => 0
  | one _ => 0
  | condition _ => 0
  | group index inner => max index inner.lastGroup
  | concat first second => max first.lastGroup second.lastGroup
  | either first second => max first.lastGroup second.lastGroup
  | loop inner _ _ _ => inner.lastGroup

def hasGroup (number : Nat) : Expression → Bool
  | empty => false
  | one _ => false
  | condition _ => false
  | group index inner => index == number || inner.hasGroup number
  | concat first second => first.hasGroup number || second.hasGroup number
  | either first second => first.hasGroup number || second.hasGroup number
  | loop inner _ _ _ => inner.hasGroup number

/-- The weight of an automaton for the expression, in which repetitions are written out. -/
def weight : Expression → Nat
  | empty => 0
  | one set => set.weight
  | condition _ => CharSet.stepWeight
  | group _ inner => inner.weight + 2 * CharSet.stepWeight
  | concat first second => first.weight + second.weight
  | either first second => first.weight + second.weight + CharSet.stepWeight
  | loop inner least none _ => inner.weight * max 1 least + CharSet.stepWeight
  | loop inner least (some most) _ =>
      inner.weight * most + CharSet.stepWeight * (most - least)

end Expression

end Grading.Pattern
