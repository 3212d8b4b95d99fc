import Grading.Pattern.Reader
import Grading.Pattern.Search

namespace Grading

/-! Patterns: expressions with the names of their groups, ready to be searched for. -/

structure Pattern where
  expression : Pattern.Expression
  /-- The named groups and their numbers, in the order of their numbers. -/
  names : List (String × Nat)
  program : Pattern.Program

namespace Pattern

def weightLimit : Nat := 10 * Nat.pow 2 20

def ofExpression (expression : Expression) (names : List (String × Nat)) : Pattern :=
  ⟨expression, names, .ofExpression expression⟩

/-- The pattern of its written form. Groups that are repeated no times are gone, and their names
with them. -/
def ofText (text : String) : Except PatternError Pattern := do
  let (expression, names) ← Reader.expression text
  if expression.weight > weightLimit then throw .tooLarge
  return ofExpression expression (names.filter fun (_, index) => expression.hasGroup index)

def groupCount (pattern : Pattern) : Nat := pattern.expression.lastGroup

def slice (text : List Char) (first behind : Nat) : List Char :=
  (text.drop first).take (behind - first)

namespace Match

def text (whole : List Char) (found : Match) : List Char :=
  slice whole found.first found.behind.position

/-- The text of a group, unless the group took no part in the match. Group zero is the match. -/
def group? (whole : List Char) (found : Match) (index : Nat) : Option (List Char) :=
  if index = 0 then some (found.text whole)
  else do
    let first ← found.marks.lookup (2 * index)
    let behind ← found.marks.lookup (2 * index + 1)
    return slice whole first behind

def groupText (whole : List Char) (found : Match) (index : Nat) : List Char :=
  (found.group? whole index).getD []

end Match

def find? (pattern : Pattern) (text : List Char) : Option Match :=
  pattern.program.find? (.start text)

/-- All matches in a text, one behind the other. -/
def findAll (pattern : Pattern) (text : List Char) : List Match :=
  pattern.program.findAll text

end Pattern

end Grading
