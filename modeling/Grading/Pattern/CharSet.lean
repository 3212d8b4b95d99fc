import Grading.Text.Character

namespace Grading.Pattern

/-! Sets of characters, as patterns describe them. -/

inductive CharSet
  | nothing
  | range (first last : Char)
  | word
  | digit
  | blank
  | letter
  | capital
  | small
  | numeral
  | codes (ranges : List (Nat × Nat))
  | union (left right : CharSet)
  | intersection (left right : CharSet)
  | difference (left right : CharSet)
  /-- What belongs to exactly one of the two. -/
  | exclusive (left right : CharSet)
  | complement (set : CharSet)
  /-- All characters that differ at most in case from one of the set. -/
  | folded (set : CharSet)
  deriving DecidableEq, Repr

namespace CharSet

def contains : CharSet → Char → Bool
  | nothing, _ => false
  | range first last, character => first ≤ character && character ≤ last
  | word, character => Text.isWordCharacter character
  | digit, character => Text.isDecimalDigit character
  | blank, character => Text.isBlank character
  | letter, character => Text.isLetter character
  | capital, character => Text.isUppercase character
  | small, character => Text.isLowercase character
  | numeral, character => Text.isNumeral character
  | codes ranges, character => Text.covers ranges character.toNat
  | union left right, character => left.contains character || right.contains character
  | intersection left right, character => left.contains character && right.contains character
  | difference left right, character => left.contains character && !right.contains character
  | exclusive left right, character => left.contains character != right.contains character
  | complement set, character => !set.contains character
  | folded set, character => (Text.caseClass character).any fun other => set.contains other

def single (character : Char) : CharSet := range character character

def anything : CharSet := complement nothing

def unionAll : List CharSet → CharSet
  | [] => nothing
  | [set] => set
  | set :: rest => union set (unionAll rest)

@[simp] theorem contains_single (expected character : Char) :
    (single expected).contains character = true ↔ character = expected := by
  simp only [single, contains, Bool.and_eq_true, decide_eq_true_eq]
  constructor
  · intro ⟨above, below⟩
    exact Char.le_antisymm below above
  · intro equal
    subst equal
    exact ⟨Char.le_refl _, Char.le_refl _⟩

@[simp] theorem contains_complement (set : CharSet) (character : Char) :
    (complement set).contains character = !set.contains character := rfl

/-! ## Weight

A pattern becomes an automaton that reads the bytes of a text. Its weight is the memory which that
takes, as far as it can be told from the parts. -/

def stepWeight : Nat := 32

/-- The weight of one of many ranges, which share some of their steps. -/
def rangeWeight : Nat := 60

def weight : CharSet → Nat
  | nothing => stepWeight
  | range first last =>
      if Text.isAscii last || first == last then stepWeight * first.utf8Size else 4 * rangeWeight
  | word => 49836
  | digit => 5116
  | blank => 680
  | letter => 47072
  | capital => 26976
  | small => 28196
  | numeral => 9748
  | codes ranges => rangeWeight * ranges.length
  | union left right => left.weight + right.weight
  | intersection left right => left.weight + right.weight
  | difference left right => left.weight + right.weight
  | exclusive left right => left.weight + right.weight
  | complement set => set.weight + 10 * rangeWeight
  | folded set => 2 * set.weight

/-! ## Named sets of ASCII -/

def ranges (pairs : List (Char × Char)) : CharSet :=
  unionAll (pairs.map fun (first, last) => range first last)

def asciiDigit : CharSet := ranges [('0', '9')]

def asciiBlank : CharSet := ranges [('\t', '\r'), (' ', ' ')]

def asciiWord : CharSet := ranges [('0', '9'), ('A', 'Z'), ('_', '_'), ('a', 'z')]

def asciiClasses : List (String × CharSet) :=
  [("alnum", ranges [('0', '9'), ('A', 'Z'), ('a', 'z')]),
    ("alpha", ranges [('A', 'Z'), ('a', 'z')]), ("ascii", ranges [('\x00', '\x7f')]),
    ("blank", ranges [('\t', '\t'), (' ', ' ')]),
    ("cntrl", ranges [('\x00', '\x1f'), ('\x7f', '\x7f')]), ("digit", asciiDigit),
    ("graph", ranges [('!', '~')]), ("lower", ranges [('a', 'z')]),
    ("print", ranges [(' ', '~')]),
    ("punct", ranges [('!', '/'), (':', '@'), ('[', '\x60'), ('\x7b', '~')]),
    ("space", asciiBlank), ("upper", ranges [('A', 'Z')]), ("word", asciiWord),
    ("xdigit", ranges [('0', '9'), ('A', 'F'), ('a', 'f')])]

end CharSet

end Grading.Pattern
