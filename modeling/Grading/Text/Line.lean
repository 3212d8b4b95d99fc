import Grading.Text.Character

namespace Grading.Text

/-! Cutting text: blanks at the ends, lines, the parts around a separator. -/

def trimStart (text : List Char) : List Char :=
  text.dropWhile isBlank

def trimEnd (text : List Char) : List Char :=
  (text.reverse.dropWhile isBlank).reverse

def trim (text : List Char) : List Char :=
  trimEnd (trimStart text)

def dropEndWhile (accepts : Char → Bool) (text : List Char) : List Char :=
  (text.reverse.dropWhile accepts).reverse

/-- A carriage return at the end of a line belongs to the line break. -/
def dropCarriageReturn (line : List Char) : List Char :=
  match line.reverse with
  | '\r' :: rest => rest.reverse
  | _ => line

/-- The lines of a text. A line ends with a line feed, which a carriage return may precede; the text
after the last line feed is a line unless it is empty, and keeps its carriage return. -/
def lines (text : List Char) : List (List Char) :=
  go [] text
where
  go (line : List Char) : List Char → List (List Char)
    | [] => if line.isEmpty then [] else [line.reverse]
    | '\n' :: rest => dropCarriageReturn line.reverse :: go [] rest
    | character :: rest => go (character :: line) rest

example : lines "a\r\n\nb\r".toList = ["a".toList, [], "b\r".toList] := by decide

/-- What follows the last separator, or the whole text if there is none. -/
def afterLast (separator : Char) (text : List Char) : List Char :=
  (text.reverse.takeWhile (· != separator)).reverse

def beforeLast? (separator : Char) (text : List Char) : Option (List Char) :=
  match text.reverse.dropWhile (· != separator) with
  | [] => none
  | _ :: rest => some rest.reverse

example : afterLast '/' "a/b/c".toList = ['c'] := by decide
example : beforeLast? '.' "a.b.c".toList = some "a.b".toList := by decide
example : beforeLast? '.' "abc".toList = none := by decide

end Grading.Text
