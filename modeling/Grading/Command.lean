import Grading.Text.Line
import Grading.Text.Replacement

namespace Grading

/-! Command lines with placeholders for the file they work on. -/

/-- A command line that can name a file by its class, its path or its module. -/
structure CommandTemplate where
  text : String
  deriving DecidableEq, Repr

namespace CommandTemplate

/-- The file name of a path without its last extension. A name that only starts with a point has
none. -/
def stem (path : List Char) : List Char :=
  let name := Text.afterLast '/' path
  match Text.beforeLast? '.' name with
  | some [] | none => name
  | some front => front

def className : List Char → List Char
  | [] => []
  | first :: rest => Text.uppercase first ++ rest

/-- Whether a capital after this character starts a word of its own. -/
def endsWord (character : Char) : Bool :=
  Text.isLowercase character || character.isDigit

/-- The text in lower case, its words joined by low lines. `previous` is the character before the
text. -/
def moduleNameAfter (previous : Option Char) : List Char → List Char
  | [] => []
  | character :: rest =>
      let written :=
        if character = '-' then ['_']
        else if Text.isUppercase character then
          (if previous.any endsWord then ['_'] else []) ++ Text.lowercase character
        else [character]
      written ++ moduleNameAfter (some character) rest

def moduleName (text : List Char) : List Char := moduleNameAfter none text

/-- The command line for a file: class names are filled in first, then paths, then module names, so
what an earlier step puts in is searched by the later ones. -/
def render (template : CommandTemplate) (path : String) : String :=
  let path := path.toList
  let stem := stem path
  let withClasses :=
    Text.replaceAll "%\x7bclass_name\x7d".toList (className stem) template.text.toList
  let withPaths := Text.replaceAll "%\x7bfilename\x7d".toList path withClasses
  String.ofList (Text.replaceAll "%\x7bmodule_name\x7d".toList (moduleName stem) withPaths)

example : String.ofList (moduleName "exercise-2Test".toList) = "exercise_2_test" := by
  decide +kernel
example : stem "tests/.a.b.py".toList = ".a.b".toList := by decide
example : stem "tests/.profile".toList = ".profile".toList := by decide

end CommandTemplate

end Grading
