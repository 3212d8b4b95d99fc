import Grading.Json.Reader
import Grading.Pattern.Basic
import Grading.Searching
import Grading.Text.Interpolation
import Grading.Text.Line

namespace Grading

/-! Lint diagnostics in words of the learner's language. -/

open Json (Reader Value)

/-- Texts by their keys: names of severities (`convention.severity_name`) and, for a diagnostic,
its name (`convention.invalid-name.name`), a pattern for its text (`.regex`), a text to replace it
by (`.replacement`) and words for what the groups of the pattern find (`.kind.Variable`). -/
structure LinterCatalog where
  entries : List (String × String)
  deriving DecidableEq, Repr

inductive LocalizationError
  | invalidPattern (key reason : String)
  | noMatch (key : String)
  | missingCapture (key capture : String)
  deriving DecidableEq, Repr

namespace LocalizationError

def message : LocalizationError → String
  | invalidPattern key reason => "invalid rewrite pattern " ++ key ++ ": " ++ reason
  | noMatch key => "rewrite pattern " ++ key ++ " does not match the diagnostic"
  | missingCapture key capture =>
      "replacement " ++ key ++ " references unknown capture " ++ capture

end LocalizationError

/-- A localized diagnostic or the reason why there is none, and the keys that were missing. -/
structure Localization where
  result : Except LocalizationError Diagnostic
  missing : List String

namespace LinterCatalog

def empty : LinterCatalog := ⟨[]⟩

/-- The entries with one more. A later entry replaces an earlier one of the same key. -/
def insert (catalog : LinterCatalog) (key value : String) : LinterCatalog :=
  ⟨catalog.entries.filter (·.1 != key) ++ [(key, value)]⟩

def ofEntries (entries : List (String × String)) : LinterCatalog :=
  entries.foldl (fun catalog (key, value) => catalog.insert key value) empty

def read : Reader LinterCatalog := fun document =>
  (Reader.dictionary Reader.text document).map ofEntries

def toValue (catalog : LinterCatalog) : Value :=
  .object (catalog.entries.map fun (key, value) => (key, .text value))

def isEmpty (catalog : LinterCatalog) : Bool := catalog.entries.isEmpty

def get? (catalog : LinterCatalog) (key : String) : Option String :=
  catalog.entries.lookup key

/-- The text of a key. Without one the given text stays. -/
def textOr (catalog : LinterCatalog) (key text : String) : String :=
  (catalog.get? key).getD text

def missing (catalog : LinterCatalog) (keys : List String) : List String :=
  keys.filter fun key => (catalog.get? key).isNone

/-! ## Replacements -/

/-- What a named group found, and the key of the word for it. -/
structure Capture where
  name : String
  found : String
  key : String

def stem (diagnostic : Diagnostic) : String := diagnostic.severity ++ "." ++ diagnostic.name

/-- What the named groups of a pattern find in the text of a diagnostic. The pattern is written
between blanks, which do not belong to it. -/
def captures (diagnostic : Diagnostic) (pattern : String) :
    Except LocalizationError (List Capture) := do
  let key := stem diagnostic ++ ".regex"
  let pattern ← (Pattern.ofText (String.ofList (Text.trim pattern.toList))).mapError fun cause =>
    .invalidPattern key cause.message
  let text := diagnostic.text.toList
  match pattern.find? text with
  | none => throw (.noMatch key)
  | some found => return pattern.names.map fun (name, index) =>
      let group := String.ofList (found.groupText text index)
      ⟨name, group, stem diagnostic ++ "." ++ name ++ "." ++ group⟩

def fillIn (catalog : LinterCatalog) (diagnostic : Diagnostic) (captures : List Capture)
    (replacement : String) : Except LocalizationError String :=
  let value? (name : List Char) : Option (List Char) :=
    (captures.find? (·.name == String.ofList name)).map fun capture =>
      (catalog.textOr capture.key capture.found).toList
  match Text.interpolate value? replacement.toList with
  | .ok text => .ok (String.ofList text)
  | .error name => .error (.missingCapture (stem diagnostic ++ ".replacement") (String.ofList name))

/-! ## Diagnostics -/

def rename (catalog : LinterCatalog) (diagnostic : Diagnostic) : Diagnostic :=
  { diagnostic with
    severity := catalog.textOr (diagnostic.severity ++ ".severity_name") diagnostic.severity
    name := catalog.textOr (stem diagnostic ++ ".name") diagnostic.name }

def nameKeys (diagnostic : Diagnostic) : List String :=
  [diagnostic.severity ++ ".severity_name", stem diagnostic ++ ".name"]

/-- A diagnostic in the words of the catalog. Names that are missing stay as they are; a replacement
that cannot be filled in spoils the whole localization. -/
def localize (catalog : LinterCatalog) (diagnostic : Diagnostic) : Localization :=
  let missingNames := catalog.missing (nameKeys diagnostic)
  match catalog.get? (stem diagnostic ++ ".replacement") with
  | none => ⟨.ok (catalog.rename diagnostic), missingNames⟩
  | some replacement =>
      let pattern? := catalog.get? (stem diagnostic ++ ".regex")
      match (pattern?.map (captures diagnostic)).getD (.ok []) with
      | .error error => ⟨.error error, missingNames⟩
      | .ok captures =>
          ⟨(catalog.fillIn diagnostic captures replacement).map fun text =>
              { catalog.rename diagnostic with text },
            missingNames ++ catalog.missing (captures.map (·.key))⟩

def localizeOrKeep (catalog : LinterCatalog) (diagnostic : Diagnostic) : Diagnostic :=
  match (catalog.localize diagnostic).result with
  | .ok localized => localized
  | .error _ => diagnostic

/-- A result with its diagnostics localized, and with their messages. A result without diagnostics
keeps its messages, and so does one for which there is no time. -/
def localizeResult (catalog : LinterCatalog) (result : TestResult)
    (searching : Searching := .unhurried) : TestResult :=
  match result.diagnostics with
  | none | some [] => result
  | some diagnostics =>
      match searching.find (.words diagnostics) (diagnostics.map catalog.localizeOrKeep) with
      | none => result
      | some localized =>
          { result with
            errorMessages := localized.map Diagnostic.message
            diagnostics := some localized }

end LinterCatalog

end Grading
