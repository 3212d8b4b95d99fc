import Grading.Pattern.Basic
import Grading.Searching
import Grading.Setup

namespace Grading

/-! Recognising failures by the error templates of an environment. -/

open Json (Value)

structure StructuredAttribute where
  key : String
  value : Option String
  deriving DecidableEq, Repr

namespace StructuredAttribute

def matched (item : StructuredAttribute) : Bool := item.value.isSome

def toValue (item : StructuredAttribute) : Value :=
  .object [("key", .text item.key), ("value", .optional .text item.value),
    ("matched", .boolean item.matched)]

end StructuredAttribute

structure StructuredError where
  templateId : Nat
  templateName : String
  matchedText : String
  attributes : List StructuredAttribute
  deriving DecidableEq, Repr

namespace StructuredError

def members (error : StructuredError) : List (String × Value) :=
  [("template_id", .natural error.templateId), ("template_name", .text error.templateName),
    ("matched_text", .text error.matchedText),
    ("attributes", .array (error.attributes.map StructuredAttribute.toValue))]

def toValue (error : StructuredError) : Value := .object error.members

end StructuredError

/-! ## Compiled templates -/

structure AttributeRule where
  key : String
  pattern : Pattern

namespace AttributeRule

def compile (item : TemplateAttribute) : Except PatternError AttributeRule := do
  return ⟨item.key, ← Pattern.ofText item.pattern⟩

/-- The text of the first group where the pattern has groups, of the whole match otherwise. -/
def value? (rule : AttributeRule) (text : List Char) : Option String := do
  let found ← rule.pattern.find? text
  let group ← found.group? text (if rule.pattern.groupCount = 0 then 0 else 1)
  return String.ofList group

def read (rule : AttributeRule) (text : List Char) : StructuredAttribute :=
  ⟨rule.key, rule.value? text⟩

end AttributeRule

structure TemplateRule where
  id : Nat
  name : String
  signature : Pattern
  attributes : List AttributeRule

namespace TemplateRule

/-- The patterns of the attributes are checked before the signature. -/
def compile (template : ErrorTemplate) : Except SetupError TemplateRule :=
  let compiled : Except PatternError TemplateRule := do
    let rules ← template.attributes.mapM AttributeRule.compile
    let signature ← Pattern.ofText template.signature
    return ⟨template.id, template.name, signature, rules⟩
  compiled.mapError fun cause => .invalidTemplate template.name cause.message

/-- The error that the template sees in a text: there is one if the signature matches somewhere. -/
def error? (rule : TemplateRule) (text : List Char) : Option StructuredError := do
  let found ← rule.signature.find? text
  return ⟨rule.id, rule.name, String.ofList (found.text text),
    rule.attributes.map fun item => item.read text⟩

end TemplateRule

structure Classifier where
  rules : List TemplateRule

namespace Classifier

def ofTemplates (templates : List ErrorTemplate) : Except SetupError Classifier := do
  return ⟨← templates.mapM TemplateRule.compile⟩

/-- Every template whose signature matches yields one error, in the order of the templates. Nothing
is seen in an empty text. -/
def classify (classifier : Classifier) (text : String)
    (searching : Searching := .unhurried) : List StructuredError :=
  if text.isEmpty then []
  else
    (searching.find (.failures text.toList)
      (classifier.rules.filterMap fun rule => rule.error? text.toList)).getD []

end Classifier

namespace Environment

def classify (environment : Environment) (text : String)
    (searching : Searching := .unhurried) : Except SetupError (List StructuredError) := do
  return (← Classifier.ofTemplates environment.errorTemplates).classify text searching

end Environment

end Grading
