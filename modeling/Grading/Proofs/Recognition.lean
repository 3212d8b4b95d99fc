import Grading.Proofs.Occurrence
import Grading.Proofs.Refusal
import Mathlib.Data.List.ReduceOption

namespace Grading

/-! What error templates make of a text: each of them judges on its own, by what its patterns meet.
An attribute is flagged if there is a value for it, which asks for more than that its pattern is met
somewhere: a first group has to take part. -/

/-! ## Patterns -/

namespace Pattern

variable {source : String} {pattern : Pattern} {text : List Char} {found : Match}

theorem program_of_ofText (isRead : ofText source = .ok pattern) :
    pattern.program = .ofExpression pattern.expression := by
  rw [ofText] at isRead
  cases expression : Reader.expression source with
  | error cause =>
      rw [expression] at isRead
      cases isRead
  | ok read =>
      rw [expression] at isRead
      simp only [bind, Except.bind] at isRead
      split at isRead
      · cases isRead
      · cases isRead
        rfl

def OccursIn (pattern : Pattern) (text : List Char) : Prop := pattern.expression.OccursIn text

/-- Whether a group takes part in the match that is found: it is marked there where the group begins
and where it ends. -/
def TakesPart (pattern : Pattern) (text : List Char) (index : Nat) : Prop :=
  ∃ found, pattern.find? text = some found ∧ (found.marks.lookup (2 * index)).isSome ∧
    (found.marks.lookup (2 * index + 1)).isSome

theorem find?_eq_none_iff (isRead : ofText source = .ok pattern) :
    pattern.find? text = none ↔ ¬pattern.OccursIn text := by
  rw [find?, program_of_ofText isRead]
  exact Program.find?_eq_none_iff

theorem isLeftmost_of_find? (isRead : ofText source = .ok pattern)
    (finds : pattern.find? text = some found) : pattern.expression.IsLeftmost text found := by
  rw [find?, program_of_ofText isRead] at finds
  exact Program.isLeftmost_of_find? finds

theorem exists_find? (isRead : ofText source = .ok pattern) (occurs : pattern.OccursIn text) :
    ∃ found, pattern.find? text = some found := by
  cases finds : pattern.find? text with
  | none => exact absurd occurs ((find?_eq_none_iff isRead).mp finds)
  | some found => exact ⟨found, rfl⟩

theorem occursIn_of_find? (isRead : ofText source = .ok pattern)
    (finds : pattern.find? text = some found) : pattern.OccursIn text := by
  have leftmost := isLeftmost_of_find? isRead finds
  exact ⟨found.first, leftmost.inside, _, leftmost.meets⟩

theorem takesPart_iff (finds : pattern.find? text = some found) {index : Nat} :
    pattern.TakesPart text index ↔ (found.marks.lookup (2 * index)).isSome ∧
      (found.marks.lookup (2 * index + 1)).isSome := by
  simp only [TakesPart, finds, Option.some.injEq, exists_eq_left']

theorem takesPart_of_engages (isRead : ofText source = .ok pattern)
    (occurs : pattern.OccursIn text) {index : Nat}
    (engages : pattern.expression.engages index = true) : pattern.TakesPart text index := by
  obtain ⟨found, finds⟩ := exists_find? isRead occurs
  exact ⟨found, finds,
    Expression.isMarked_of_engages engages (isLeftmost_of_find? isRead finds).meets⟩

end Pattern

/-! ## Attributes -/

/-- What is recorded for a pattern that was looked for in a text. -/
structure Pattern.IsRecordedAs (pattern : Pattern) (text : List Char)
    (recorded : StructuredAttribute) : Prop where
  /-- The first group is the text between its two marks. -/
  value : pattern.OccursIn text → ∃ found, pattern.find? text = some found ∧
    pattern.expression.IsLeftmost text found ∧
    recorded.value =
      if pattern.groupCount = 0 then
        some (String.ofList (text.extract found.first found.behind.position))
      else do
        let first ← found.marks.lookup 2
        let behind ← found.marks.lookup 3
        return String.ofList (text.extract first behind)
  absent : ¬pattern.OccursIn text → recorded.value = none
  flag : recorded.matched = true ↔
    pattern.OccursIn text ∧ (pattern.groupCount = 0 ∨ pattern.TakesPart text 1)
  /-- The flag says just whether the pattern occurs if its first group cannot be left out. -/
  faithful : pattern.groupCount = 0 ∨ pattern.expression.engages 1 = true →
    (recorded.matched = true ↔ pattern.OccursIn text)

namespace AttributeRule

variable {item : TemplateAttribute} {rule : AttributeRule} {text : List Char}

theorem compile_eq_ok_iff : compile item = .ok rule ↔
    rule.key = item.key ∧ Pattern.ofText item.pattern = .ok rule.pattern := by
  obtain ⟨key, pattern⟩ := rule
  rw [compile]
  cases Pattern.ofText item.pattern <;> simp [bind, Except.bind, pure, Except.pure, eq_comm]

theorem value?_of_find? {found : Pattern.Match} (finds : rule.pattern.find? text = some found) :
    rule.value? text =
      if rule.pattern.groupCount = 0 then
        some (String.ofList (text.extract found.first found.behind.position))
      else do
        let first ← found.marks.lookup 2
        let behind ← found.marks.lookup 3
        return String.ofList (text.extract first behind) := by
  rw [value?, finds, Option.bind_eq_bind, Option.bind_some]
  split
  · rfl
  · rw [Pattern.Match.group?, if_neg Nat.one_ne_zero]
    cases found.marks.lookup 2 with
    | none => rfl
    | some first => cases found.marks.lookup 3 <;> rfl

theorem isRecordedAs_read (compiled : compile item = .ok rule) (text : List Char) :
    rule.pattern.IsRecordedAs text (rule.read text) := by
  have isRead := (compile_eq_ok_iff.mp compiled).2
  have absent : ¬rule.pattern.OccursIn text → (rule.read text).value = none := by
    intro nowhere
    rw [read, value?, (Pattern.find?_eq_none_iff isRead).mpr nowhere]
    rfl
  have flag : (rule.read text).matched = true ↔ rule.pattern.OccursIn text ∧
      (rule.pattern.groupCount = 0 ∨ rule.pattern.TakesPart text 1) := by
    cases finds : rule.pattern.find? text with
    | none =>
        have nowhere := (Pattern.find?_eq_none_iff isRead).mp finds
        rw [StructuredAttribute.matched, absent nowhere]
        simp [nowhere]
    | some found =>
        have occurs := Pattern.occursIn_of_find? isRead finds
        have takesPart : rule.pattern.TakesPart text 1 ↔
            (found.marks.lookup 2).isSome ∧ (found.marks.lookup 3).isSome :=
          Pattern.takesPart_iff finds
        rw [StructuredAttribute.matched, read, value?_of_find? finds, takesPart]
        split
        · simp [*]
        · cases found.marks.lookup 2 <;> cases found.marks.lookup 3 <;> simp [*]
  exact {
    absent, flag
    value := by
      intro occurs
      obtain ⟨found, finds⟩ := Pattern.exists_find? isRead occurs
      exact ⟨found, finds, Pattern.isLeftmost_of_find? isRead finds, value?_of_find? finds⟩
    faithful := by
      intro always
      rw [flag, and_iff_left_iff_imp]
      intro occurs
      exact always.imp_right (Pattern.takesPart_of_engages isRead occurs) }

end AttributeRule

/-! ## Templates -/

namespace TemplateRule

variable {template : ErrorTemplate} {rule : TemplateRule} {text : List Char}

/-- A template that can be compiled has its patterns read, and is otherwise taken as it is. -/
structure IsCompiledFrom (rule : TemplateRule) (template : ErrorTemplate) : Prop where
  id : rule.id = template.id
  name : rule.name = template.name
  signature : Pattern.ofText template.signature = .ok rule.signature
  attributes : List.Forall₂ (fun item rule => AttributeRule.compile item = .ok rule)
    template.attributes rule.attributes

theorem isCompiledFrom_of_compile (compiled : compile template = .ok rule) :
    rule.IsCompiledFrom template := by
  rw [compile] at compiled
  cases rules : template.attributes.mapM AttributeRule.compile with
  | error cause =>
      rw [rules] at compiled
      cases compiled
  | ok attributes =>
      rw [rules] at compiled
      cases signature : Pattern.ofText template.signature with
      | error cause =>
          rw [signature] at compiled
          cases compiled
      | ok pattern =>
          rw [signature] at compiled
          cases compiled
          exact ⟨rfl, rfl, signature, forall₂_of_mapM rules⟩

theorem error?_of_find? {found : Pattern.Match} (finds : rule.signature.find? text = some found) :
    rule.error? text = some ⟨rule.id, rule.name, String.ofList (found.text text),
      rule.attributes.map fun item => item.read text⟩ := by
  rw [error?, finds]
  rfl

theorem error?_of_find?_none (nowhere : rule.signature.find? text = none) :
    rule.error? text = none := by
  rw [error?, nowhere]
  rfl

end TemplateRule

/-! ## What templates see -/

def TemplateAttribute.IsRecordedAs (item : TemplateAttribute) (text : List Char)
    (recorded : StructuredAttribute) : Prop :=
  recorded.key = item.key ∧
    ∃ pattern, Pattern.ofText item.pattern = .ok pattern ∧ pattern.IsRecordedAs text recorded

/-- The error that a template sees in a text where its signature finds the match. -/
structure ErrorTemplate.IsSeenAs (template : ErrorTemplate) (text : List Char)
    (found : Pattern.Match) (error : StructuredError) : Prop where
  id : error.templateId = template.id
  name : error.templateName = template.name
  matchedText : error.matchedText = String.ofList (text.extract found.first found.behind.position)
  attributes : List.Forall₂ (fun item recorded => item.IsRecordedAs text recorded)
    template.attributes error.attributes

inductive ErrorTemplate.Sees (template : ErrorTemplate) (text : List Char) :
    Option StructuredError → Prop
  | nothing (signature : Pattern) (isRead : Pattern.ofText template.signature = .ok signature)
      (nowhere : ¬signature.OccursIn text) : Sees template text none
  | error (signature : Pattern) (isRead : Pattern.ofText template.signature = .ok signature)
      (found : Pattern.Match) (finds : signature.find? text = some found)
      (leftmost : signature.expression.IsLeftmost text found) (error : StructuredError)
      (isSeen : template.IsSeenAs text found error) : Sees template text (some error)

namespace TemplateRule

variable {template : ErrorTemplate} {rule : TemplateRule} {text : List Char}

theorem IsCompiledFrom.isSeenAs (compiled : rule.IsCompiledFrom template) (text : List Char)
    (found : Pattern.Match) : template.IsSeenAs text found ⟨rule.id, rule.name,
      String.ofList (found.text text), rule.attributes.map fun item => item.read text⟩ where
  id := compiled.id
  name := compiled.name
  matchedText := rfl
  attributes := by
    rw [List.forall₂_map_right_iff]
    refine compiled.attributes.imp fun item rule isCompiled => ?_
    obtain ⟨key, isRead⟩ := AttributeRule.compile_eq_ok_iff.mp isCompiled
    exact ⟨key, rule.pattern, isRead, AttributeRule.isRecordedAs_read isCompiled text⟩

theorem sees_error? (compiled : compile template = .ok rule) (text : List Char) :
    template.Sees text (rule.error? text) := by
  have isCompiled := isCompiledFrom_of_compile compiled
  have isRead := isCompiled.signature
  cases finds : rule.signature.find? text with
  | none =>
      rw [error?_of_find?_none finds]
      exact .nothing rule.signature isRead ((Pattern.find?_eq_none_iff isRead).mp finds)
  | some found =>
      rw [error?_of_find? finds]
      exact .error rule.signature isRead found finds (Pattern.isLeftmost_of_find? isRead finds) _
        (isCompiled.isSeenAs text found)

end TemplateRule

/-! ## Classifiers -/

namespace Classifier

variable {templates others : List ErrorTemplate} {template : ErrorTemplate}
  {classifier other single : Classifier} {rule : TemplateRule} {text : String}

theorem ofTemplates_eq_ok_iff : ofTemplates templates = .ok classifier ↔
    templates.mapM TemplateRule.compile = .ok classifier.rules := by
  obtain ⟨rules⟩ := classifier
  rw [ofTemplates]
  cases templates.mapM TemplateRule.compile <;> simp [bind, Except.bind, pure, Except.pure]

theorem exists_ofTemplates_iff :
    (∃ classifier, ofTemplates templates = .ok classifier) ↔
      ∀ template ∈ templates, template.IsValid := by
  simp only [← TemplateRule.exists_compile_iff, ← exists_mapM_iff, ofTemplates_eq_ok_iff]
  exact ⟨fun ⟨classifier, made⟩ => ⟨classifier.rules, made⟩, fun ⟨rules, made⟩ => ⟨⟨rules⟩, made⟩⟩

theorem classify_of_ne (filled : text ≠ "") :
    classifier.classify text = classifier.rules.filterMap fun rule => rule.error? text.toList := by
  rw [classify, if_neg (by simpa using filled)]
  rfl

/-- Nothing is seen in a text that takes longer than the budget. -/
theorem classify_eq (classifier : Classifier) (text : String) (searching : Searching) :
    classifier.classify text searching =
      if searching.finishes (.failures text.toList) then classifier.classify text else [] := by
  rw [classify, classify, Searching.find_eq, Searching.find_unhurried]
  split
  · exact (ite_self _).symm
  · cases searching.finishes (.failures text.toList) <;> rfl

theorem classify_append (first second : List TemplateRule) (text : String) :
    classify ⟨first ++ second⟩ text = classify ⟨first⟩ text ++ classify ⟨second⟩ text := by
  rw [classify, classify, classify]
  split
  · rfl
  · exact List.filterMap_append

theorem classify_flatMap (rules : List TemplateRule) (text : String) :
    classify ⟨rules⟩ text = rules.flatMap fun rule => classify ⟨[rule]⟩ text := by
  induction rules with
  | nil => simp [classify]
  | cons rule rest induction =>
      rw [List.flatMap_cons, ← induction]
      exact classify_append [rule] rest text

theorem ofTemplates_append (isFirst : ofTemplates templates = .ok classifier)
    (isSecond : ofTemplates others = .ok other) :
    ofTemplates (templates ++ others) = .ok ⟨classifier.rules ++ other.rules⟩ := by
  rw [ofTemplates_eq_ok_iff] at isFirst isSecond ⊢
  rw [List.mapM_append, isFirst, isSecond]
  rfl

theorem ofTemplates_singleton_iff : ofTemplates [template] = .ok classifier ↔
    ∃ rule, TemplateRule.compile template = .ok rule ∧ classifier = ⟨[rule]⟩ := by
  obtain ⟨rules⟩ := classifier
  rw [ofTemplates_eq_ok_iff, List.mapM_cons, List.mapM_nil]
  cases TemplateRule.compile template <;> simp [bind, Except.bind, pure, Except.pure, eq_comm]

theorem ofTemplates_replicate (isSingle : ofTemplates [template] = .ok single) (count : Nat) :
    ofTemplates (List.replicate count template) =
      .ok ⟨(List.replicate count single.rules).flatten⟩ := by
  induction count with
  | zero => rfl
  | succ count induction =>
      rw [List.replicate_succ, List.replicate_succ, List.flatten_cons]
      exact ofTemplates_append isSingle induction

theorem classify_replicate (single : Classifier) (count : Nat) (text : String) :
    classify ⟨(List.replicate count single.rules).flatten⟩ text =
      (List.replicate count (single.classify text)).flatten := by
  induction count with
  | zero => simp [classify]
  | succ count induction =>
      rw [List.replicate_succ, List.replicate_succ, List.flatten_cons, List.flatten_cons,
        classify_append, induction]

theorem classify_singleton (compiled : TemplateRule.compile template = .ok rule)
    (filled : text ≠ "") : ∃ seen, template.Sees text.toList seen ∧
      classify ⟨[rule]⟩ text = seen.toList := by
  refine ⟨rule.error? text.toList, TemplateRule.sees_error? compiled text.toList, ?_⟩
  rw [classify_of_ne filled, List.filterMap_cons, List.filterMap_nil]
  cases rule.error? text.toList <;> rfl

/-- Each template is made a classifier by itself. -/
theorem exists_singles (made : ofTemplates templates = .ok classifier) :
    ∃ singles : List Classifier,
      List.Forall₂ (fun template single => ofTemplates [template] = .ok single) templates singles ∧
      ∀ text, classifier.classify text = singles.flatMap fun single => single.classify text := by
  refine ⟨classifier.rules.map fun rule => ⟨[rule]⟩, ?_, fun text => ?_⟩
  · rw [List.forall₂_map_right_iff]
    exact (forall₂_of_mapM (ofTemplates_eq_ok_iff.mp made)).imp fun template rule compiled =>
      ofTemplates_singleton_iff.mpr ⟨rule, compiled, rfl⟩
  · rw [List.flatMap_map]
    exact classify_flatMap classifier.rules text

/-- Every template says what it sees, in their order. An attribute whose pattern occurs is flagged
if its first group takes part there. -/
theorem exists_sees (valid : ∀ template ∈ templates, template.IsValid) :
    ∃ classifier, ofTemplates templates = .ok classifier ∧ ∀ text : String, text ≠ "" →
      ∃ seen, classifier.classify text = seen.reduceOption ∧
        List.Forall₂ (fun template error? => template.Sees text.toList error?) templates seen := by
  obtain ⟨classifier, made⟩ := exists_ofTemplates_iff.mpr valid
  refine ⟨classifier, made, fun text filled =>
    ⟨classifier.rules.map fun rule => rule.error? text.toList, ?_, ?_⟩⟩
  · rw [classify_of_ne filled, List.reduceOption, List.filterMap_map]
    rfl
  · rw [List.forall₂_map_right_iff]
    exact (forall₂_of_mapM (ofTemplates_eq_ok_iff.mp made)).imp fun template rule compiled =>
      TemplateRule.sees_error? compiled text.toList

/-- The line need not be named. -/
def syntaxErrors : ErrorTemplate :=
  ⟨9, "Syntax", "SyntaxError", [⟨"line", "SyntaxError( at line [0-9]+)?"⟩]⟩

theorem exists_sees_syntaxErrors :
    (∀ template ∈ [syntaxErrors], template.IsValid) ∧ "SyntaxError: invalid syntax" ≠ "" ∧
    ∃ classifier, ofTemplates [syntaxErrors] = .ok classifier ∧
      ∃ seen, classifier.classify "SyntaxError: invalid syntax" = seen.reduceOption ∧
        List.Forall₂ (fun template error? =>
          template.Sees "SyntaxError: invalid syntax".toList error?) [syntaxErrors] seen := by
  have valid : ∀ template ∈ [syntaxErrors], template.IsValid := by decide +kernel
  obtain ⟨classifier, made, sees⟩ := exists_sees valid
  exact ⟨valid, by decide, classifier, made, sees _ (by decide)⟩

/-- The pattern occurs, but its group does not take part. -/
theorem not_flagged_syntaxErrors :
    ∃ classifier recorded pattern, ofTemplates [syntaxErrors] = .ok classifier ∧
      classifier.classify "SyntaxError: invalid syntax" =
        [⟨9, "Syntax", "SyntaxError", [recorded]⟩] ∧
      Pattern.ofText "SyntaxError( at line [0-9]+)?" = .ok pattern ∧
      pattern.OccursIn "SyntaxError: invalid syntax".toList ∧ recorded.matched = false := by
  obtain ⟨classifier, made⟩ := exists_ofTemplates_iff.mpr
    (show ∀ template ∈ [syntaxErrors], template.IsValid by decide +kernel)
  have seen : (ofTemplates [syntaxErrors]).toOption.map
      (fun classifier => classifier.classify "SyntaxError: invalid syntax") =
        some [⟨9, "Syntax", "SyntaxError", [⟨"line", none⟩]⟩] := by
    decide +kernel
  rw [made] at seen
  cases isRead : Pattern.ofText "SyntaxError( at line [0-9]+)?" with
  | error cause =>
      have reads : (Pattern.ofText "SyntaxError( at line [0-9]+)?").isOk = true := by
        decide +kernel
      rw [isRead] at reads
      cases reads
  | ok pattern =>
      have finds : ((Pattern.ofText "SyntaxError( at line [0-9]+)?").toOption.bind fun pattern =>
          pattern.find? "SyntaxError: invalid syntax".toList).isSome = true := by
        decide +kernel
      rw [isRead] at finds
      obtain ⟨found, finds⟩ := Option.isSome_iff_exists.mp finds
      exact ⟨classifier, ⟨"line", none⟩, pattern, made, Option.some.inj seen, rfl,
        Pattern.occursIn_of_find? isRead finds, rfl⟩

/-- What it means that each of the templates judges a text on its own. Whatever is seen is seen
within the budget of the search, and nothing at all otherwise. -/
structure JudgesEachAlone (templates : List ErrorTemplate) : Prop where
  refuses : (∃ error, ofTemplates templates = .error error) ↔
    ∃ template ∈ templates, ∃ text ∈ template.patterns,
      ∀ pattern, Pattern.ofText text ≠ .ok pattern
  /-- The first template that is not valid is named. -/
  names : ∀ error, ofTemplates templates = .error error ↔ ∃ earlier template later cause,
    templates = earlier ++ template :: later ∧ (∀ other ∈ earlier, other.IsValid) ∧
      template.Fails cause ∧ error = .invalidTemplate template.name cause.message
  appends : ∀ others first second, ofTemplates templates = .ok first →
    ofTemplates others = .ok second → ∃ both, ofTemplates (templates ++ others) = .ok both ∧
      ∀ text searching, both.classify text searching =
        if searching.finishes (.failures text.toList) then
          first.classify text ++ second.classify text
        else []
  single : ∀ template ∈ templates, ∀ classifier, ofTemplates [template] = .ok classifier →
    ∀ text : String, text ≠ "" → ∃ seen, template.Sees text.toList seen ∧
      ∀ searching, classifier.classify text searching =
        if searching.finishes (.failures text.toList) then seen.toList else []
  /-- No template takes anything from another. -/
  each : ∀ classifier, ofTemplates templates = .ok classifier → ∃ singles : List Classifier,
    List.Forall₂ (fun template single => ofTemplates [template] = .ok single) templates singles ∧
      ∀ text searching, classifier.classify text searching =
        if searching.finishes (.failures text.toList) then
          singles.flatMap fun single => single.classify text
        else []
  copies : ∀ template ∈ templates, ∀ classifier, ofTemplates [template] = .ok classifier →
    ∀ count, ∃ many, ofTemplates (List.replicate count template) = .ok many ∧
      ∀ text searching, many.classify text searching =
        if searching.finishes (.failures text.toList) then
          (List.replicate count (classifier.classify text)).flatten
        else []

theorem judgesEachAlone (templates : List ErrorTemplate) : JudgesEachAlone templates where
  refuses := by
    have readable : (∃ classifier, ofTemplates templates = .ok classifier) ↔
        ∀ template ∈ templates, ∀ text ∈ template.patterns,
          ∃ pattern, Pattern.ofText text = .ok pattern := exists_ofTemplates_iff
    rw [← not_iff_not]
    push Not
    rw [← readable]
    cases ofTemplates templates <;> simp
  names := ofTemplates_eq_error_iff templates
  appends _ first second isFirst isSecond := by
    refine ⟨_, ofTemplates_append isFirst isSecond, fun text searching => ?_⟩
    rw [classify_eq, classify_append]
  single template _ classifier made text filled := by
    obtain ⟨rule, compiled, rfl⟩ := ofTemplates_singleton_iff.mp made
    obtain ⟨seen, sees, isSeen⟩ := classify_singleton compiled filled
    exact ⟨seen, sees, fun searching => by rw [classify_eq, isSeen]⟩
  each classifier made := by
    obtain ⟨singles, areSingles, classifies⟩ := exists_singles made
    exact ⟨singles, areSingles, fun text searching => by rw [classify_eq, classifies]⟩
  copies template _ classifier made count := by
    refine ⟨_, ofTemplates_replicate made count, fun text searching => ?_⟩
    rw [classify_eq, classify_replicate]

end Classifier

end Grading
