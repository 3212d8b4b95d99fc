import Mathlib.Data.List.Forall2
import Grading.Assessor

namespace Grading

/-! What a catalog can change. It has other words for diagnostics, for each of them on its own and
for all of its texts or none. What is counted and what it is worth stays as it is. -/

/-! ## Placeholders -/

theorem eq_error_of_map {α β ε : Type} {result : Except ε α} {change : α → β} {error : ε}
    (fails : result.map change = .error error) : result = .error error := by
  cases result with
  | error => cases fails; rfl
  | ok => cases fails

/-- What cannot be filled in has no value. -/
theorem Text.value?_of_interpolate {value? : List Char → Option (List Char)}
    {text name : List Char} (fails : interpolate value? text = .error name) :
    value? name = none := by
  fun_induction interpolate value? text with
  | case1 => cases fails
  | case2 rest other after found missing =>
      cases fails
      exact missing
  | case3 rest other after found value given induction => exact induction (eq_error_of_map fails)
  | case4 rest notFound induction => exact induction (eq_error_of_map fails)
  | case5 character rest noPlaceholder induction => exact induction (eq_error_of_map fails)

/-! ## Single diagnostics -/

namespace Diagnostic

/-- The diagnostic without the texts that there can be other words for. -/
def bare (diagnostic : Diagnostic) : Diagnostic :=
  { diagnostic with severity := "", name := "", text := "" }

end Diagnostic

namespace LinterCatalog

section

variable (catalog : LinterCatalog) (diagnostic : Diagnostic)

/-- What a replacement can refer to. Without a pattern it is nothing. -/
def capturesOf : Except LocalizationError (List Capture) :=
  ((catalog.get? (stem diagnostic ++ ".regex")).map (captures diagnostic)).getD (.ok [])

/-- What keeps a replacement from being filled in. -/
inductive Spoils : LocalizationError → Prop
  | invalidPattern {pattern : String} {cause : PatternError}
      (isPattern : catalog.get? (stem diagnostic ++ ".regex") = some pattern)
      (invalid : Pattern.ofText (String.ofList (Text.trim pattern.toList)) = .error cause) :
      Spoils (.invalidPattern (stem diagnostic ++ ".regex") cause.message)
  | noMatch {pattern : String} {compiled : Pattern}
      (isPattern : catalog.get? (stem diagnostic ++ ".regex") = some pattern)
      (valid : Pattern.ofText (String.ofList (Text.trim pattern.toList)) = .ok compiled)
      (misses : compiled.find? diagnostic.text.toList = none) :
      Spoils (.noMatch (stem diagnostic ++ ".regex"))
  | missingCapture {replacement name : String} {captures : List Capture}
      (isReplacement : catalog.get? (stem diagnostic ++ ".replacement") = some replacement)
      (found : catalog.capturesOf diagnostic = .ok captures)
      (missing : catalog.fillIn diagnostic captures replacement =
        .error (.missingCapture (stem diagnostic ++ ".replacement") name))
      (unknown : ∀ capture ∈ captures, capture.name ≠ name) :
      Spoils (.missingCapture (stem diagnostic ++ ".replacement") name)

/-- The diagnostic in words that the catalog has, and otherwise in its own. -/
structure Words (localized : Diagnostic) : Prop where
  bare : localized.bare = diagnostic.bare
  severity : localized.severity =
    catalog.textOr (diagnostic.severity ++ ".severity_name") diagnostic.severity
  name : localized.name = catalog.textOr (stem diagnostic ++ ".name") diagnostic.name
  text : match catalog.get? (stem diagnostic ++ ".replacement") with
    | none => localized.text = diagnostic.text
    | some replacement => ∃ captures, catalog.capturesOf diagnostic = .ok captures ∧
        catalog.fillIn diagnostic captures replacement = .ok localized.text

/-- What a diagnostic becomes: all of its words are replaced, or it stays as it was. -/
inductive Rewords : Diagnostic → Diagnostic → Prop
  | localized {diagnostic localized : Diagnostic}
      (succeeds : (catalog.localize diagnostic).result = .ok localized)
      (words : catalog.Words diagnostic localized) : Rewords diagnostic localized
  | kept {diagnostic : Diagnostic} {error : LocalizationError}
      (fails : (catalog.localize diagnostic).result = .error error)
      (spoiled : catalog.Spoils diagnostic error) : Rewords diagnostic diagnostic

end

variable {catalog : LinterCatalog} {diagnostic : Diagnostic}

/-! ## Replacements that fail -/

theorem captures_of_invalid {pattern : String} {cause : PatternError}
    (invalid : Pattern.ofText (String.ofList (Text.trim pattern.toList)) = .error cause) :
    captures diagnostic pattern =
      .error (.invalidPattern (stem diagnostic ++ ".regex") cause.message) := by
  rw [captures, invalid]
  rfl

theorem captures_of_valid {pattern : String} {compiled : Pattern}
    (valid : Pattern.ofText (String.ofList (Text.trim pattern.toList)) = .ok compiled) :
    captures diagnostic pattern =
      match compiled.find? diagnostic.text.toList with
      | none => .error (.noMatch (stem diagnostic ++ ".regex"))
      | some found => .ok (compiled.names.map fun (name, index) =>
          let group := String.ofList (found.groupText diagnostic.text.toList index)
          ⟨name, group, stem diagnostic ++ "." ++ name ++ "." ++ group⟩) := by
  rw [captures, valid]
  rfl

theorem spoils_of_captures {pattern : String} {error : LocalizationError}
    (isPattern : catalog.get? (stem diagnostic ++ ".regex") = some pattern)
    (fails : captures diagnostic pattern = .error error) : catalog.Spoils diagnostic error := by
  cases compiled : Pattern.ofText (String.ofList (Text.trim pattern.toList)) with
  | error cause =>
      rw [captures_of_invalid compiled] at fails
      cases fails
      exact .invalidPattern isPattern compiled
  | ok valid =>
      rw [captures_of_valid compiled] at fails
      cases found : valid.find? diagnostic.text.toList with
      | none =>
          rw [found] at fails
          cases fails
          exact .noMatch isPattern compiled found
      | some groups =>
          rw [found] at fails
          cases fails

theorem spoils_of_fillIn {replacement : String} {captures : List Capture}
    {error : LocalizationError}
    (isReplacement : catalog.get? (stem diagnostic ++ ".replacement") = some replacement)
    (found : catalog.capturesOf diagnostic = .ok captures)
    (fails : catalog.fillIn diagnostic captures replacement = .error error) :
    catalog.Spoils diagnostic error := by
  have missing := fails
  rw [fillIn] at fails
  split at fails
  · cases fails
  · rename_i name interpolated
    cases fails
    refine .missingCapture isReplacement found missing fun capture member same => ?_
    have unknown := Text.value?_of_interpolate interpolated
    rw [Option.map_eq_none_iff, List.find?_eq_none] at unknown
    exact unknown capture member (beq_iff_eq.mpr same)

theorem capturesOf_of_pattern {pattern : String}
    (isPattern : catalog.get? (stem diagnostic ++ ".regex") = some pattern) :
    catalog.capturesOf diagnostic = captures diagnostic pattern := by
  rw [capturesOf, isPattern]
  rfl

theorem spoils_of_capturesOf {error : LocalizationError}
    (fails : catalog.capturesOf diagnostic = .error error) :
    catalog.Spoils diagnostic error := by
  cases isPattern : catalog.get? (stem diagnostic ++ ".regex") with
  | none =>
      rw [capturesOf, isPattern] at fails
      cases fails
  | some pattern => exact spoils_of_captures isPattern (capturesOf_of_pattern isPattern ▸ fails)

/-- With a replacement, the groups are found first, and then it is filled in. -/
theorem localize_of_replacement {replacement : String}
    (isReplacement : catalog.get? (stem diagnostic ++ ".replacement") = some replacement) :
    (catalog.localize diagnostic).result =
      (catalog.capturesOf diagnostic).bind fun captures =>
        (catalog.fillIn diagnostic captures replacement).map fun text =>
          { catalog.rename diagnostic with text } := by
  rw [localize, isReplacement, capturesOf]
  cases found : ((catalog.get? (stem diagnostic ++ ".regex")).map (captures diagnostic)).getD
    (.ok []) <;> simp only [found] <;> rfl

/-- A localization fails if there is a replacement that cannot be filled in, and only then. -/
theorem localize_eq_error_iff {error : LocalizationError} :
    (catalog.localize diagnostic).result = .error error ↔
      (catalog.get? (stem diagnostic ++ ".replacement")).isSome ∧
        catalog.Spoils diagnostic error := by
  cases isReplacement : catalog.get? (stem diagnostic ++ ".replacement") with
  | none =>
      rw [localize, isReplacement]
      exact ⟨nofun, nofun⟩
  | some replacement =>
      rw [localize_of_replacement isReplacement]
      constructor
      · intro fails
        cases found : catalog.capturesOf diagnostic with
        | error other =>
            rw [found] at fails
            cases fails
            exact ⟨rfl, spoils_of_capturesOf found⟩
        | ok captures =>
            rw [found] at fails
            exact ⟨rfl, spoils_of_fillIn isReplacement found (eq_error_of_map fails)⟩
      · rintro ⟨-, spoiled⟩
        cases spoiled with
        | invalidPattern isPattern invalid =>
            rw [capturesOf_of_pattern isPattern, captures_of_invalid invalid]
            rfl
        | noMatch isPattern valid misses =>
            rw [capturesOf_of_pattern isPattern, captures_of_valid valid, misses]
            rfl
        | missingCapture isOther found missing unknown =>
            obtain rfl := Option.some.inj (isReplacement.symm.trans isOther)
            rw [found]
            change (catalog.fillIn diagnostic _ replacement).map _ = _
            rw [missing]
            rfl

theorem words_of_localize {localized : Diagnostic}
    (succeeds : (catalog.localize diagnostic).result = .ok localized) :
    catalog.Words diagnostic localized := by
  cases isReplacement : catalog.get? (stem diagnostic ++ ".replacement") with
  | none =>
      rw [localize, isReplacement] at succeeds
      cases succeeds
      refine ⟨rfl, rfl, rfl, ?_⟩
      rw [isReplacement]
      rfl
  | some replacement =>
      rw [localize_of_replacement isReplacement] at succeeds
      cases found : catalog.capturesOf diagnostic with
      | error =>
          rw [found] at succeeds
          cases succeeds
      | ok captures =>
          rw [found] at succeeds
          change (catalog.fillIn diagnostic captures replacement).map _ = _ at succeeds
          cases filled : catalog.fillIn diagnostic captures replacement with
          | error =>
              rw [filled] at succeeds
              cases succeeds
          | ok text =>
              rw [filled] at succeeds
              cases succeeds
              refine ⟨rfl, rfl, rfl, ?_⟩
              rw [isReplacement]
              exact ⟨captures, found, filled⟩

/-! ## Rewording -/

theorem rewords_localizeOrKeep (catalog : LinterCatalog) (diagnostic : Diagnostic) :
    catalog.Rewords diagnostic (catalog.localizeOrKeep diagnostic) := by
  rw [localizeOrKeep]
  cases outcome : (catalog.localize diagnostic).result with
  | ok localized => exact .localized outcome (words_of_localize outcome)
  | error error => exact .kept outcome (localize_eq_error_iff.mp outcome).2

namespace Rewords

/-- What a diagnostic becomes depends on nothing but itself and the catalog. -/
theorem unique {localized other : Diagnostic} (rewords : catalog.Rewords diagnostic localized)
    (others : catalog.Rewords diagnostic other) : localized = other := by
  cases rewords with
  | localized succeeds words =>
      cases others with
      | localized succeeds' words' => exact Except.ok.inj (succeeds.symm.trans succeeds')
      | kept fails spoiled => cases succeeds.symm.trans fails
  | kept fails spoiled =>
      cases others with
      | localized succeeds words => cases fails.symm.trans succeeds
      | kept fails' spoiled' => rfl

theorem bare_eq {localized : Diagnostic} (rewords : catalog.Rewords diagnostic localized) :
    localized.bare = diagnostic.bare := by
  cases rewords with
  | localized succeeds words => exact words.bare
  | kept => rfl

end Rewords

/-! ## Results -/

end LinterCatalog

/-- The result without the texts that there can be other words for. -/
def TestResult.bare (result : TestResult) : TestResult :=
  { result with
    errorMessages := []
    diagnostics := result.diagnostics.map (List.map Diagnostic.bare) }

/-- The assessments differ in texts only. -/
structure Assessment.JudgesAlike (left right : Assessment) : Prop where
  score : left.score = right.score
  verdict : left.passed = right.passed
  count : left.result.count = right.result.count
  passed : left.result.passed = right.result.passed
  failed : left.result.failed = right.result.failed
  rating : left.result.rating = right.result.rating
  diagnostics : left.result.diagnostics.map (List.map Diagnostic.bare) =
    right.result.diagnostics.map (List.map Diagnostic.bare)

theorem Assessment.judgesAlike_of_bare {left right : Assessment} (score : left.score = right.score)
    (bare : left.result.bare = right.result.bare) : JudgesAlike left right where
  score := score
  verdict := by
    have passed : left.result.passed = right.result.passed := (congrArg TestResult.passed bare :)
    have count : left.result.count = right.result.count := (congrArg TestResult.count bare :)
    rw [Assessment.passed, Assessment.passed, passed, count, score]
  count := (congrArg TestResult.count bare :)
  passed := (congrArg TestResult.passed bare :)
  failed := (congrArg TestResult.failed bare :)
  rating := (congrArg TestResult.rating bare :)
  diagnostics := (congrArg TestResult.diagnostics bare :)

namespace LinterCatalog

variable {catalog : LinterCatalog}

/-- Lists are reworded one diagnostic after the other, and the messages are those of what they
become. -/
theorem localizeResult_of_diagnostics {result : TestResult} {diagnostics : List Diagnostic}
    (isList : result.diagnostics = some diagnostics) (nonempty : diagnostics ≠ []) :
    catalog.localizeResult result =
      { result with
        errorMessages := (diagnostics.map catalog.localizeOrKeep).map Diagnostic.message
        diagnostics := some (diagnostics.map catalog.localizeOrKeep) } := by
  cases diagnostics with
  | nil => exact absurd rfl nonempty
  | cons =>
      rw [localizeResult, isList]
      rfl

theorem forall₂_rewords (catalog : LinterCatalog) (diagnostics : List Diagnostic) :
    List.Forall₂ catalog.Rewords diagnostics (diagnostics.map catalog.localizeOrKeep) := by
  rw [List.forall₂_map_right_iff, List.forall₂_same]
  exact fun diagnostic _ => catalog.rewords_localizeOrKeep diagnostic

theorem bare_localizeResult (catalog : LinterCatalog) (result : TestResult) :
    (catalog.localizeResult result).bare = result.bare := by
  match isList : result.diagnostics with
  | none | some [] => rw [localizeResult, isList]
  | some (diagnostic :: others) =>
      have bare : ((diagnostic :: others).map catalog.localizeOrKeep).map Diagnostic.bare =
          (diagnostic :: others).map Diagnostic.bare := by
        rw [List.map_map]
        exact List.map_congr_left fun each _ => (catalog.rewords_localizeOrKeep each).bare_eq
      rw [localizeResult_of_diagnostics isList (List.cons_ne_nil _ _), TestResult.bare,
        TestResult.bare, isList, Option.map_some, Option.map_some, bare]

/-- Messages are those of the diagnostics, before and after they are reworded. -/
theorem messages_localizeResult {result : TestResult} {diagnostics : List Diagnostic}
    (isList : result.diagnostics = some diagnostics)
    (messages : result.errorMessages = diagnostics.map Diagnostic.message) :
    (catalog.localizeResult result).diagnostics = some (diagnostics.map catalog.localizeOrKeep) ∧
      (catalog.localizeResult result).errorMessages =
        (diagnostics.map catalog.localizeOrKeep).map Diagnostic.message := by
  cases diagnostics with
  | nil =>
      rw [localizeResult, isList]
      exact ⟨isList, messages⟩
  | cons diagnostic others =>
      rw [localizeResult_of_diagnostics isList (List.cons_ne_nil _ _)]
      exact ⟨rfl, rfl⟩

theorem localizeOrKeep_empty : empty.localizeOrKeep = id := rfl

/-- Without words for anything a report stays as it was read. -/
theorem localizeResult_empty {result : TestResult} {diagnostics : List Diagnostic}
    (isList : result.diagnostics = some diagnostics)
    (messages : result.errorMessages = diagnostics.map Diagnostic.message) :
    empty.localizeResult result = result := by
  by_cases nonempty : diagnostics = []
  · rw [localizeResult, isList, nonempty]
  · rw [localizeResult_of_diagnostics isList nonempty, localizeOrKeep_empty, List.map_id,
      ← messages, ← isList]

/-! ## Assessments -/

/-- The catalog has a say in texts, and in nothing else. -/
structure TouchesTextsOnly (catalog : LinterCatalog) : Prop where
  judges : ∀ (other : LinterCatalog) (output : CapturedOutput),
    (Assessor.assess ⟨.pyLint, catalog⟩ output).JudgesAlike
      (Assessor.assess ⟨.pyLint, other⟩ output)
  rewords : ∀ (result : TestResult) (diagnostics : List Diagnostic),
    result.diagnostics = some diagnostics → diagnostics ≠ [] →
    ∃ reworded, List.Forall₂ catalog.Rewords diagnostics reworded ∧
      catalog.localizeResult result =
        { result with
          errorMessages := reworded.map fun diagnostic => diagnostic.name ++ ": " ++ diagnostic.text
          diagnostics := some reworded }
  independent : ∀ diagnostic reworded other, catalog.Rewords diagnostic reworded →
    catalog.Rewords diagnostic other → reworded = other
  fails : ∀ diagnostic error, (catalog.localize diagnostic).result = .error error ↔
    (catalog.get? (stem diagnostic ++ ".replacement")).isSome ∧ catalog.Spoils diagnostic error
  messages : ∀ output : CapturedOutput, ∃ diagnostics,
    (Assessor.assess ⟨.pyLint, catalog⟩ output).result.diagnostics = some diagnostics ∧
    (Assessor.assess ⟨.pyLint, catalog⟩ output).result.errorMessages =
      diagnostics.map fun diagnostic => diagnostic.name ++ ": " ++ diagnostic.text
  identity : catalog.isEmpty → ∀ output : CapturedOutput,
    (Assessor.assess ⟨.pyLint, catalog⟩ output).result = Framework.read .pyLint output

theorem touchesTextsOnly (catalog : LinterCatalog) : TouchesTextsOnly catalog where
  judges other output := by
    refine Assessment.judgesAlike_of_bare rfl ?_
    exact (catalog.bare_localizeResult _).trans (other.bare_localizeResult _).symm
  rewords result diagnostics isList nonempty :=
    ⟨_, catalog.forall₂_rewords diagnostics, localizeResult_of_diagnostics isList nonempty⟩
  independent _ _ _ := Rewords.unique
  fails _ _ := localize_eq_error_iff
  messages output := ⟨_, messages_localizeResult rfl rfl⟩
  identity isEmpty output := by
    obtain rfl : catalog = empty := congrArg LinterCatalog.mk (List.isEmpty_iff.mp isEmpty)
    exact localizeResult_empty rfl rfl

/-- The severity has another word, but is kept with the text that cannot be replaced. -/
example :
    let catalog := ofEntries [("warning.severity_name", "Warnung"),
      ("warning.unused-import.replacement", "%\x7bmodule\x7d wird nicht benutzt")]
    let diagnostic : Diagnostic :=
      ⟨"exercise.py", 2, "warning", "W0611", "unused-import", none, "Unused import os"⟩
    catalog.get? "warning.severity_name" = some "Warnung" ∧
      catalog.localizeOrKeep diagnostic = diagnostic := by
  decide +kernel

end LinterCatalog

end Grading
