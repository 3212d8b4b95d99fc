import Mathlib.Data.List.Infix
import Mathlib.Tactic.MkIffOfInductiveProp
import Grading.Proofs.Template

namespace Grading.Report.PyLint

open Pattern

/-! Diagnostics that are printed one per line are read back, all of them and in their order. -/

/-- A diagnostic in the form in which PyLint is told to print it. -/
def printed (diagnostic : Diagnostic) : String :=
  diagnostic.fileName ++ ":" ++ toString diagnostic.line ++ ":" ++ diagnostic.severity ++ "(" ++
    diagnostic.code ++ ", " ++ diagnostic.name ++ "," ++ diagnostic.scope.getD "" ++ ") " ++
    diagnostic.text

/-- A text that a field can have: trimmed, and within a line. -/
def IsField (text : String) : Prop :=
  Text.trim text.toList = text.toList ∧ '\n' ∉ text.toList

/-- Whether no field of a diagnostic has what ends it. A scope that is printed as an empty text is
no scope. -/
@[mk_iff]
structure IsPlain (diagnostic : Diagnostic) : Prop where
  areFields : ∀ field ∈ [diagnostic.fileName, diagnostic.severity, diagnostic.code,
    diagnostic.name, diagnostic.scope.getD "", diagnostic.text], IsField field
  isFile : ".py".toList <:+ diagnostic.fileName.toList
  fileName : ¬ ".py:".toList <:+: diagnostic.fileName.toList
  line : diagnostic.line < numberBound
  severity : '(' ∉ diagnostic.severity.toList
  code : ',' ∉ diagnostic.code.toList
  name : ',' ∉ diagnostic.name.toList
  inScope : ',' ∉ (diagnostic.scope.getD "").toList ∧ ')' ∉ (diagnostic.scope.getD "").toList
  scope : diagnostic.scope ≠ some ""

instance (text : String) : Decidable (IsField text) :=
  inferInstanceAs (Decidable (_ ∧ _))

instance : DecidablePred IsPlain := fun diagnostic => decidable_of_iff' _ (isPlain_iff diagnostic)

/-- All diagnostics, each on a line of its own. -/
def listing (diagnostics : List Diagnostic) : String :=
  String.join (diagnostics.map fun diagnostic => printed diagnostic ++ "\n")

variable {diagnostic : Diagnostic}

/-- A file that has no colon behind an extension has its only end where it ends. -/
theorem misses_file {stem rest : List Char} (absent : ¬ ".py:".toList <:+: stem) :
    Misses EndsFile stem (".py".toList ++ rest) := by
  rintro early late rfl some ⟨_, isWord, line, more, -, -, rfl⟩
  rcases late with _ | ⟨first, _ | ⟨second, _ | ⟨third, _ | ⟨fourth, late⟩⟩⟩⟩
  · exact some rfl
  · simp at isWord
  · simp at isWord
  · simp at isWord
  · refine absent ⟨early, late, ?_⟩
    simp only [String.reduceToList, List.cons_append, List.nil_append, List.cons.injEq] at isWord ⊢
    obtain ⟨rfl, rfl, rfl, rfl, -⟩ := isWord
    simp

theorem IsPlain.exists_fields (plain : IsPlain diagnostic) :
    ∃ fields : Fields, fields.printed = (printed diagnostic).toList ∧
      (∀ behind : List Char, behind.head?.all (· == '\n') = true → fields.AreFirst behind) ∧
      fields.diagnostic? = some diagnostic := by
  obtain ⟨stem, isFile⟩ := plain.isFile
  have areFields := plain.areFields
  simp only [List.forall_mem_cons] at areFields
  obtain ⟨file, severity, code, name, scope, text, -⟩ := areFields
  refine ⟨⟨stem, Nat.toDigits 10 diagnostic.line, diagnostic.severity.toList,
    diagnostic.code.toList, diagnostic.name.toList, (diagnostic.scope.getD "").toList,
    diagnostic.text.toList⟩, ?_, fun behind ends => ?_, ?_⟩
  · simp only [Fields.printed, Fields.remark, Fields.detail, printed, String.toList_append,
      ← isFile, Text.toList_toString, List.append_assoc]
  · exact {
      inStem := fun member => file.2 (isFile ▸ List.mem_append_left _ member)
      inSeverity := severity.2
      inText := text.2
      line := ⟨Nat.toDigits_ne_nil, Text.isDecimalDigit_toDigits _⟩
      inCode := plain.code
      inName := plain.name
      inScope := plain.inScope.1
      file := misses_file fun isInfix =>
        plain.fileName (isFile ▸ isInfix.trans (List.prefix_append _ _).isInfix)
      opening := misses_of_not_mem plain.severity (by rintro _ ⟨_, rfl, -⟩; rfl)
      closing := misses_of_not_mem plain.inScope.2 (by rintro _ ⟨_, rfl⟩; rfl)
      ends }
  · have number : Text.trim (Nat.toDigits 10 diagnostic.line) = Nat.toDigits 10 diagnostic.line :=
      Text.trim_of_not_blank fun _ member =>
        Text.isBlank_of_isDigit (Text.isDigit_of_mem_toDigits member)
    have isFileName : Text.trim (stem ++ ".py".toList) = diagnostic.fileName.toList :=
      isFile ▸ file.1
    have isScope : (if (diagnostic.scope.getD "").toList.isEmpty then none
        else some (diagnostic.scope.getD "")) = diagnostic.scope := by
      cases isScope : diagnostic.scope with
      | none => rfl
      | some scope =>
          have filled : scope.toList ≠ [] := fun empty =>
            plain.scope (isScope.trans (congrArg some (String.toList_eq_nil_iff.mp empty)))
          rw [Option.getD_some, if_neg (mt List.isEmpty_iff.mp filled)]
    rw [Fields.diagnostic?_eq, Fields.file]
    simp only [number, Text.naturalBelow?_toDigits plain.line, isFileName, severity.1, code.1,
      name.1, scope.1, text.1, String.ofList_toList, isScope, Option.map_some]

/-! ## Lists of diagnostics -/

theorem toList_listing_cons (diagnostic : Diagnostic) (diagnostics : List Diagnostic) :
    (listing (diagnostic :: diagnostics)).toList =
      (printed diagnostic).toList ++ '\n' :: (listing diagnostics).toList := by
  simp [listing, String.toList_join]

theorem diagnostics_nil : diagnostics [] = [] := by
  rw [diagnostics_eq, Expression.readingsAt_nil anchored_diagnosticPattern.needs]
  rfl

theorem diagnostics_listing (diagnostics : List Diagnostic)
    (plain : ∀ diagnostic ∈ diagnostics, IsPlain diagnostic) :
    PyLint.diagnostics (listing diagnostics).toList = diagnostics := by
  induction diagnostics with
  | nil => exact diagnostics_nil
  | cons diagnostic diagnostics induction =>
      obtain ⟨isPlain, arePlain⟩ := List.forall_mem_cons.mp plain
      obtain ⟨fields, isPrinted, areFirst, isDiagnostic⟩ := isPlain.exists_fields
      rw [toList_listing_cons, ← isPrinted, (areFirst _ rfl).diagnostics_line, isDiagnostic,
        induction arePlain]
      rfl

/-- The last line need not be ended. -/
theorem diagnostics_dropLast_listing (diagnostics : List Diagnostic)
    (plain : ∀ diagnostic ∈ diagnostics, IsPlain diagnostic) :
    PyLint.diagnostics (listing diagnostics).toList.dropLast = diagnostics := by
  induction diagnostics with
  | nil => exact diagnostics_nil
  | cons diagnostic diagnostics induction =>
      obtain ⟨isPlain, arePlain⟩ := List.forall_mem_cons.mp plain
      obtain ⟨fields, isPrinted, areFirst, isDiagnostic⟩ := isPlain.exists_fields
      rw [toList_listing_cons, ← isPrinted]
      cases diagnostics with
      | nil =>
          rw [show (listing []).toList = [] from rfl, List.dropLast_concat,
            (areFirst [] rfl).diagnostics_last, isDiagnostic]
          rfl
      | cons next others =>
          have filled : (listing (next :: others)).toList ≠ [] := by
            rw [toList_listing_cons]
            exact List.append_ne_nil_of_right_ne_nil _ (List.cons_ne_nil _ _)
          rw [List.dropLast_append_of_ne_nil (List.cons_ne_nil _ _),
            List.dropLast_cons_of_ne_nil filled, (areFirst _ rfl).diagnostics_line, isDiagnostic,
            induction arePlain]
          rfl

/-- Diagnostics that are printed one per line are read back. -/
theorem read_listing (diagnostics : List Diagnostic)
    (plain : ∀ diagnostic ∈ diagnostics, IsPlain diagnostic) (output : CapturedOutput)
    (isListing : output.stdout = listing diagnostics ∨
      output.stdout ++ "\n" = listing diagnostics) :
    PyLint.diagnostics output.stdout.toList = diagnostics ∧
      (read output).diagnostics = some diagnostics ∧
      (read output).errorMessages =
        diagnostics.map fun diagnostic => diagnostic.name ++ ": " ++ diagnostic.text := by
  have isRead : PyLint.diagnostics output.stdout.toList = diagnostics := by
    rcases isListing with isListing | isListing
    · rw [isListing, diagnostics_listing diagnostics plain]
    · have text : output.stdout.toList = (listing diagnostics).toList.dropLast := by
        rw [← isListing, String.toList_append]
        exact (List.dropLast_concat).symm
      rw [text, diagnostics_dropLast_listing diagnostics plain]
  refine ⟨isRead, ?_, ?_⟩
  · rw [read, isRead]
    rfl
  · rw [read, isRead]
    rfl

theorem read_listing_pair :
    (read ⟨"exercise.py:1:convention(C0114, missing-module-docstring,) Missing docstring\n" ++
        "exercise.py:4:warning(W0612, unused-variable,reverse) Unused variable (tmp)\n", ""⟩
      ).diagnostics =
      some [⟨"exercise.py", 1, "convention", "C0114", "missing-module-docstring", none,
          "Missing docstring"⟩,
        ⟨"exercise.py", 4, "warning", "W0612", "unused-variable", some "reverse",
          "Unused variable (tmp)"⟩] :=
  (read_listing [⟨"exercise.py", 1, "convention", "C0114", "missing-module-docstring", none,
      "Missing docstring"⟩, ⟨"exercise.py", 4, "warning", "W0612", "unused-variable",
      some "reverse", "Unused variable (tmp)"⟩] (by decide +kernel) _
    (.inl (by decide +kernel))).2.1

end Grading.Report.PyLint
