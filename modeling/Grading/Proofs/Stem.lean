import Mathlib.Data.List.TakeWhile
import Grading.Proofs.Substitution
import Grading.Submission

namespace Grading

/-! The module of a file is named by the file alone. What directory it is in makes no difference,
and of its own points only the one does that its extension starts with. -/

namespace Text

variable {separator : Char} {front back text : List Char}

theorem ne_of_mem_reverse (absent : separator ∉ text) :
    ∀ character ∈ text.reverse, (character != separator) = true := by
  intro character member
  exact bne_iff_ne.mpr fun same => absent (same ▸ List.mem_reverse.mp member)

theorem afterLast_of_not_mem (absent : separator ∉ text) : afterLast separator text = text := by
  rw [afterLast, List.takeWhile_eq_self_iff.mpr (ne_of_mem_reverse absent), List.reverse_reverse]

theorem afterLast_append (absent : separator ∉ back) :
    afterLast separator (front ++ separator :: back) = back := by
  rw [afterLast, List.reverse_append, List.reverse_cons, List.append_assoc, List.singleton_append,
    List.takeWhile_append_of_pos (ne_of_mem_reverse absent),
    List.takeWhile_cons_of_neg (by simp), List.append_nil, List.reverse_reverse]

theorem beforeLast?_of_not_mem (absent : separator ∉ text) :
    beforeLast? separator text = none := by
  rw [beforeLast?, List.dropWhile_eq_nil_iff.mpr (ne_of_mem_reverse absent)]

theorem beforeLast?_append (absent : separator ∉ back) :
    beforeLast? separator (front ++ separator :: back) = some front := by
  rw [beforeLast?, List.reverse_append, List.reverse_cons, List.append_assoc,
    List.singleton_append, List.dropWhile_append_of_pos (ne_of_mem_reverse absent),
    List.dropWhile_cons_of_neg (by simp)]
  exact congrArg some (List.reverse_reverse front)

/-- A character of a text has a last place in it. -/
theorem exists_last_of_mem (member : separator ∈ text) :
    ∃ front back, text = front ++ separator :: back ∧ separator ∉ back := by
  induction text with
  | nil => cases member
  | cons character rest induction =>
      by_cases later : separator ∈ rest
      · rcases induction later with ⟨front, back, rfl, absent⟩
        exact ⟨character :: front, back, rfl, absent⟩
      · rcases List.mem_cons.mp member with rfl | isLater
        · exact ⟨[], rest, rfl, later⟩
        · exact absurd isLater later

end Text

/-! ## Stems -/

namespace CommandTemplate

variable {name front kind extension rest : List Char} {first : Char}

theorem stem_directory (directory : List Char) (inDirectory : '/' ∉ name) :
    stem (directory ++ '/' :: name) = stem name := by
  rw [stem, stem, Text.afterLast_append inDirectory, Text.afterLast_of_not_mem inDirectory]

theorem stem_append (inDirectory : '/' ∉ front ++ '.' :: kind) (filled : front ≠ [])
    (last : '.' ∉ kind) : stem (front ++ '.' :: kind) = front := by
  rw [stem, Text.afterLast_of_not_mem inDirectory, Text.beforeLast?_append last]
  cases front with
  | nil => exact absurd rfl filled
  | cons => rfl

/-- A point in front starts no extension. -/
theorem stem_cons (inDirectory : '/' ∉ first :: rest) (none : '.' ∉ rest) :
    stem (first :: rest) = first :: rest := by
  rw [stem, Text.afterLast_of_not_mem inDirectory]
  by_cases hidden : first = '.'
  · rw [hidden, ← List.nil_append ('.' :: rest), Text.beforeLast?_append none]
  · rw [Text.beforeLast?_of_not_mem (List.not_mem_cons_of_ne_of_not_mem (Ne.symm hidden) none)]

/-- A name is the stem of itself with an extension just if that is one extension, or if there is
none and none is taken from the name either. -/
theorem stem_append_eq_iff (inDirectory : '/' ∉ name ++ extension) (named : name ≠ []) :
    stem (name ++ extension) = name ↔
      (∃ kind, extension = '.' :: kind ∧ '.' ∉ kind) ∨ extension = [] ∧ '.' ∉ name.tail := by
  rcases List.exists_cons_of_ne_nil named with ⟨first, rest, rfl⟩
  by_cases pointed : '.' ∈ extension
  · rcases Text.exists_last_of_mem pointed with ⟨early, kind, rfl, last⟩
    have isStem : stem (first :: rest ++ (early ++ '.' :: kind)) = first :: rest ++ early := by
      rw [← List.append_assoc] at inDirectory ⊢
      exact stem_append inDirectory (List.append_ne_nil_of_left_ne_nil named early) last
    rw [isStem, List.append_right_eq_self]
    constructor
    · intro nothing
      exact .inl ⟨kind, by rw [nothing, List.nil_append], last⟩
    · intro either
      rcases either with ⟨other, isExtension, notIn⟩ | ⟨nothing, -⟩
      · cases early with
        | nil => rfl
        | cons head early =>
            cases isExtension
            exact absurd (List.mem_append_right early List.mem_cons_self) notIn
      · exact absurd (nothing ▸ pointed) List.not_mem_nil
  · have noKind : ¬∃ kind, extension = '.' :: kind ∧ '.' ∉ kind := by
      intro isKind
      rcases isKind with ⟨kind, rfl, -⟩
      exact pointed List.mem_cons_self
    rw [or_iff_right noKind, List.tail_cons]
    by_cases inName : '.' ∈ rest
    · rcases Text.exists_last_of_mem inName with ⟨early, late, rfl, last⟩
      have isStem : stem (first :: (early ++ '.' :: late) ++ extension) = first :: early := by
        rw [List.cons_append, List.append_assoc, List.cons_append] at inDirectory ⊢
        exact stem_append inDirectory (List.cons_ne_nil first early)
          (List.not_mem_append last pointed)
      rw [isStem]
      constructor
      · intro same
        have length := congrArg List.length same
        simp at length
      · intro ends
        exact absurd inName ends.2
    · have isStem : stem (first :: rest ++ extension) = first :: rest ++ extension :=
        stem_cons inDirectory (List.not_mem_append inName pointed)
      rw [isStem, List.append_right_eq_self]
      exact (and_iff_left inName).symm

/-- A template that is nothing but a module comes to the module. -/
theorem render_modulePlaceholder (path : String) :
    render ⟨String.ofList modulePlaceholder⟩ path =
      String.ofList (moduleName (stem path.toList)) := by
  have noClass : ¬classPlaceholder <:+: modulePlaceholder := by decide
  have noPath : ¬pathPlaceholder <:+: modulePlaceholder := by decide
  rw [render_eq_substitute, String.toList_ofList,
    Text.substitute_cons_of_absent (classReplacement _) noClass, Text.substitute_nil,
    Text.substitute_cons_of_absent (pathReplacement _) noPath, Text.substitute_nil]
  exact congrArg String.ofList (Text.substitute_target (moduleReplacement _) rfl)

end CommandTemplate

/-! ## Files -/

namespace SubmissionFile

open CommandTemplate (moduleName modulePlaceholder stem)

variable {file : SubmissionFile}

/-- A file has a name that is no path, and one extension. -/
structure IsPlain (file : SubmissionFile) : Prop where
  named : file.name ≠ ""
  inDirectory : '/' ∉ file.name.toList
  extension : ∃ kind, file.extension.toList = '.' :: kind ∧ '.' ∉ kind ∧ '/' ∉ kind

theorem filepath_cases (file : SubmissionFile) :
    file.filepath = file.fullName ∨
      ∃ directory : List Char, file.filepath.toList = directory ++ '/' :: file.fullName.toList := by
  rw [filepath]
  split
  · exact .inl rfl
  · exact .inl rfl
  · rename_i path _ _
    refine .inr ⟨Text.dropEndWhile (· == '/') path.toList, ?_⟩
    simp

/-- Whatever directory a file is in, its stem is that of its own name. -/
theorem stem_filepath (inDirectory : '/' ∉ file.fullName.toList) :
    stem file.filepath.toList = stem file.fullName.toList := by
  rcases file.filepath_cases with same | ⟨directory, isPath⟩
  · rw [same]
  · rw [isPath, CommandTemplate.stem_directory directory inDirectory]

theorem IsPlain.stem_filepath (isPlain : file.IsPlain) :
    stem file.filepath.toList = file.name.toList := by
  rcases isPlain.extension with ⟨kind, isExtension, last, inDirectory⟩
  have outside : '/' ∉ file.extension.toList := by
    rw [isExtension]
    exact List.not_mem_cons_of_ne_of_not_mem (by decide) inDirectory
  have whole : '/' ∉ file.name.toList ++ file.extension.toList :=
    List.not_mem_append isPlain.inDirectory outside
  have isName : file.fullName.toList = file.name.toList ++ file.extension.toList :=
    String.toList_append
  have named : file.name.toList ≠ [] := mt String.toList_eq_nil_iff.mp isPlain.named
  rw [SubmissionFile.stem_filepath (isName ▸ whole), isName]
  exact (CommandTemplate.stem_append_eq_iff whole named).mpr (.inl ⟨kind, isExtension, last⟩)

theorem keepsModuleName (isPlain : file.IsPlain) :
    stem file.filepath.toList = file.name.toList ∧
      CommandTemplate.render ⟨"%\x7bmodule_name\x7d"⟩ file.filepath =
        String.ofList (moduleName file.name.toList) := by
  have isModule := CommandTemplate.render_modulePlaceholder file.filepath
  rw [isPlain.stem_filepath] at isModule
  exact ⟨isPlain.stem_filepath, isModule⟩

theorem keepsModuleName_hidden :
    let file : SubmissionFile :=
      { name := ".my.Helper-2Test", extension := ".py", path := some "a.b/.c//", content := ""
        role := .regularFile, weight := 1, feedbackMessage := none }
    file.IsPlain ∧ file.filepath = "a.b/.c/.my.Helper-2Test.py" ∧
      CommandTemplate.render ⟨"%\x7bmodule_name\x7d"⟩ file.filepath = ".my.helper_2_test" := by
  intro file
  have isPlain : file.IsPlain :=
    ⟨by decide, by decide, "py".toList, by decide, by decide, by decide⟩
  refine ⟨isPlain, by decide +kernel, ?_⟩
  rw [(keepsModuleName isPlain).2]
  decide +kernel

end SubmissionFile

end Grading
