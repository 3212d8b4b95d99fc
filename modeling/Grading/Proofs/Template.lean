import Grading.Proofs.Anchoring
import Grading.Proofs.Capture
import Grading.Proofs.SummaryNumber
import Grading.Report.PyLint

namespace Grading.Report.PyLint

open Pattern Expression Attempt

/-! Diagnostics as they are printed. What is read of a line are the fields that it was made of, as
long as no place before the end of a field could end it as well. -/

/-! ## The fields of a line -/

structure Fields where
  /-- The file without its extension. -/
  stem : List Char
  line : List Char
  severity : List Char
  code : List Char
  name : List Char
  scope : List Char
  text : List Char

namespace Fields

def file (fields : Fields) : List Char := fields.stem ++ ".py".toList

/-- What is printed in brackets and behind them. -/
def detail (fields : Fields) : List Char :=
  fields.code ++ (", ".toList ++ (fields.name ++ (",".toList ++ (fields.scope ++
    (") ".toList ++ fields.text)))))

/-- What is printed behind the file. -/
def remark (fields : Fields) : List Char :=
  ":".toList ++ (fields.line ++ (":".toList ++ (fields.severity ++ ("(".toList ++ fields.detail))))

def printed (fields : Fields) : List Char := fields.stem ++ (".py".toList ++ fields.remark)

/-- What the groups of a match are if it reads these fields. -/
def groups (fields : Fields) : List (Nat × List Char) :=
  [(1, fields.file), (2, fields.line), (3, fields.severity), (4, fields.code), (5, fields.name),
    (6, fields.scope), (7, fields.text)]

/-- The diagnostic that is made of the fields, unless their line is no count. -/
def diagnostic? (fields : Fields) : Option Diagnostic :=
  diagnosticOf? fun index => Text.trim ((fields.groups.lookup index).getD [])

theorem diagnostic?_eq (fields : Fields) :
    fields.diagnostic? =
      (Text.naturalBelow? numberBound (Text.trim fields.line)).map fun line =>
        { fileName := String.ofList (Text.trim fields.file)
          line
          severity := String.ofList (Text.trim fields.severity)
          code := String.ofList (Text.trim fields.code)
          name := String.ofList (Text.trim fields.name)
          scope :=
            if (Text.trim fields.scope).isEmpty then none
            else some (String.ofList (Text.trim fields.scope))
          text := String.ofList (Text.trim fields.text) } := by
  rw [Option.map_eq_bind]
  rfl

end Fields

/-- Behind a file: a line number between colons. -/
def IsNumbered (text : List Char) : Prop :=
  ∃ line rest, line ≠ [] ∧ (∀ character ∈ line, Text.isDecimalDigit character = true) ∧
    text = ":".toList ++ (line ++ (":".toList ++ rest))

/-- Whether a file can end here. -/
def EndsFile (text : List Char) : Prop := ∃ rest, text = ".py".toList ++ rest ∧ IsNumbered rest

/-- Behind the opening bracket: a code, a name, a scope and the closing bracket. -/
def IsDetail (text : List Char) : Prop :=
  ∃ code name scope rest, ',' ∉ code ∧ ',' ∉ name ∧ ',' ∉ scope ∧
    text = code ++ (", ".toList ++ (name ++ (",".toList ++ (scope ++ (") ".toList ++ rest)))))

/-- Whether the brackets can open here. -/
def Opens (text : List Char) : Prop := ∃ rest, text = "(".toList ++ rest ∧ IsDetail rest

/-- Whether each field is one of the texts that the pattern allows for it. -/
structure Fields.AreSound (fields : Fields) : Prop where
  inStem : '\n' ∉ fields.stem
  line : fields.line ≠ [] ∧ ∀ character ∈ fields.line, Text.isDecimalDigit character = true
  inSeverity : '\n' ∉ fields.severity
  inCode : ',' ∉ fields.code
  inName : ',' ∉ fields.name
  inScope : ',' ∉ fields.scope
  inText : '\n' ∉ fields.text

/-- Whether a text that goes on like this is read as these fields: none of them could end
earlier. -/
structure Fields.AreFirst (fields : Fields) (behind : List Char) : Prop extends
    fields.AreSound where
  file : Misses EndsFile fields.stem (".py".toList ++ (fields.remark ++ behind))
  opening : Misses Opens fields.severity ("(".toList ++ (fields.detail ++ behind))
  closing : Misses (") ".toList <+: ·) fields.scope (") ".toList ++ (fields.text ++ behind))
  ends : behind.head?.all (· == '\n') = true

/-! ## Reading the fields -/

variable {outcome later : Pattern.Attempt}

/-- The pattern behind the opening bracket. -/
def detailParts : List Expression :=
  [.group 4 (few inField), Report.literal ", ", .group 5 (few inField), Report.literal ",",
    .group 6 (few inField), Report.literal ") ", .group 7 (few Report.inLine),
    .condition (.lineEnd false)]

theorem of_mem_detailParts (member : later ∈ (concatAll detailParts).outcomes outcome) :
    ∃ code name scope text, ',' ∉ code ∧ ',' ∉ name ∧ ',' ∉ scope ∧ '\n' ∉ text ∧
      later.rest.head?.all (· == '\n') = true ∧
      outcome.rest = code ++ (", ".toList ++ (name ++ (",".toList ++ (scope ++
        (") ".toList ++ (text ++ later.rest)))))) := by
  obtain ⟨code, _, inCode, isCode, member⟩ := (isMetBy_few.group 4).of_mem_cons member
  obtain ⟨_, _, rfl, isComma, member⟩ := (isMetBy_literal _).of_mem_cons member
  obtain ⟨name, _, inName, isName, member⟩ := (isMetBy_few.group 5).of_mem_cons member
  obtain ⟨_, _, rfl, isCommaToo, member⟩ := (isMetBy_literal _).of_mem_cons member
  obtain ⟨scope, _, inScope, isScope, member⟩ := (isMetBy_few.group 6).of_mem_cons member
  obtain ⟨_, _, rfl, isClosing, member⟩ := (isMetBy_literal _).of_mem_cons member
  obtain ⟨text, _, inText, isText, member⟩ := (isMetBy_few.group 7).of_mem_cons member
  obtain ⟨ends, rfl⟩ := mem_condition.mp member
  refine ⟨code, name, scope, text, inCode, inName, inScope, inText, ends, ?_⟩
  rw [isCode.rest, isComma.rest, isName.rest, isCommaToo.rest, isScope.rest, isClosing.rest,
    isText.rest]

theorem isDetail_of_mem (member : later ∈ (concatAll detailParts).outcomes outcome) :
    IsDetail outcome.rest := by
  obtain ⟨code, name, scope, text, inCode, inName, inScope, -, -, here⟩ := of_mem_detailParts member
  exact ⟨code, name, scope, text ++ later.rest, inCode, inName, inScope, here⟩

/-- The pattern behind the file. -/
def remarkParts : List Expression :=
  Report.literal ":" :: .group 2 (oneOrMore .digit) :: Report.literal ":" ::
    .group 3 (few Report.inLine) :: Report.literal "(" :: detailParts

theorem of_mem_remarkParts (member : later ∈ (concatAll remarkParts).outcomes outcome) :
    ∃ line severity middle, line ≠ [] ∧
      (∀ character ∈ line, Text.isDecimalDigit character = true) ∧ '\n' ∉ severity ∧
      later ∈ (concatAll detailParts).outcomes middle ∧
      outcome.rest = ":".toList ++ (line ++ (":".toList ++ (severity ++
        ("(".toList ++ middle.rest)))) := by
  obtain ⟨_, _, rfl, isColon, member⟩ := (isMetBy_literal _).of_mem_cons member
  obtain ⟨line, _, ⟨filled, areDigits⟩, isLine, member⟩ :=
    (((isMetBy_one _).oneOrMore true).group 2).of_mem_cons member
  obtain ⟨_, _, rfl, isColonToo, member⟩ := (isMetBy_literal _).of_mem_cons member
  obtain ⟨severity, _, inSeverity, isSeverity, member⟩ := (isMetBy_few.group 3).of_mem_cons member
  obtain ⟨_, opened, rfl, isOpening, member⟩ := (isMetBy_literal _).of_mem_cons member
  refine ⟨line, severity, opened, filled, areDigits, inSeverity, member, ?_⟩
  rw [isColon.rest, isLine.rest, isColonToo.rest, isSeverity.rest, isOpening.rest]

theorem isNumbered_of_mem (member : later ∈ (concatAll remarkParts).outcomes outcome) :
    IsNumbered outcome.rest := by
  obtain ⟨line, severity, opened, filled, areDigits, -, -, here⟩ := of_mem_remarkParts member
  exact ⟨line, _, filled, areDigits, here⟩

theorem expression_diagnosticPattern : diagnosticPattern.expression =
    concatAll (.condition (.lineStart false) ::
      .group 1 (.concat (few Report.inLine) (Report.literal ".py")) :: remarkParts) := rfl

/-- What the pattern matches are sound fields up to the end of a line. -/
theorem exists_areSound_of_mem
    (member : later ∈ diagnosticPattern.expression.outcomes outcome) :
    ∃ fields : Fields, fields.AreSound ∧ outcome.rest = fields.printed ++ later.rest ∧
      later.rest.head?.all (· == '\n') = true := by
  rw [expression_diagnosticPattern] at member
  obtain ⟨-, member⟩ := mem_cons_condition.mp member
  obtain ⟨_, _, ⟨stem, _, inStem, rfl, rfl⟩, isFile, member⟩ :=
    ((isMetBy_few.concat (isMetBy_literal ".py")).group 1).of_mem_cons member
  obtain ⟨line, severity, _, filled, areDigits, inSeverity, member, isRemark⟩ :=
    of_mem_remarkParts member
  obtain ⟨code, name, scope, text, inCode, inName, inScope, inText, ends, isDetail⟩ :=
    of_mem_detailParts member
  refine ⟨⟨stem, line, severity, code, name, scope, text⟩, ⟨inStem, ⟨filled, areDigits⟩,
    inSeverity, inCode, inName, inScope, inText⟩, ?_, ends⟩
  simp only [Fields.printed, Fields.remark, Fields.detail, isFile.rest, isRemark, isDetail,
    List.append_assoc]

namespace Fields.AreFirst

variable {fields : Fields} {behind : List Char}

/-- The last field goes on to the end of the line. -/
theorem fit_text (first : fields.AreFirst behind) :
    Fit [.group 7 (few Report.inLine), .condition (.lineEnd false)] fields.text behind
      [(7, fields.text)] := by
  have misses : Misses (CanBegin [.condition (.lineEnd false)]) fields.text ([] ++ behind) := by
    rintro early late whole some ⟨place, here, begins⟩
    obtain ⟨later, member⟩ := List.exists_mem_of_ne_nil _ begins
    obtain ⟨head, late, rfl⟩ := List.exists_cons_of_ne_nil some
    have isEnd : place.rest.head?.all (· == '\n') = true := (mem_condition.mp member).1
    rw [here, List.cons_append, List.head?_cons, Option.all_some, beq_iff_eq] at isEnd
    exact first.inText (whole ▸ isEnd ▸ List.mem_append_right _ List.mem_cons_self)
  have fit : Fit [.group 7 (few Report.inLine), .condition (.lineEnd false)] (fields.text ++ [])
      behind [(7, fields.text)] :=
    .reluctant (.line_end first.ends) (contains_allBut_iff.mpr first.inText) misses rfl
  rwa [List.append_nil] at fit

theorem fit_detail (first : fields.AreFirst behind) :
    Fit detailParts fields.detail behind [(4, fields.code), (5, fields.name), (6, fields.scope),
      (7, fields.text)] := by
  refine .reluctant (.literal (.reluctant (.literal (.reluctant (.literal first.fit_text)
    (contains_allBut_iff.mpr first.inScope) ?scope rfl))
    (contains_allBut_iff.mpr first.inName) ?name rfl))
    (contains_allBut_iff.mpr first.inCode) ?code rfl
  case code => exact misses_literal_of_not_mem rfl first.inCode _
  case name => exact misses_literal_of_not_mem rfl first.inName _
  case scope =>
    rw [List.append_assoc]
    exact first.closing.mono fun text begins =>
      have ⟨rest, isClosing, _⟩ := begins.literal
      ⟨rest, isClosing.symm⟩

theorem fit_remark (first : fields.AreFirst behind) :
    Fit remarkParts fields.remark behind ((2, fields.line) :: (3, fields.severity) ::
      [(4, fields.code), (5, fields.name), (6, fields.scope), (7, fields.text)]) := by
  have stops : ∀ character ∈ (":".toList ++ (fields.severity ++
      ("(".toList ++ fields.detail)) ++ behind).head?,
      CharSet.digit.contains character = false := by
    intro character isColon
    cases isColon
    decide
  refine .literal (.group (.literal (.reluctant (.literal first.fit_detail)
    (contains_allBut_iff.mpr first.inSeverity) ?_ rfl))
    (fun _ here => prefers_run_one first.line.1 here first.line.2 stops) rfl)
  rw [List.append_assoc]
  refine first.opening.mono fun text begins => ?_
  obtain ⟨rest, isOpening, place, rfl, some⟩ := begins.literal
  obtain ⟨later, member⟩ := List.exists_mem_of_ne_nil _ some
  exact ⟨place.rest, isOpening, isDetail_of_mem member⟩

theorem fit_printed (first : fields.AreFirst behind) :
    Fit (.group 1 (.concat (few Report.inLine) (Report.literal ".py")) :: remarkParts)
      fields.printed behind fields.groups := by
  rw [Fields.printed, ← List.append_assoc]
  refine .reluctant_word first.fit_remark (contains_allBut_iff.mpr first.inStem) ?_ rfl
  refine first.file.mono ?_
  rintro text ⟨_, isWord, place, rfl, some⟩
  obtain ⟨later, member⟩ := List.exists_mem_of_ne_nil _ some
  exact ⟨place.rest, isWord, isNumbered_of_mem member⟩

theorem getLast_printed (first : fields.AreFirst behind) :
    ∃ character, fields.printed.getLast? = some character ∧ character ≠ '\n' := by
  have ends : fields.printed.getLast? = fields.text.getLast?.or (some ' ') := by
    simp only [Fields.printed, Fields.remark, Fields.detail, List.getLast?_append, Option.or_assoc]
    rfl
  cases last : fields.text.getLast? with
  | none => exact ⟨' ', by rw [ends, last]; rfl, by decide⟩
  | some character =>
      refine ⟨character, by rw [ends, last]; rfl, ?_⟩
      rintro rfl
      exact first.inText (List.mem_of_getLast? last)

/-- The first match from a line start on reads the fields. -/
theorem exists_matchAt (first : fields.AreFirst behind) :
    ∃ found character, diagnosticPattern.expression.matchAt? ⟨none, fields.printed ++ behind, 0⟩ =
        some found ∧ found.behind.rest = behind ∧ found.behind.before = some character ∧
      character ≠ '\n' ∧ ∀ group ∈ fields.groups,
        found.reading (fields.printed ++ behind) group.1 = some group.2 := by
  have begins : Prefers (Expression.condition (.lineStart false)).outcomes
      (.start ⟨none, fields.printed ++ behind, 0⟩) (.start ⟨none, fields.printed ++ behind, 0⟩) :=
    rfl
  obtain ⟨later, prefers, ends, remembers⟩ := first.fit_printed (standsIn_start none _) rfl
  have isFirst := prefers_cons begins prefers
  obtain ⟨taken, reads⟩ :=
    (advances_outcomes _ _ later (List.mem_of_head? isFirst)).exists_reads
  obtain ⟨character, isLast, inside⟩ := first.getLast_printed
  have isTaken : taken = fields.printed := by
    have whole : fields.printed ++ behind = taken ++ later.rest := reads.rest
    rw [ends] at whole
    exact (List.append_cancel_right whole).symm
  refine ⟨⟨0, later.cursor, later.marks⟩, character, ?_, ends, ?_, inside, ?_⟩
  · rw [matchAt?, expression_diagnosticPattern, isFirst]
    rfl
  · exact reads.before.trans (by rw [isTaken, isLast, Option.some_or])
  · have areGroups : ∀ group ∈ fields.groups, group.1 ≠ 0 := by simp [groups]
    exact fun group member => (remembers group member).reading (areGroups group member) 0

end Fields.AreFirst

/-! ## Diagnostics of a text -/

theorem anchored_diagnosticPattern : diagnosticPattern.expression.IsAnchored where
  productive := by decide
  needs := by decide
  begins := by decide
  lines := by decide

def diagnosticIn (reading : Reading) : Option Diagnostic :=
  diagnosticOf? fun index => Text.trim ((reading index).getD [])

theorem diagnostics_eq (text : List Char) :
    diagnostics text =
      (diagnosticPattern.expression.readingsAt none text).filterMap diagnosticIn := by
  have anchored := anchored_diagnosticPattern
  rw [← map_findAll_at anchored.productive anchored.needs [] text, List.filterMap_map]
  rfl

theorem Fields.diagnosticIn_eq {fields : Fields} {reading : Reading}
    (inside : ∀ group ∈ fields.groups, reading group.1 = some group.2) :
    diagnosticIn reading = fields.diagnostic? := by
  simp only [groups, List.forall_mem_cons] at inside
  obtain ⟨file, line, severity, code, name, scope, text, -⟩ := inside
  simp only [diagnosticIn, diagnostic?, diagnosticOf?, file, line, severity, code, name, scope,
    text, groups]
  rfl

namespace Fields.AreFirst

variable {fields : Fields} {rest : List Char}

theorem diagnostics_line (first : fields.AreFirst ('\n' :: rest)) :
    diagnostics (fields.printed ++ '\n' :: rest) =
      fields.diagnostic?.toList ++ diagnostics rest := by
  have anchored := anchored_diagnosticPattern
  obtain ⟨found, character, isFound, ends, before, isOther, inside⟩ := first.exists_matchAt
  rw [diagnostics_eq, readingsAt_of_some anchored.needs isFound, ends, before,
    readingsAt_of_none (anchored.matchAt_eq_none isOther _ 0), anchored.readingsAt_lineFeed,
    List.filterMap_cons, Fields.diagnosticIn_eq inside, ← diagnostics_eq]
  cases fields.diagnostic? <;> rfl

theorem diagnostics_last (first : fields.AreFirst []) :
    diagnostics fields.printed = fields.diagnostic?.toList := by
  have anchored := anchored_diagnosticPattern
  obtain ⟨found, character, isFound, ends, -, -, inside⟩ := first.exists_matchAt
  rw [List.append_nil] at isFound inside
  rw [diagnostics_eq, readingsAt_of_some anchored.needs isFound, ends,
    readingsAt_nil anchored.needs, List.filterMap_cons, Fields.diagnosticIn_eq inside]
  cases fields.diagnostic? <;> rfl

end Fields.AreFirst

/-- A line at which no diagnostic begins is skipped. -/
theorem diagnostics_of_none {line rest : List Char} (inLine : '\n' ∉ line)
    (nothing : diagnosticPattern.expression.matchAt? ⟨none, line ++ '\n' :: rest, 0⟩ = none) :
    diagnostics (line ++ '\n' :: rest) = diagnostics rest := by
  rw [diagnostics_eq, anchored_diagnosticPattern.readingsAt_of_none_line inLine nothing,
    diagnostics_eq]

theorem diagnostics_of_none_last {line : List Char} (inLine : '\n' ∉ line)
    (nothing : diagnosticPattern.expression.matchAt? ⟨none, line, 0⟩ = none) :
    diagnostics line = [] := by
  rw [diagnostics_eq, anchored_diagnosticPattern.readingsAt_of_none_last inLine nothing]
  rfl

end Grading.Report.PyLint
