import Grading.Proofs.Recovery

namespace Grading.Report.PyLint

open Pattern Expression Attempt

/-! Diagnostics are read line by line, but for a line that stops within its brackets: what the
brackets lack is taken from the lines behind. -/

/-! ## Lines that begin like diagnostics -/

/-- A file, a line number and a severity, up to the opening bracket, and the rest behind it. -/
def IsHeaded (text inside : List Char) : Prop :=
  ∃ stem line severity, '\n' ∉ stem ∧ line ≠ [] ∧
    (∀ character ∈ line, Text.isDecimalDigit character = true) ∧ '\n' ∉ severity ∧
    text = stem ++ (".py".toList ++ (":".toList ++ (line ++ (":".toList ++ (severity ++
      ("(".toList ++ inside))))))

/-- Whether a diagnostic can be read from the text. -/
def IsComplete (text : List Char) : Prop := ∃ inside, IsHeaded text inside ∧ IsDetail inside

/-- Behind the opening bracket: a code, a name and a scope, or the first of them, and no closing
bracket. -/
def IsUnfinished (inside : List Char) : Prop :=
  ',' ∉ inside ∨
    (∃ code name, ',' ∉ code ∧ ',' ∉ name ∧ inside = code ++ (", ".toList ++ name)) ∨
    ∃ code name scope, ',' ∉ code ∧ ',' ∉ name ∧ ',' ∉ scope ∧
      inside = code ++ (", ".toList ++ (name ++ (",".toList ++ scope)))

/-- A line with a diagnostic that is broken off within the brackets. -/
def IsTorn (line : List Char) : Prop :=
  (∃ inside, IsHeaded line inside ∧ IsUnfinished inside) ∧ ¬ IsComplete line

variable {fields : Fields} {text line inside behind rest : List Char}

theorem not_mem_of_areDigits {number : List Char} {character : Char}
    (areDigits : ∀ character ∈ number, Text.isDecimalDigit character = true)
    (other : Text.isDecimalDigit character = false) : character ∉ number := fun member =>
  Bool.noConfusion ((areDigits character member).symm.trans other)

/-- The first line of a text. -/
theorem exists_line (text : List Char) : ∃ behind line, '\n' ∉ line ∧
    behind.head?.all (· == '\n') = true ∧ text = line ++ behind := by
  induction text with
  | nil => exact ⟨[], [], List.not_mem_nil, rfl, rfl⟩
  | cons head text induction =>
      by_cases isEnd : head = '\n'
      · exact ⟨head :: text, [], List.not_mem_nil, beq_iff_eq.mpr isEnd, rfl⟩
      · obtain ⟨behind, line, inLine, ends, rfl⟩ := induction
        exact ⟨behind, head :: line, List.not_mem_cons_of_ne_of_not_mem (Ne.symm isEnd) inLine,
          ends, rfl⟩

/-- What can be read is read from the first places that allow it. -/
theorem IsHeaded.exists_areFirst (headed : IsHeaded text inside) (isDetail : IsDetail inside) :
    ∃ (fields : Fields) (behind : List Char), fields.AreFirst behind ∧
      text = fields.printed ++ behind := by
  obtain ⟨stem, number, kind, inStem, filled, areDigits, inKind, rfl⟩ := headed
  have endsFile : EndsFile (".py".toList ++ (":".toList ++ (number ++ (":".toList ++ (kind ++
      ("(".toList ++ inside)))))) := ⟨_, rfl, number, _, filled, areDigits, rfl⟩
  obtain ⟨first, late, rfl, ⟨_, isFile, line, rest, filled, areLineDigits, rfl⟩, misses⟩ :=
    exists_misses EndsFile stem endsFile
  -- The bracket is behind the first file and its line, since neither has one.
  have noBracket : '(' ∉ ".py".toList ++ (":".toList ++ (line ++ ":".toList)) := by
    simp [not_mem_of_areDigits areLineDigits (rfl : Text.isDecimalDigit '(' = false)]
  have apart : (".py".toList ++ (":".toList ++ (line ++ ":".toList))) ++ rest =
      (late ++ (".py".toList ++ (":".toList ++ (number ++ (":".toList ++ kind))))) ++
        ("(".toList ++ inside) := by
    simpa only [List.append_assoc] using isFile.symm
  obtain ⟨within, isWithin, isRest⟩ := exists_of_append_eq noBracket apart
  obtain rfl : rest = within ++ ("(".toList ++ inside) := isRest
  have inWithin : '\n' ∉ within := by
    have inNumber := not_mem_of_areDigits areDigits (rfl : Text.isDecimalDigit '\n' = false)
    have absent : '\n' ∉ late ++ (".py".toList ++ (":".toList ++ (number ++
        (":".toList ++ kind)))) := by
      simp [inNumber, inKind, mt (List.mem_append_right first) inStem]
    exact fun member => absent (isWithin ▸ List.mem_append_right _ member)
  have opens : Opens ("(".toList ++ inside) := ⟨inside, rfl, isDetail⟩
  obtain ⟨severity, _, isSeverity, ⟨_, isOpening, code, name, scope, rest, inCode, inName, inScope,
    rfl⟩, missesBracket⟩ := exists_misses Opens within opens
  obtain ⟨scope, behindScope, rfl, ⟨text, isClosing⟩, missesClosing⟩ :=
    exists_misses (") ".toList <+: ·) scope (List.prefix_append ") ".toList rest)
  obtain ⟨behind, message, inMessage, ends, rfl⟩ := exists_line text
  let fields : Fields := ⟨first, line, severity, code, name, scope, message⟩
  have whole : code ++ (", ".toList ++ (name ++ (",".toList ++ (scope ++ behindScope ++
      (") ".toList ++ rest))))) = fields.detail ++ behind := by
    simp only [fields, Fields.detail, List.append_assoc, ← isClosing]
  rw [whole] at isOpening
  rw [isOpening] at missesBracket
  rw [isFile, isSeverity, List.append_assoc, isOpening] at misses
  refine ⟨fields, behind, ?_, ?_⟩
  · exact {
      inStem := mt (List.mem_append_left late) inStem
      line := ⟨filled, areLineDigits⟩
      inSeverity := mt (fun member => isSeverity ▸ List.mem_append_left _ member) inWithin
      inCode
      inName
      inScope := mt (List.mem_append_left _) inScope
      inText := inMessage
      file := by
        simpa only [fields, Fields.remark, List.append_assoc] using misses
      opening := missesBracket
      closing := isClosing ▸ missesClosing
      ends }
  · rw [List.append_assoc, isFile, isSeverity, List.append_assoc, isOpening]
    simp only [fields, Fields.printed, Fields.remark, List.append_assoc]

theorem Fields.AreSound.isComplete (sound : fields.AreSound) (behind : List Char) :
    IsComplete (fields.printed ++ behind) := by
  refine ⟨fields.detail ++ behind, ⟨fields.stem, fields.line, fields.severity, sound.inStem,
    sound.line.1, sound.line.2, sound.inSeverity, ?_⟩, fields.code, fields.name, fields.scope,
    fields.text ++ behind, sound.inCode, sound.inName, sound.inScope, ?_⟩
  · simp only [Fields.printed, Fields.remark, List.append_assoc]
  · simp only [Fields.detail, List.append_assoc]

theorem isComplete_of_mem {outcome later : Pattern.Attempt}
    (member : later ∈ diagnosticPattern.expression.outcomes outcome) :
    IsComplete outcome.rest := by
  obtain ⟨fields, sound, isPrinted, -⟩ := exists_areSound_of_mem member
  exact isPrinted ▸ sound.isComplete later.rest

theorem matchAt_of_not_isComplete (incomplete : ¬ IsComplete text) (before : Option Char) :
    diagnosticPattern.expression.matchAt? ⟨before, text, 0⟩ = none := by
  refine Option.eq_none_iff_forall_ne_some.mpr fun found isFound => incomplete ?_
  obtain ⟨later, member, -⟩ := of_matchAt isFound
  exact isComplete_of_mem member

/-! ## Lines that are whole -/

theorem IsHeaded.of_line (headed : IsHeaded (line ++ '\n' :: rest) inside) :
    ∃ within, inside = within ++ '\n' :: rest ∧ IsHeaded line within := by
  obtain ⟨stem, number, severity, inStem, filled, areDigits, inSeverity, whole⟩ := headed
  have inNumber := not_mem_of_areDigits areDigits (rfl : Text.isDecimalDigit '\n' = false)
  have inHead : '\n' ∉ stem ++ (".py".toList ++ (":".toList ++ (number ++ (":".toList ++
      (severity ++ "(".toList))))) := by
    simp [inStem, inNumber, inSeverity]
  obtain ⟨within, isLine, rfl⟩ := exists_of_append_eq inHead (by
    simpa only [List.append_assoc] using whole.symm)
  refine ⟨within, rfl, stem, number, severity, inStem, filled, areDigits, inSeverity, ?_⟩
  simpa only [List.append_assoc] using isLine

/-- Brackets that close behind a line feed are complete before it, or unfinished there. -/
theorem IsDetail.of_line (isDetail : IsDetail (inside ++ '\n' :: rest)) :
    IsDetail inside ∨ IsUnfinished inside := by
  obtain ⟨code, name, scope, text, inCode, inName, inScope, whole⟩ := isDetail
  rcases List.append_eq_append_iff.mp whole with ⟨more, rfl, -⟩ | ⟨more, rfl, isComma⟩
  · exact .inr (.inl (mt (List.mem_append_left more) inCode))
  obtain ⟨more, rfl, isName⟩ := exists_of_append_eq (by decide : '\n' ∉ ", ".toList) isComma
  rcases List.append_eq_append_iff.mp isName.symm with ⟨within, rfl, -⟩ | ⟨within, rfl, isSecond⟩
  · exact .inr (.inr (.inl ⟨code, more, inCode, mt (List.mem_append_left within) inName, rfl⟩))
  obtain ⟨more, rfl, isScope⟩ := exists_of_append_eq (by decide : '\n' ∉ ",".toList) isSecond
  rcases List.append_eq_append_iff.mp isScope.symm with ⟨within, rfl, -⟩ | ⟨within, rfl, isClosing⟩
  · exact .inr (.inr (.inr ⟨code, name, more, inCode, inName,
      mt (List.mem_append_left within) inScope, rfl⟩))
  obtain ⟨more, rfl, -⟩ := exists_of_append_eq (by decide : '\n' ∉ ") ".toList) isClosing
  exact .inl ⟨code, name, scope, more, inCode, inName, inScope, rfl⟩

/-- Where a line has its brackets, the lines behind make no difference to them. -/
theorem IsDetail.of_behind {early : List Char} (sound : fields.AreSound)
    (isDetail : IsDetail (early ++ ("(".toList ++ (fields.detail ++ behind)))) :
    IsDetail (early ++ ("(".toList ++ fields.detail)) := by
  obtain ⟨code, name, scope, text, inCode, inName, inScope, whole⟩ := isDetail
  by_cases comma : ',' ∈ early
  · have apart : (early ++ ("(".toList ++ fields.detail)) ++ behind =
        (code ++ (", ".toList ++ (name ++ (",".toList ++ (scope ++ ") ".toList))))) ++ text := by
      simpa only [List.append_assoc] using whole
    rcases List.append_eq_append_iff.mp apart with ⟨more, isBrackets, -⟩ | ⟨more, isLine, -⟩
    · -- The brackets have two commas, and the line has three.
      have commas := congrArg (List.count ',') isBrackets
      have some := List.count_pos_iff.mpr comma
      simp [Fields.detail, List.count_eq_zero_of_not_mem, inCode, inName, inScope] at commas
      omega
    · exact ⟨code, name, scope, more, inCode, inName, inScope, by
        simpa only [List.append_assoc] using isLine⟩
  · refine ⟨early ++ ("(".toList ++ fields.code), fields.name, fields.scope, fields.text, ?_,
      sound.inName, sound.inScope, ?_⟩
    · simp [comma, sound.inCode]
    · simp only [Fields.detail, List.append_assoc]

theorem Fields.AreFirst.of_line (first : fields.AreFirst []) (rest : List Char) :
    fields.AreFirst ('\n' :: rest) := by
  refine ⟨first.toAreSound, ?_, ?_, ?_, rfl⟩
  · rintro early late isStem some ⟨_, isFile, line, more, filled, areDigits, rfl⟩
    have inLine := not_mem_of_areDigits areDigits (rfl : Text.isDecimalDigit '\n' = false)
    have inFile : '\n' ∉ ".py".toList ++ (":".toList ++ (line ++ ":".toList)) := by simp [inLine]
    obtain ⟨more, isLate, -⟩ := exists_of_append_eq inFile
      (show _ = (late ++ (".py".toList ++ fields.remark)) ++ '\n' :: rest by
        simpa only [List.append_assoc] using isFile.symm)
    refine first.file early late isStem some ⟨_, ?_, line, more, filled, areDigits, rfl⟩
    simpa only [List.append_assoc, List.append_nil] using isLate
  · rintro early late isSeverity some ⟨_, isOpening, isDetail⟩
    obtain ⟨head, late, rfl⟩ := List.exists_cons_of_ne_nil some
    obtain ⟨rfl, rfl⟩ := List.cons.inj isOpening
    refine first.opening early _ isSeverity some ⟨_, rfl, ?_⟩
    rw [List.append_nil]
    exact isDetail.of_behind first.toAreSound
  · rintro early late isScope some ⟨more, isClosing⟩
    obtain ⟨more, isLate, -⟩ := exists_of_append_eq (by decide : '\n' ∉ ") ".toList)
      (show _ = (late ++ (") ".toList ++ fields.text)) ++ '\n' :: rest by
        simpa only [List.append_assoc] using isClosing)
    refine first.closing early late isScope some ⟨more, ?_⟩
    simpa only [List.append_assoc, List.append_nil] using isLate.symm

/-- A line that is not torn is read on its own. -/
theorem diagnostics_append_line (inLine : '\n' ∉ line) (whole : ¬ IsTorn line) (rest : List Char) :
    diagnostics (line ++ '\n' :: rest) = diagnostics line ++ diagnostics rest := by
  by_cases isComplete : IsComplete line
  · obtain ⟨inside, headed, isDetail⟩ := isComplete
    obtain ⟨fields, behind, first, rfl⟩ := headed.exists_areFirst isDetail
    have isLast : behind = [] := by
      cases behind with
      | nil => rfl
      | cons head behind =>
          obtain rfl := beq_iff_eq.mp first.ends
          exact absurd (List.mem_append_right _ List.mem_cons_self) inLine
    rw [isLast] at first ⊢
    rw [List.append_nil, (first.of_line rest).diagnostics_line, first.diagnostics_last]
  · have incomplete : ¬ IsComplete (line ++ '\n' :: rest) := by
      rintro ⟨_, headed, isDetail⟩
      obtain ⟨inside, rfl, begins⟩ := headed.of_line
      rcases isDetail.of_line with isDetail | isUnfinished
      · exact isComplete ⟨inside, begins, isDetail⟩
      · exact whole ⟨⟨inside, begins, isUnfinished⟩, isComplete⟩
    rw [diagnostics_of_none inLine (matchAt_of_not_isComplete incomplete none),
      diagnostics_of_none_last inLine (matchAt_of_not_isComplete isComplete none)]
    rfl

theorem splitOn_append_line (inLine : '\n' ∉ line) (rest : List Char) :
    (line ++ '\n' :: rest).splitOn '\n' = line :: rest.splitOn '\n' := by
  rw [List.splitOn_append_cons_self, List.splitOn_eq_singleton inLine, List.singleton_append]

theorem diagnostics_of_lines (text : List Char)
    (whole : ∀ line ∈ (text.splitOn '\n').dropLast, ¬ IsTorn line) :
    diagnostics text = (text.splitOn '\n').flatMap diagnostics := by
  induction size : text.length using Nat.strongRecOn generalizing text with
  | ind length induction =>
      by_cases more : '\n' ∈ text
      · obtain ⟨line, rest, rfl, inLine⟩ := List.eq_append_cons_of_mem more
        have lines := splitOn_append_line inLine rest
        rw [lines, List.dropLast_cons_of_ne_nil (List.splitOn_ne_nil '\n' rest)] at whole
        obtain ⟨isWhole, areWhole⟩ := List.forall_mem_cons.mp whole
        rw [lines, List.flatMap_cons, diagnostics_append_line inLine isWhole,
          induction rest.length (by simp [← size]; omega) rest areWhole rfl]
      · rw [List.splitOn_eq_singleton more, List.flatMap_singleton]

/-! ## Lines that are torn -/

/-- A diagnostic that any brackets can be completed from. Its file has this many characters before
the extension. -/
def completion (size : Nat) : Diagnostic where
  fileName := String.ofList (List.replicate size 'b' ++ ".py".toList)
  line := 1
  severity := "w) x"
  code := "C"
  name := "y) n"
  scope := none
  text := "m"

theorem isPlain_completion (size : Nat) : IsPlain (completion size) := by
  have isFile : (completion size).fileName.toList = List.replicate size 'b' ++ ".py".toList :=
    String.toList_ofList
  have isMade : ∀ character ∈ (completion size).fileName.toList,
      character ∈ 'b' :: ".py".toList := by
    intro character member
    rcases List.mem_append.mp (isFile ▸ member) with member | member
    · rw [List.eq_of_mem_replicate member]
      exact List.mem_cons_self
    · exact List.mem_cons_of_mem 'b' member
  have visible : ∀ character ∈ 'b' :: ".py".toList, (!Text.isBlank character) = true :=
    List.all_eq_true.mp (by decide)
  have isField : IsField (completion size).fileName :=
    ⟨Text.trim_of_not_blank fun character member =>
        Bool.not_inj (visible character (isMade character member)),
      mt (isMade '\n') (by decide)⟩
  exact {
    areFields := List.forall_mem_cons.mpr ⟨isField,
      (by decide : ∀ field ∈ ["w) x", "C", "y) n", "", "m"], IsField field)⟩
    isFile := isFile ▸ List.suffix_append _ _
    fileName := fun isInfix => absurd
      (isMade ':' (isInfix.subset (by decide : ':' ∈ ".py:".toList))) (by decide)
    line := (by decide : 1 < numberBound)
    severity := (by decide : '(' ∉ "w) x".toList)
    code := (by decide : ',' ∉ "C".toList)
    name := (by decide : ',' ∉ "y) n".toList)
    inScope := (by decide : ',' ∉ "".toList ∧ ')' ∉ "".toList)
    scope := nofun }

theorem toList_printed_completion (size : Nat) :
    (printed (completion size)).toList =
      List.replicate size 'b' ++ ".py:1:w) x(C, y) n,) m".toList := by
  simp [printed, completion, show Nat.toDigits 10 1 = ['1'] from rfl]

theorem inLine_completion (size : Nat) : '\n' ∉ (printed (completion size)).toList := by
  rw [toList_printed_completion]
  simp

/-- What is unfinished can be completed. -/
theorem IsUnfinished.isDetail (isUnfinished : IsUnfinished inside) (size : Nat) :
    IsDetail (inside ++ '\n' :: (printed (completion size)).toList) := by
  have noComma : ',' ∉ List.replicate size 'b' := by simp
  rw [toList_printed_completion]
  rcases isUnfinished with inCode | ⟨code, name, inCode, inName, rfl⟩ |
    ⟨code, name, scope, inCode, inName, inScope, rfl⟩
  · exact ⟨inside ++ '\n' :: (List.replicate size 'b' ++ ".py:1:w) x(C".toList), "y) n".toList, [],
      "m".toList, by simp [inCode, noComma], by decide, by decide, by simp⟩
  · exact ⟨code, name ++ '\n' :: (List.replicate size 'b' ++ ".py:1:w) x(C".toList), " y".toList,
      "n,) m".toList, inCode, by simp [inName, noComma], by decide, by simp⟩
  · exact ⟨code, name, scope ++ '\n' :: (List.replicate size 'b' ++ ".py:1:w".toList),
      "x(C, y) n,) m".toList, inCode, inName, by simp [inScope, noComma], by simp⟩

theorem IsHeaded.append (headed : IsHeaded line inside) (more : List Char) :
    IsHeaded (line ++ more) (inside ++ more) := by
  obtain ⟨stem, number, severity, inStem, filled, areDigits, inSeverity, rfl⟩ := headed
  exact ⟨stem, number, severity, inStem, filled, areDigits, inSeverity, by
    simp only [List.append_assoc]⟩

theorem length_trim_le (text : List Char) : (Text.trim text).length ≤ text.length := by
  rw [Text.trim, Text.trimEnd, List.length_reverse]
  refine Nat.le_trans (List.dropWhile_suffix _).length_le ?_
  rw [List.length_reverse]
  exact (List.dropWhile_suffix _).length_le

/-- The diagnostic that a torn line is completed from is lost. -/
theorem IsTorn.diagnostics_append (torn : IsTorn line) (inLine : '\n' ∉ line) :
    diagnostics (line ++ '\n' :: (printed (completion line.length)).toList) ≠
      diagnostics line ++ diagnostics (printed (completion line.length)).toList := by
  obtain ⟨⟨inside, headed, isUnfinished⟩, incomplete⟩ := torn
  have alone : diagnostics line = [] :=
    diagnostics_of_none_last inLine (matchAt_of_not_isComplete incomplete none)
  obtain ⟨whole, isPrinted, isFirst, isRead⟩ := (isPlain_completion line.length).exists_fields
  have next : diagnostics (printed (completion line.length)).toList =
      [completion line.length] := by
    rw [← isPrinted, (isFirst [] rfl).diagnostics_last, isRead]
    rfl
  obtain ⟨fields, behind, first, isText⟩ :=
    (headed.append _).exists_areFirst (isUnfinished.isDetail line.length)
  -- The line has no closing bracket, so the match goes on to the end of the text.
  have isLast : behind = [] := by
    cases behind with
    | nil => rfl
    | cons head behind =>
        obtain rfl := beq_iff_eq.mp first.ends
        obtain ⟨isLine, -, -⟩ := (List.append_cons_inj_of_notMem inLine
          (inLine_completion line.length)).mp isText
        exact absurd (isLine ▸ List.append_nil fields.printed ▸ first.isComplete []) incomplete
  have inFile : '\n' ∉ fields.file := by
    simp [Fields.file, first.inStem]
  have isFile : fields.file ++ (fields.remark ++ behind) =
      line ++ '\n' :: (printed (completion line.length)).toList := by
    rw [isText, Fields.file, Fields.printed]
    simp only [List.append_assoc]
  obtain ⟨more, isLine, -⟩ := exists_of_append_eq inFile isFile
  rw [alone, next, isText]
  rw [isLast] at first ⊢
  rw [List.append_nil, first.diagnostics_last, Fields.diagnostic?_eq]
  intro same
  obtain ⟨number, -, isMade⟩ := Option.map_eq_some_iff.mp (Option.toList_eq_singleton_iff.mp same)
  -- The file that is read is on the line, and the one that is missing is longer than the line.
  have lengths := congrArg (·.fileName.toList.length) isMade
  have short := length_trim_le fields.file
  have length := congrArg List.length isLine
  simp only [completion, String.toList_ofList, List.length_append, List.length_replicate] at lengths
  rw [List.length_append] at length
  have some : 0 < ".py".toList.length := by decide
  omega

/-- Diagnostics are read line by line as long as no line but the last is torn, and a torn line can
always be followed by one that is not read on its own. -/
theorem diagnostics_by_line (text : List Char) :
    ((∀ line ∈ (text.splitOn '\n').dropLast, ¬ IsTorn line) →
      diagnostics text = (text.splitOn '\n').flatMap diagnostics) ∧
    ('\n' ∉ text → IsTorn text → ∃ next : List Char, '\n' ∉ next ∧
      diagnostics (text ++ '\n' :: next) ≠
        ((text ++ '\n' :: next).splitOn '\n').flatMap diagnostics) := by
  refine ⟨diagnostics_of_lines text, fun inLine torn => ?_⟩
  have inNext := inLine_completion text.length
  refine ⟨_, inNext, ?_⟩
  rw [splitOn_append_line inLine, List.splitOn_eq_singleton inNext, List.flatMap_cons,
    List.flatMap_singleton]
  exact torn.diagnostics_append inLine

end Grading.Report.PyLint
