import Grading.Proofs.Preference
import Grading.Report.Summary

namespace Grading

/-! Numbers in summary lines. The number that counts is that of the last match of a scan, and a
number as it is printed is read back. -/

/-! ## Numerals -/

namespace Text

theorem isDecimalDigit_of_isDigit {character : Char} (isDigit : character.isDigit = true) :
    isDecimalDigit character = true := by
  have isAscii : isAscii character = true := by
    simp only [Char.isDigit, Bool.and_eq_true, decide_eq_true_eq] at isDigit
    simp only [Text.isAscii, decide_eq_true_eq]
    have := UInt32.le_iff_toNat_le.mp isDigit.2
    change character.val.toNat < 128
    exact Nat.lt_of_le_of_lt this (by decide)
  rw [isDecimalDigit, isAscii, if_pos rfl, isDigit]

theorem digitsValue?_of_isDigit {digits : List Char}
    (isDigit : ∀ character ∈ digits, character.isDigit = true) (value : Nat) :
    digitsValue? value digits = some (Nat.ofDigitChars 10 digits value) := by
  induction digits generalizing value with
  | nil => rfl
  | cons character digits induction =>
      rw [digitsValue?, digit?, if_pos (isDigit character List.mem_cons_self)]
      exact induction (fun other member => isDigit other (List.mem_cons_of_mem _ member)) _

theorem isDigit_of_mem_toDigits {value : Nat} {character : Char}
    (member : character ∈ Nat.toDigits 10 value) : character.isDigit = true :=
  Nat.isDigit_of_mem_toDigits (by decide) (by decide) member

theorem isDecimalDigit_toDigits (value : Nat) :
    ∀ character ∈ Nat.toDigits 10 value, isDecimalDigit character = true :=
  fun _ member => isDecimalDigit_of_isDigit (isDigit_of_mem_toDigits member)

theorem not_mem_toDigits {character : Char} (other : character.isDigit = false) (value : Nat) :
    character ∉ Nat.toDigits 10 value := by
  intro member
  rw [isDigit_of_mem_toDigits member] at other
  cases other

theorem toList_toString (value : Nat) : (toString value).toList = Nat.toDigits 10 value := by
  rw [Nat.toString_eq_repr, Nat.repr_eq_ofList_toDigits, String.toList_ofList]

theorem isBlank_of_isDigit {character : Char} (isDigit : character.isDigit = true) :
    isBlank character = false := by
  simp only [Char.isDigit, Bool.and_eq_true, decide_eq_true_eq, ge_iff_le,
    UInt32.le_iff_toNat_le] at isDigit
  have least : 48 ≤ character.toNat := isDigit.1
  have most : character.toNat ≤ 57 := isDigit.2
  simp only [isBlank, Bool.or_eq_false_iff, Bool.and_eq_false_iff, decide_eq_false_iff_not,
    beq_eq_false_iff_ne]
  omega

theorem trim_of_not_blank {text : List Char}
    (visible : ∀ character ∈ text, isBlank character = false) : trim text = text := by
  have stays : ∀ run : List Char, (∀ character ∈ run, isBlank character = false) →
      run.dropWhile isBlank = run := by
    intro run visible
    cases run with
    | nil => rfl
    | cons character run =>
        exact List.dropWhile_cons_of_neg (Bool.eq_false_iff.mp (visible _ List.mem_cons_self))
  rw [trim, trimStart, stays text visible, trimEnd,
    stays _ fun character member => visible character (List.mem_reverse.mp member),
    List.reverse_reverse]

/-- A natural number is read back from its decimal digits. -/
theorem naturalBelow?_toDigits {bound value : Nat} (below : value < bound) :
    naturalBelow? bound (Nat.toDigits 10 value) = some value := by
  have isDigit : ∀ character ∈ Nat.toDigits 10 value, character.isDigit = true :=
    fun _ => isDigit_of_mem_toDigits
  have isValue := digitsValue?_of_isDigit isDigit 0
  rw [Nat.ofDigitChars_ten_toDigits] at isValue
  have unsigned : ∀ rest, Nat.toDigits 10 value = '+' :: rest → False := fun rest digits =>
    absurd (isDigit '+' (digits ▸ List.mem_cons_self)) (by decide)
  rw [naturalBelow?, isValue]
  · simp [below]
  · exact unsigned

end Text

namespace Report

open Pattern

/-! ## The last number -/

/-- The number that counts: what the first group of the last match says. -/
def numberIn (readings : List Reading) : Option Nat := do
  let reading ← readings.getLast?
  let digits ← reading 1
  Text.naturalBelow? numberBound digits

theorem numberIn_concat (readings : List Reading) {reading : Reading} {value : Nat}
    (isText : reading 1 = some (Nat.toDigits 10 value)) (below : value < numberBound) :
    numberIn (readings ++ [reading]) = some value := by
  rw [numberIn, List.getLast?_concat]
  change (reading 1).bind _ = _
  rw [isText]
  exact Text.naturalBelow?_toDigits below

theorem lastNumber_eq_numberIn_at {pattern : Pattern}
    (made : pattern = .ofExpression pattern.expression pattern.names)
    (productive : pattern.expression.IsProductive) (needs : pattern.expression.isNullable = false)
    (text : List Char) :
    lastNumber pattern text = numberIn (pattern.expression.readingsAt none text) := by
  rw [lastNumber, numberIn, ← map_findAll_at productive needs pattern.names, ← made,
    List.getLast?_map]
  cases (pattern.findAll text).getLast? <;> rfl

theorem lastNumber_eq_numberIn {pattern : Pattern}
    (made : pattern = .ofExpression pattern.expression pattern.names)
    (scannable : pattern.expression.IsScannable) (text : List Char) :
    lastNumber pattern text = numberIn (pattern.expression.readings text) := by
  rw [lastNumber_eq_numberIn_at made scannable.productive scannable.needs,
    scannable.readingsAt_eq none text]

/-! ## Numbers between words -/

open Expression Attempt

theorem prefers_number {outcome : Attempt} {digits behind : List Char} (filled : digits ≠ [])
    (here : outcome.rest = digits ++ behind)
    (isDigit : ∀ character ∈ digits, Text.isDecimalDigit character = true)
    (stops : ∀ character ∈ behind.head?, Text.isDecimalDigit character = false) :
    Prefers (group 1 (oneOrMore .digit)).outcomes outcome
      (((outcome.mark 2).skip digits.length).mark 3) :=
  prefers_group (prefers_run_one filled here isDigit stops)

/-- What the outcome of a number remembers of it. -/
theorem marks_number {outcome : Attempt} {digits behind : List Char}
    (here : outcome.rest = digits ++ behind) :
    (((outcome.mark 2).skip digits.length).mark 3).marks =
      (3, outcome.cursor.position + digits.length) :: (2, outcome.cursor.position) ::
        outcome.marks := by
  have marked : (outcome.mark 2).rest = digits ++ behind := here
  rw [Attempt.mark, marks_skip, position_skip_of_append marked]
  rfl

theorem readings_numberBetween {opening closing : String} {digits more : List Char}
    (needs : (numberBetween opening closing).expression.isNullable = false) (filled : digits ≠ [])
    (isDigit : ∀ character ∈ digits, Text.isDecimalDigit character = true)
    (stops : ∀ character ∈ (closing.toList ++ more).head?, Text.isDecimalDigit character = false) :
    ∃ reading : Reading, reading 1 = some digits ∧
      (numberBetween opening closing).expression.readings
          (opening.toList ++ digits ++ (closing.toList ++ more)) =
        reading :: (numberBetween opening closing).expression.readings more := by
  obtain ⟨text, isText⟩ : ∃ text, text = opening.toList ++ digits ++ (closing.toList ++ more) :=
    ⟨_, rfl⟩
  have first : (Attempt.start (.start text)).rest =
      opening.toList ++ (digits ++ (closing.toList ++ more)) := by
    rw [isText, List.append_assoc]
    rfl
  have second := rest_skip_of_append first
  have third : (((((Attempt.start (.start text)).skip opening.toList.length).mark 2).skip
      digits.length).mark 3).rest = closing.toList ++ more := rest_skip_of_append second
  have prefers := prefers_cons (prefers_literal first) (prefers_cons
    (prefers_number filled second isDigit stops) (prefers_last (prefers_literal third)))
  have readings := readings_of_prefers needs prefers
  rw [marks_skip, marks_number second, position_skip_of_append first,
    rest_skip_of_append third] at readings
  rw [← isText]
  refine ⟨_, ?_, readings⟩
  rw [isText]
  refine Match.reading_of_marks (by decide) ?_ ?_
  · exact congrArg some (Nat.zero_add _)
  · exact congrArg (fun first => some (first + digits.length)) (Nat.zero_add _)

end Report

end Grading
