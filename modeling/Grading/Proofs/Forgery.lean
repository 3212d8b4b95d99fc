import Mathlib.Data.List.TakeWhile
import Grading.Proofs.Recovery

namespace Grading.Report.PyLint

open Pattern Expression Attempt

/-! The rating of a report is the first one in its text. It is that of the last line as long as no
diagnostic quotes one. -/

/-! ## Numerals -/

/-- ASCII digits, and perhaps a point and more of them behind the first ones. -/
structure Numeral where
  whole : List Char
  places : Option (List Char)
  filled : whole ≠ []
  areDigits : ∀ character ∈ whole ++ places.getD [], character.isDigit = true

namespace Numeral

def text (numeral : Numeral) : List Char :=
  numeral.whole ++ (numeral.places.map ('.' :: ·)).getD []

/-- The double nearest to the numeral. -/
def value (numeral : Numeral) : Float :=
  let places := (numeral.places.getD []).length
  .ofScientific (Nat.ofDigitChars 10 (numeral.whole ++ numeral.places.getD []) 0) (0 < places)
    places

variable (numeral : Numeral)

theorem exists_digit : ∃ character rest, numeral.text = character :: rest ∧
    character.isDigit = true := by
  obtain ⟨character, rest, isWhole⟩ := List.exists_cons_of_ne_nil numeral.filled
  refine ⟨character, _, by rw [text, isWhole, List.cons_append], numeral.areDigits _ ?_⟩
  rw [isWhole]
  exact List.mem_cons_self

theorem not_isPrefix {character : Char} {word : List Char} (other : character.isDigit = false)
    (behind : List Char) : ¬ character :: word <+: numeral.text ++ behind := by
  obtain ⟨head, rest, begins, isDigit⟩ := numeral.exists_digit
  rw [begins, List.cons_append, List.cons_prefix_cons]
  rintro ⟨rfl, -⟩
  rw [isDigit] at other
  cases other

theorem digitsValue?_digits :
    Text.digitsValue? 0 (numeral.whole ++ numeral.places.getD []) =
      some (Nat.ofDigitChars 10 (numeral.whole ++ numeral.places.getD []) 0) :=
  Text.digitsValue?_of_isDigit numeral.areDigits 0

theorem isDigit_or_point {character : Char} (member : character ∈ numeral.text) :
    character.isDigit = true ∨ character = '.' := by
  obtain ⟨whole, places, filled, areDigits⟩ := numeral
  rcases List.mem_append.mp member with isWhole | isBehind
  · exact .inl (areDigits _ (List.mem_append_left _ isWhole))
  · cases places with
    | none => cases isBehind
    | some places =>
        rcases List.mem_cons.mp isBehind with isPoint | isPlace
        · exact .inr isPoint
        · exact .inl (areDigits _ (List.mem_append_right _ isPlace))

theorem magnitude?_text : Decimal.magnitude? numeral.text = some numeral.value := by
  have noMark : ∀ character ∈ numeral.text, (!Decimal.isExponentMark character) = true := by
    intro character member
    rcases numeral.isDigit_or_point member with isDigit | rfl
    · rw [Bool.not_eq_true', Decimal.isExponentMark, Bool.or_eq_false_iff, beq_eq_false_iff_ne,
        beq_eq_false_iff_ne]
      exact ⟨ne_of_apply_ne Char.isDigit (by rw [isDigit]; decide),
        ne_of_apply_ne Char.isDigit (by rw [isDigit]; decide)⟩
    · rfl
  have noPoint : ∀ character ∈ numeral.whole, (character != '.') = true := by
    intro character member
    have isDigit := numeral.areDigits character (List.mem_append_left _ member)
    exact bne_iff_ne.mpr (ne_of_apply_ne Char.isDigit (by rw [isDigit]; decide))
  have significand : numeral.text.takeWhile (!Decimal.isExponentMark ·) = numeral.text :=
    List.takeWhile_eq_self_iff.mpr noMark
  have noExponent : numeral.text.dropWhile (!Decimal.isExponentMark ·) = [] :=
    List.dropWhile_eq_nil_iff.mpr noMark
  have whole : numeral.text.takeWhile (· != '.') = numeral.whole := by
    have ends : ((numeral.places.map ('.' :: ·)).getD []).takeWhile (· != '.') = [] := by
      cases numeral.places <;> rfl
    rw [text, List.takeWhile_append_of_pos noPoint, ends, List.append_nil]
  have places : (numeral.text.dropWhile (· != '.')).drop 1 = numeral.places.getD [] := by
    rw [text, List.dropWhile_append_of_pos noPoint]
    cases numeral.places <;> rfl
  have filled : (numeral.whole ++ numeral.places.getD []).isEmpty = false := by
    rw [List.isEmpty_eq_false_iff]
    exact List.append_ne_nil_of_left_ne_nil numeral.filled _
  have exponent : Decimal.exponent? ([].drop 1) = some 0 := rfl
  simp only [Decimal.magnitude?, significand, noExponent, whole, places, filled, exponent,
    numeral.digitsValue?_digits, value]
  generalize (numeral.places.getD []).length = count
  have isBelow : decide ((0 : Int) - count < 0) = decide (0 < count) :=
    decide_eq_decide.mpr (by omega)
  have power : ((0 : Int) - count).natAbs = count := by omega
  exact congrArg some (by rw [isBelow, power])

theorem real?_text (negative : Bool) :
    Decimal.real? ((if negative then "-".toList else []) ++ numeral.text) =
      some (if negative then -numeral.value else numeral.value) := by
  cases negative with
  | true =>
      change (Decimal.magnitude? numeral.text).map (- ·) = _
      rw [magnitude?_text]
      rfl
  | false =>
      have unsigned : Decimal.real? numeral.text = Decimal.magnitude? numeral.text := by
        have noSign : ∀ sign : Char, sign.isDigit = false →
            ∀ behind, numeral.text = sign :: behind → False := fun sign other behind isSigned =>
          numeral.not_isPrefix other []
            (show sign :: behind <+: _ from
              ⟨[], by rw [List.append_nil, List.append_nil, isSigned]⟩)
        rw [Decimal.real?]
        · exact noSign '-' rfl
        · exact noSign '+' rfl
      rw [if_neg Bool.false_ne_true, if_neg Bool.false_ne_true, List.nil_append, unsigned,
        magnitude?_text]

def zero : Numeral := ⟨['0'], none, List.cons_ne_nil _ _, List.all_eq_true.mp rfl⟩

def one : Numeral := ⟨['1'], none, List.cons_ne_nil _ _, List.all_eq_true.mp rfl⟩

theorem zero_ne_one : zero.value ≠ one.value := by decide +kernel

end Numeral

/-! ## Ratings -/

/-- What the pattern takes for a number. Its digits need not be those of ASCII. -/
def IsDecimal (text : List Char) : Prop :=
  ∃ whole point places, whole ≠ [] ∧
    (∀ character ∈ whole, Text.isDecimalDigit character = true) ∧
    (point = [] ∨ point = ".".toList) ∧
    (∀ character ∈ places, Text.isDecimalDigit character = true) ∧
    text = whole ++ (point ++ places)

/-- A rating as the pattern finds it, and the rest of the text. -/
def BeginsRating (text : List Char) : Prop :=
  ∃ sign achieved maximum rest, (sign = [] ∨ sign = "-".toList) ∧ IsDecimal achieved ∧
    IsDecimal maximum ∧
    text = "Your code has been rated at ".toList ++ (sign ++ (achieved ++ ("/".toList ++
      (maximum ++ rest))))

/-- Whether there is a rating in a text. -/
def IsRated (text : List Char) : Prop := ∃ late, late <:+ text ∧ BeginsRating late

variable {outcome later : Pattern.Attempt}

theorem isMetBy_decimal : decimal.IsMetBy IsDecimal := by
  have met := ((isMetBy_one CharSet.digit).oneOrMore true).concat
    (((isMetBy_literal ".").perhaps true).concat ((isMetBy_one CharSet.digit).anyNumber true))
  refine met.congr fun text => ⟨?_, ?_⟩
  · rintro ⟨whole, _, ⟨filled, areDigits⟩, ⟨point, places, isPoint, areToo, rfl⟩, rfl⟩
    exact ⟨whole, point, places, filled, areDigits, isPoint, areToo, rfl⟩
  · rintro ⟨whole, point, places, filled, areDigits, isPoint, areToo, rfl⟩
    exact ⟨whole, _, ⟨filled, areDigits⟩, ⟨point, places, isPoint, areToo, rfl⟩, rfl⟩

theorem isMetBy_signed :
    (Expression.concat (perhaps (Report.literal "-")) decimal).IsMetBy fun text =>
      ∃ sign number, (sign = [] ∨ sign = "-".toList) ∧ IsDecimal number ∧ text = sign ++ number :=
  ((isMetBy_literal "-").perhaps true).concat isMetBy_decimal

/-- There is a match exactly where a rating begins. -/
theorem matchAt_ratingPattern_eq_none_iff {text : List Char} :
    ratingPattern.expression.matchAt? (.start text) = none ↔ ¬ BeginsRating text := by
  rw [matchAt_eq_none_iff, ← not_iff_not, not_not]
  constructor
  · intro some
    obtain ⟨later, member⟩ := List.exists_mem_of_ne_nil _ some
    obtain ⟨_, _, rfl, isOpening, member⟩ := (isMetBy_literal _).of_mem_cons member
    obtain ⟨_, _, ⟨sign, achieved, isSign, isAchieved, rfl⟩, isSigned, member⟩ :=
      (isMetBy_signed.group 1).of_mem_cons member
    obtain ⟨_, _, rfl, isSlash, member⟩ := (isMetBy_literal _).of_mem_cons member
    obtain ⟨maximum, ended, isMaximum, isLast, -⟩ := (isMetBy_decimal.group 2).of_mem_cons member
    have whole := isOpening.rest
    rw [isSigned.rest, isSlash.rest, isLast.rest, List.append_assoc] at whole
    exact ⟨sign, achieved, maximum, ended.rest, isSign, isAchieved, isMaximum, whole⟩
  · rintro ⟨sign, achieved, maximum, rest, isSign, isAchieved, isMaximum, isText⟩
    rw [← List.append_assoc sign] at isText
    refine (isMetBy_literal _).cons_ne_nil rfl isText fun _ isOpening => ?_
    have behindOpening := isOpening.remains isText
    refine (isMetBy_signed.group 1).cons_ne_nil ⟨sign, achieved, isSign, isAchieved, rfl⟩
      behindOpening fun _ isSigned => ?_
    have behindSigned := isSigned.remains behindOpening
    refine (isMetBy_literal _).cons_ne_nil rfl behindSigned fun _ isSlash => ?_
    have behindSlash := isSlash.remains behindSigned
    exact (isMetBy_decimal.group 2).cons_ne_nil isMaximum behindSlash
      fun _ _ => List.cons_ne_nil _ _

theorem inLine_ratingPattern : ratingPattern.expression.IsInLine where
  productive := by decide
  needs := by decide
  isBuilt := by decide

theorem readings_eq_nil_iff_not_isRated {text : List Char} :
    ratingPattern.expression.readings text = [] ↔ ¬ IsRated text := by
  rw [readings_eq_nil_iff inLine_ratingPattern.needs, IsRated, not_exists]
  refine forall_congr' fun late => ?_
  rw [matchAt_ratingPattern_eq_none_iff, not_and]

/-- What a match says of the rating. -/
def ratingIn (reading : Reading) : Option Rating := do
  let achieved ← Decimal.real? (← reading 1)
  let maximum ← Decimal.real? (← reading 2)
  return ⟨achieved, maximum⟩

theorem ratingIn_eq {reading : Reading} {first second : List Char} {achieved maximum : Float}
    (isFirst : reading 1 = some first) (isSecond : reading 2 = some second)
    (isAchieved : Decimal.real? first = some achieved)
    (isMaximum : Decimal.real? second = some maximum) :
    ratingIn reading = some ⟨achieved, maximum⟩ := by
  simp only [ratingIn, isFirst, isSecond, isAchieved, isMaximum, Option.bind_eq_bind,
    Option.bind_some]
  rfl

theorem rating?_eq (text : List Char) :
    rating? text = (ratingPattern.expression.readings text).head?.bind ratingIn := by
  rw [rating?, ← map_find? inLine_ratingPattern.isScannable [] text, Option.bind_map]
  rfl

/-! ## The last line -/

structure RatingLine where
  negative : Bool
  achieved : Numeral
  maximum : Numeral

namespace RatingLine

def sign (line : RatingLine) : List Char := if line.negative then "-".toList else []

def text (line : RatingLine) : List Char :=
  "Your code has been rated at ".toList ++ (line.sign ++ line.achieved.text ++ ("/".toList ++
    line.maximum.text))

def rating (line : RatingLine) : Rating :=
  ⟨if line.negative then -line.achieved.value else line.achieved.value, line.maximum.value⟩

end RatingLine

theorem Numeral.prefers_decimal (numeral : Numeral) {behind : List Char}
    (ends : ∀ character ∈ behind.head?, Text.isDecimalDigit character = false)
    (noPoint : '.' ∉ behind.head?) (here : outcome.rest = numeral.text ++ behind) :
    Prefers decimal.outcomes outcome (outcome.skip numeral.text.length) := by
  obtain ⟨whole, places, filled, areDigits⟩ := numeral
  have areDecimal : ∀ character ∈ whole ++ places.getD [],
      Text.isDecimalDigit character = true := fun character member =>
    Text.isDecimalDigit_of_isDigit (areDigits character member)
  obtain ⟨areWhole, arePlaces⟩ := List.forall_mem_append.mp areDecimal
  cases places with
  | none =>
      rw [text, Option.map_none, Option.getD_none, List.append_nil] at here ⊢
      have behindWhole := rest_skip_of_append here
      have isLast : ¬ ".".toList <+: (outcome.skip whole.length).rest := by
        rw [behindWhole]
        rintro ⟨rest, rfl⟩
        exact noPoint rfl
      have nothing : (Report.literal ".").outcomes (outcome.skip whole.length) = [] := by
        rw [Report.literal, outcomes_literal, if_neg isLast]
      exact prefers_cons (prefers_run_one filled here areWhole ends) (prefers_cons
        (prefers_perhaps_not nothing) (prefers_last (prefers_run (behindWhole.trans
          (List.nil_append behind).symm) (List.forall_mem_nil _) ends)))
  | some places =>
      have stops : ∀ character ∈ (".".toList ++ (places ++ behind)).head?,
          Text.isDecimalDigit character = false := by
        intro character isPoint
        cases isPoint
        rfl
      rw [text, Option.map_some, Option.getD_some, List.append_assoc] at here
      have behindWhole := rest_skip_of_append here
      have behindPoint : ((outcome.skip whole.length).skip ".".toList.length).rest =
          places ++ behind := rest_skip_of_append behindWhole
      have prefers : Prefers decimal.outcomes outcome
          (((outcome.skip whole.length).skip ".".toList.length).skip places.length) :=
        prefers_cons (prefers_run_one filled here areWhole stops) (prefers_cons
          (prefers_perhaps (prefers_literal behindWhole)) (prefers_last
            (prefers_run behindPoint arePlaces ends)))
      rw [skip_skip, skip_skip] at prefers
      rwa [text, Option.map_some, Option.getD_some, List.length_append, List.length_cons,
        Nat.add_comm places.length]

variable {behind : List Char}

theorem RatingLine.prefers_signed (line : RatingLine)
    (here : outcome.rest = line.sign ++ line.achieved.text ++ ("/".toList ++ behind)) :
    Prefers (Expression.concat (perhaps (Report.literal "-")) decimal).outcomes outcome
      (outcome.skip (line.sign ++ line.achieved.text).length) := by
  have stops : ∀ character ∈ ("/".toList ++ behind).head?,
      Text.isDecimalDigit character = false := by
    intro character isSlash
    cases isSlash
    rfl
  have noPoint : '.' ∉ ("/".toList ++ behind).head? := nofun
  rw [List.length_append, ← skip_skip]
  rw [List.append_assoc] at here
  refine prefers_flatMap ?_ (line.achieved.prefers_decimal stops noPoint (rest_skip_of_append here))
  cases isNegative : line.negative with
  | true =>
      rw [sign, isNegative, if_pos rfl] at here ⊢
      exact prefers_perhaps (prefers_literal here)
  | false =>
      rw [sign, isNegative, if_neg Bool.false_ne_true] at here ⊢
      have unsigned : ¬ "-".toList <+: outcome.rest := by
        rw [here]
        exact line.achieved.not_isPrefix (rfl : '-'.isDigit = false) _
      refine prefers_perhaps_not ?_
      rw [Report.literal, outcomes_literal, if_neg unsigned]

/-- The match at a rating line reads its numerals. -/
theorem RatingLine.fit_text (line : RatingLine) (ends : behind.head?.all (· == '\n') = true) :
    Fit [Report.literal "Your code has been rated at ",
        .group 1 (.concat (perhaps (Report.literal "-")) decimal), Report.literal "/",
        .group 2 decimal] line.text behind
      [(1, line.sign ++ line.achieved.text), (2, line.maximum.text)] := by
  have stops : ∀ character ∈ behind.head?, character = '\n' := by
    intro character isHead
    rwa [isHead, Option.all_some, beq_iff_eq] at ends
  have last : Fit [.group 2 decimal] (line.maximum.text ++ []) behind [(2, line.maximum.text)] :=
    .group .nil (fun _ here => line.maximum.prefers_decimal
      (fun character isHead => stops character isHead ▸ rfl)
      (fun isHead => absurd (stops '.' isHead) (by decide)) here) rfl
  rw [List.append_nil] at last
  refine .literal (.group last.literal (fun outcome here => ?_) rfl)
  rw [List.append_assoc "/".toList] at here
  exact line.prefers_signed here

theorem RatingLine.readings_text (line : RatingLine) (ends : behind.head?.all (· == '\n') = true) :
    ∃ reading more, ratingPattern.expression.readings (line.text ++ behind) = reading :: more ∧
      ratingIn reading = some line.rating := by
  obtain ⟨later, prefers, -, remembers⟩ :=
    line.fit_text ends (standsIn_start none (line.text ++ behind)) rfl
  refine ⟨_, _, readings_of_prefers inLine_ratingPattern.needs prefers, ?_⟩
  have isAchieved := (remembers _ List.mem_cons_self).reading Nat.one_ne_zero 0
  have isMaximum :=
    (remembers _ (List.mem_cons_of_mem _ List.mem_cons_self)).reading (Nat.succ_ne_zero 1) 0
  exact ratingIn_eq isAchieved isMaximum (line.achieved.real?_text line.negative)
    (line.maximum.real?_text false)

/-! ## Whole reports -/

/-- The ratings in the lines of a list, and those behind it. -/
theorem readings_listing (diagnostics : List Diagnostic)
    (inLine : ∀ diagnostic ∈ diagnostics, '\n' ∉ (printed diagnostic).toList) (rest : List Char) :
    ratingPattern.expression.readings ((listing diagnostics).toList ++ rest) =
      (diagnostics.flatMap fun diagnostic =>
        ratingPattern.expression.readings (printed diagnostic).toList) ++
          ratingPattern.expression.readings rest := by
  induction diagnostics with
  | nil => rfl
  | cons diagnostic diagnostics induction =>
      obtain ⟨isInLine, areInLine⟩ := List.forall_mem_cons.mp inLine
      rw [toList_listing_cons, List.append_assoc, List.cons_append,
        inLine_ratingPattern.readings_line, induction areInLine, List.flatMap_cons,
        List.append_assoc]

/-- Diagnostics and a rating. The last line need not be ended. -/
def report (diagnostics : List Diagnostic) (last : RatingLine) (ended : Bool) : String :=
  listing diagnostics ++ (String.ofList last.text ++ if ended then "\n" else "")

theorem rating?_report (diagnostics : List Diagnostic)
    (inLine : ∀ diagnostic ∈ diagnostics, '\n' ∉ (printed diagnostic).toList) (last : RatingLine)
    (ended : Bool) :
    ∃ reading, ratingIn reading = some last.rating ∧
      rating? (report diagnostics last ended).toList =
        (((diagnostics.flatMap fun diagnostic =>
          ratingPattern.expression.readings (printed diagnostic).toList).head?).or
            (some reading)).bind ratingIn := by
  have ends : (if ended then "\n" else "").toList.head?.all (· == '\n') = true := by
    cases ended <;> rfl
  obtain ⟨reading, more, readings, isRating⟩ := last.readings_text ends
  refine ⟨reading, isRating, ?_⟩
  rw [rating?_eq, report, String.toList_append, String.toList_append, String.toList_ofList,
    readings_listing diagnostics inLine, readings, List.head?_append, List.head?_cons]

/-- A rating is read from the last line if and only if no diagnostic has one. -/
theorem rating_report_iff (diagnostics : List Diagnostic)
    (inLine : ∀ diagnostic ∈ diagnostics, '\n' ∉ (printed diagnostic).toList) :
    (∀ (last : RatingLine) (ended : Bool) (stderr : String),
      let result := read ⟨report diagnostics last ended, stderr⟩
      result.rating = some last.rating ∧
        (result.count, result.passed, result.failed) = counts last.rating) ↔
      ∀ diagnostic ∈ diagnostics, ¬ IsRated (printed diagnostic).toList := by
  constructor
  · intro all diagnostic member isRated
    have some : (diagnostics.flatMap fun diagnostic =>
        ratingPattern.expression.readings (printed diagnostic).toList) ≠ [] := fun nothing =>
      readings_eq_nil_iff_not_isRated.mp (List.flatMap_eq_nil_iff.mp nothing diagnostic member)
        isRated
    obtain ⟨first, others, isFirst⟩ := List.exists_cons_of_ne_nil some
    have isFixed : ∀ last : RatingLine, ratingIn first = Option.some last.rating := by
      intro last
      obtain ⟨reading, -, isRead⟩ := rating?_report diagnostics inLine last false
      rw [isFirst, List.head?_cons, Option.some_or, Option.bind_some] at isRead
      exact isRead.symm.trans (all last false "").1
    -- Two last lines that differ leave the same rating.
    have same := (isFixed ⟨false, .zero, .one⟩).symm.trans (isFixed ⟨false, .one, .one⟩)
    exact Numeral.zero_ne_one (congrArg Rating.achieved (Option.some.inj same))
  · intro unrated last ended stderr
    have nothing : (diagnostics.flatMap fun diagnostic =>
        ratingPattern.expression.readings (printed diagnostic).toList) = [] :=
      List.flatMap_eq_nil_iff.mpr fun diagnostic member =>
        readings_eq_nil_iff_not_isRated.mpr (unrated diagnostic member)
    obtain ⟨reading, isRating, isRead⟩ := rating?_report diagnostics inLine last ended
    rw [nothing, List.head?_nil, Option.none_or, Option.bind_some, isRating] at isRead
    have whole : (read ⟨report diagnostics last ended, stderr⟩) =
        resultOf (some last.rating) (PyLint.diagnostics (report diagnostics last ended).toList) :=
      congrArg (resultOf · _) isRead
    rw [whole]
    exact ⟨rfl, rfl⟩

theorem rating_report_forged :
    ¬ ∀ (last : RatingLine) (ended : Bool) (stderr : String),
      let result := read ⟨report [⟨"exercise.py", 1, "warning", "W0511", "fixme", none,
        "Your code has been rated at 10/10"⟩] last ended, stderr⟩
      result.rating = some last.rating ∧
        (result.count, result.passed, result.failed) = counts last.rating := by
  rw [rating_report_iff _ (by decide +kernel)]
  intro unrated
  have ten : IsDecimal "10".toList :=
    ⟨"10".toList, [], [], List.cons_ne_nil _ _, List.all_eq_true.mp (by decide), .inl rfl,
      List.forall_mem_nil _, rfl⟩
  refine unrated _ List.mem_cons_self ⟨"Your code has been rated at 10/10".toList, ?_, [],
    "10".toList, "10".toList, [], .inl rfl, ten, ten, by decide⟩
  exact ⟨"exercise.py:1:warning(W0511, fixme,) ".toList, by decide +kernel⟩

end Grading.Report.PyLint
