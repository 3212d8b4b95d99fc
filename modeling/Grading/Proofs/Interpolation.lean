import Grading.Proofs.Cuts
import Grading.Report.Summary

namespace Grading.Text

/-! Placeholders in a text are filled in all at once. A loop over the matches of a pattern, which
keeps the place behind the last one, comes to the same as the cut of the text. -/

variable {text rest name plain : List Char} {value? : List Char → Option (List Char)}

/-! ## Scans for matches -/

/-- A placeholder, with its name in the first group. -/
def placeholderPattern : Pattern :=
  Report.sequence [Report.literal "%", Report.literal "\x7b", .group 1 (Report.oneOrMore .word),
    Report.literal "\x7d"]

example : (Pattern.ofText "%\\\x7b(\\w+)\\\x7d").toOption.map Pattern.expression =
    some placeholderPattern.expression := by
  decide +kernel

/-- The text from a place on, with the values of the names in these matches for the matches. A match
without a name stays. -/
def fillMatches (value? : List Char → Option (List Char)) (text : List Char) :
    (last : Nat) → List Pattern.Match → Except (List Char) (List Char)
  | last, [] => .ok (text.drop last)
  | last, found :: others =>
      match found.group? text 1 with
      | none => fillMatches value? text last others
      | some name =>
          match value? name with
          | none => .error name
          | some value =>
              (fillMatches value? text found.behind.position others).map
                (Pattern.slice text last found.first ++ value ++ ·)

section

open Pattern Expression Attempt

variable {outcome later : Pattern.Attempt} {cursor : Cursor}

theorem productive_placeholderPattern : placeholderPattern.expression.IsProductive := by decide

theorem needs_placeholderPattern : placeholderPattern.expression.isNullable = false := by decide

theorem beginsPlaceholder_of_mem (member : later ∈ placeholderPattern.expression.outcomes outcome) :
    BeginsPlaceholder outcome.rest := by
  rcases (isMetBy_literal _).of_mem_cons member with ⟨_, _, rfl, percent, member⟩
  rcases (isMetBy_literal _).of_mem_cons member with ⟨_, _, rfl, opening, member⟩
  rcases (((isMetBy_one _).oneOrMore true).group 1).of_mem_cons member with
    ⟨name, _, ⟨filled, areWord⟩, isName, member⟩
  rcases (isMetBy_literal _).of_mem_cons member with ⟨_, place, rfl, closing, -⟩
  refine ⟨name, place.rest, ⟨filled, areWord⟩, ?_⟩
  rw [percent.rest, opening.rest, isName.rest, closing.rest, placeholder_append]
  rfl

theorem matchAt?_eq_none (isPlain : ¬BeginsPlaceholder cursor.rest) :
    placeholderPattern.expression.matchAt? cursor = none := by
  refine matchAt_eq_none_iff.mpr (List.eq_nil_iff_forall_not_mem.mpr fun later member => ?_)
  exact isPlain (beginsPlaceholder_of_mem member)

theorem IsName.fit (isName : IsName name) (behind : List Char) :
    Fit [Report.literal "%", Report.literal "\x7b", .group 1 (Report.oneOrMore .word),
      Report.literal "\x7d"] (placeholder name) behind [(1, name)] := by
  have closes : ∀ character ∈ ("\x7d".toList ++ [] ++ behind).head?,
      CharSet.word.contains character = false := by
    intro character isBrace
    cases isBrace
    decide
  exact .literal (.literal (.group (.literal .nil)
    (fun _ here => prefers_run_one isName.filled here isName.isWord closes) rfl))

/-- At a placeholder the match is that placeholder. -/
theorem IsName.exists_matchAt (isName : IsName name) (inside : cursor.IsIn text)
    (here : cursor.rest = placeholder name ++ rest) :
    ∃ found, placeholderPattern.expression.matchAt? cursor = some found ∧
      found.first = cursor.position ∧ found.behind.rest = rest ∧
      found.group? text 1 = some name := by
  have stands : (start cursor).StandsIn text := by
    refine ⟨text.take cursor.position, ?_, (List.length_take_of_le inside.1).symm⟩
    have isRest : (start cursor).rest = text.drop cursor.position := congrArg Cursor.rest inside.2
    rw [isRest, List.take_append_drop]
  rcases isName.fit rest stands here with ⟨later, prefers, ends, remembers⟩
  refine ⟨⟨cursor.position, later.cursor, later.marks⟩, ?_, rfl, ends, ?_⟩
  · rw [matchAt?, show placeholderPattern.expression = concatAll _ from rfl, prefers]
    rfl
  · exact (remembers (1, name) List.mem_cons_self).reading Nat.one_ne_zero cursor.position

theorem find?_of_plain (isPlain : Misses BeginsPlaceholder cursor.rest [])
    (inside : cursor.IsIn text) : placeholderPattern.program.find? cursor = none := by
  rcases cursor with ⟨before, run, position⟩
  have isAll : Cursor.IsIn text ⟨before, run ++ [], position⟩ := by rwa [List.append_nil]
  rcases matchFrom?_of_misses (fun _ => matchAt?_eq_none) isPlain isAll with ⟨other, -, later⟩
  have isSearch : placeholderPattern.program.find? ⟨before, run, position⟩ = _ :=
    Program.find?_ofExpression productive_placeholderPattern inside
  rw [List.append_nil, matchFrom?, matchAt?_eq_none] at later
  · exact isSearch.trans later
  · rintro ⟨name, rest, -, nothing⟩
    cases nothing

/-- A search finds the first placeholder. -/
theorem IsName.exists_find? (isName : IsName name) (inside : cursor.IsIn text)
    (misses : Misses BeginsPlaceholder plain (placeholder name ++ rest))
    (here : cursor.rest = plain ++ (placeholder name ++ rest)) :
    ∃ found, placeholderPattern.program.find? cursor = some found ∧ found.isEmpty = false ∧
      found.behind.IsIn text ∧ found.behind.rest = rest ∧
      Pattern.slice text cursor.position found.first = plain ∧
      found.group? text 1 = some name := by
  rcases cursor with ⟨before, run, position⟩
  cases here
  have isRest : plain ++ (placeholder name ++ rest) = text.drop position :=
    congrArg Cursor.rest inside.2
  rcases matchFrom?_of_misses (fun _ => matchAt?_eq_none) misses inside with
    ⟨other, further, later⟩
  rcases isName.exists_matchAt further rfl with ⟨found, isFound, first, ends, isGroup⟩
  rcases matchAt_isIn needs_placeholderPattern further isFound with ⟨behind, filled⟩
  have isSearch : placeholderPattern.program.find? _ = _ :=
    Program.find?_ofExpression productive_placeholderPattern inside
  refine ⟨found, isSearch.trans (later.trans ?_), filled, behind, ends, ?_, isGroup⟩
  · rw [placeholder_append] at isFound ⊢
    rw [matchFrom?, isFound, Option.some_or]
  · rw [first, Pattern.slice, ← isRest, Nat.add_sub_cancel_left, List.take_left]

/-- Filling in what all searches find is filling in the text. -/
theorem fillMatches_findAllWithin (value? : List Char → Option (List Char)) {fuel : Nat}
    (cursor : Cursor) {cut : Cut} (isOf : cut.IsOf cursor.rest) (inside : cursor.IsIn text)
    (lastEnd : Option Nat) (enough : cursor.rest.length < fuel) :
    fillMatches value? text cursor.position
        (placeholderPattern.program.findAllWithin fuel cursor lastEnd) =
      interpolate value? cursor.rest := by
  -- One placeholder a round: the cursor stands behind the last match, where the loop has to copy
  -- from, so that the same is to be shown of the text behind it.
  rcases cut with ⟨parts, last⟩
  induction parts generalizing cursor fuel lastEnd with
  | nil =>
      have isLast : last = cursor.rest := isOf.whole
      have isRest : cursor.rest = text.drop cursor.position := congrArg Cursor.rest inside.2
      have misses : Misses BeginsPlaceholder cursor.rest [] :=
        isLast ▸ isOf.isLast.misses (.inl rfl)
      have isFilled := interpolate_misses value? misses
      rw [List.append_nil, interpolate] at isFilled
      rw [isFilled]
      cases fuel with
      | zero => cases enough
      | succ fuel =>
          rw [Program.findAllWithin, find?_of_plain misses inside, fillMatches, ← isRest]
          exact congrArg Except.ok (List.append_nil _).symm
  | cons part parts induction =>
      have here : cursor.rest = part.1 ++ (placeholder part.2 ++ Cut.joined ⟨parts, last⟩) :=
        isOf.whole.symm.trans (Cut.joined_cons part parts last)
      have isName := isOf.isName part List.mem_cons_self
      rcases isName.exists_find? inside isOf.misses here with
        ⟨found, isFound, filled, behind, ends, isSlice, isGroup⟩
      rw [here, interpolate_misses value? isOf.misses, interpolate_placeholder value? isName]
      cases fuel with
      | zero => cases enough
      | succ fuel =>
          have shorter : found.behind.rest.length < fuel := by
            rw [here, ← ends, List.length_append, List.length_append, placeholder,
              List.length_cons] at enough
            omega
          have later := induction found.behind behind (some found.behind.position) shorter
            (ends.symm ▸ isOf.tail)
          rw [Program.findAllWithin, isFound]
          simp only [filled, Bool.false_and, Bool.false_eq_true, if_false, fillMatches, isGroup,
            isSlice]
          cases value? part.2 with
          | none => rfl
          | some value =>
              simp only [later, ends]
              cases interpolate value? (Cut.joined ⟨parts, last⟩) with
              | error name => rfl
              | ok filled => exact congrArg Except.ok (List.append_assoc _ _ _)

/-- Going through the matches of a pattern comes to the same as filling in. -/
theorem fillMatches_findAll (value? : List Char → Option (List Char)) (text : List Char) :
    fillMatches value? text 0 (placeholderPattern.findAll text) = interpolate value? text := by
  rcases Cut.IsOf.exists_of text with ⟨cut, isOf⟩
  refine fillMatches_findAllWithin value? (.start text) isOf (Cursor.isIn_start text) none ?_
  change text.length < _
  omega

end

/-- What filling in the placeholders of a text comes to. -/
structure FillsInOnce (value? : List Char → Option (List Char)) (text : List Char) : Prop where
  scans : fillMatches value? text 0 (placeholderPattern.findAll text) = interpolate value? text
  fails_iff : (∃ name, interpolate value? text = .error name) ↔
    ∃ name, IsName name ∧ value? name = none ∧ placeholder name <:+: text
  error_iff : ∀ name, interpolate value? text = .error name ↔ IsFirstWithout value? text name
  /-- There is one way to cut the text at its placeholders. -/
  cut : ∃! cut : Cut, cut.IsOf text
  /-- It is cut at each of them. -/
  part : ∀ (cut : Cut) (before name after : List Char), cut.IsOf text → IsName name →
    text = before ++ placeholder name ++ after →
      ∃ early plain late, cut.parts = early ++ (plain, name) :: late ∧
        before = Cut.joined ⟨early, plain⟩ ∧ after = Cut.joined ⟨late, cut.last⟩
  /-- What is plain stays, and values are not looked at again. -/
  filled : ∀ (cut : Cut) (value : List Char → List Char), cut.IsOf text →
    (∀ name ∈ cut.names, value? name = some (value name)) →
      interpolate value? text = .ok (cut.filled value)

theorem fillsInOnce (value? : List Char → Option (List Char)) (text : List Char) :
    FillsInOnce value? text where
  scans := fillMatches_findAll value? text
  fails_iff := exists_error_iff
  error_iff _ := interpolate_eq_error_iff
  cut := by
    rcases Cut.IsOf.exists_of text with ⟨cut, isOf⟩
    exact ⟨cut, isOf, fun other isOther => isOther.unique isOf⟩
  part cut before name after isOf isName whole := isOf.exists_part isName whole
  filled cut value isOf areValues := by
    have none : (cut.names.find? fun name => (value? name).isNone) = none := by
      refine List.find?_eq_none.mpr fun name member => ?_
      rw [areValues name member]
      exact Bool.false_ne_true
    rw [isOf.interpolate_eq value?, none]
    refine congrArg Except.ok (Cut.filled_congr fun name member => ?_)
    rw [areValues name member, Option.getD_some]

end Grading.Text
