import Mathlib.Data.List.TakeWhile
import Grading.Proofs.Capture
import Grading.Text.Interpolation

namespace Grading.Text

open Pattern (Misses misses_cons misses_of_not_mem exists_misses)

/-! Placeholders in a text. There is one way to cut a text at its placeholders; if all of them have
a value they give way to it, and what is between them stays. Otherwise the first one without is the
error. -/

variable {text rest after name other plain : List Char} {character : Char}
  {value? : List Char → Option (List Char)}

/-! ## Placeholders -/

def placeholder (name : List Char) : List Char := '%' :: '\x7b' :: (name ++ ['\x7d'])

theorem placeholder_append (name rest : List Char) :
    placeholder name ++ rest = '%' :: '\x7b' :: (name ++ '\x7d' :: rest) := by
  simp [placeholder]

/-- What can stand between the braces of a placeholder. -/
structure IsName (name : List Char) : Prop where
  filled : name ≠ []
  isWord : ∀ character ∈ name, isWordCharacter character = true

def BeginsPlaceholder (text : List Char) : Prop :=
  ∃ name rest, IsName name ∧ text = placeholder name ++ rest

theorem isName_of_placeholder? (found : placeholder? text = some (name, rest)) :
    IsName name ∧ text = name ++ '\x7d' :: rest := by
  have whole := List.takeWhile_append_dropWhile (p := isWordCharacter) (l := text)
  unfold placeholder? at found
  split at found
  · rename_i first others behind front back
    cases found
    have isWord : ∀ character ∈ text.takeWhile isWordCharacter,
        isWordCharacter character = true := fun _ => List.mem_takeWhile_imp
    rw [front] at isWord whole
    rw [back] at whole
    exact ⟨⟨List.cons_ne_nil _ _, isWord⟩, whole.symm⟩
  · cases found

namespace IsName

theorem placeholder?_append (isName : IsName name) (rest : List Char) :
    placeholder? (name ++ '\x7d' :: rest) = some (name, rest) := by
  rcases List.exists_cons_of_ne_nil isName.filled with ⟨first, others, rfl⟩
  have closes : ¬isWordCharacter '\x7d' = true := by decide
  rw [placeholder?, List.takeWhile_append_of_pos isName.isWord,
    List.dropWhile_append_of_pos isName.isWord, List.takeWhile_cons_of_neg closes,
    List.dropWhile_cons_of_neg closes, List.append_nil]
  rfl

/-- Of a text that begins with a placeholder, the name and the rest are known. -/
theorem placeholder_inj (isName : IsName name) (isOther : IsName other)
    (same : placeholder name ++ rest = placeholder other ++ after) :
    name = other ∧ rest = after := by
  rw [placeholder_append, placeholder_append, List.cons.injEq, List.cons.injEq] at same
  have found := isName.placeholder?_append rest
  rw [same.2.2, isOther.placeholder?_append after] at found
  cases found
  exact ⟨rfl, rfl⟩

theorem percent_not_mem_tail (isName : IsName name) : '%' ∉ (placeholder name).tail := by
  have notWord : ¬isWordCharacter '%' = true := by decide
  intro member
  rcases List.mem_cons.mp member with brace | member
  · exact absurd brace (by decide)
  · rcases List.mem_append.mp member with inName | brace
    · exact notWord (isName.isWord _ inName)
    · exact absurd (List.mem_singleton.mp brace) (by decide)

/-- Within a placeholder no other one begins. -/
theorem misses_tail (isName : IsName name) (rest : List Char) :
    Misses BeginsPlaceholder (placeholder name).tail rest := by
  apply misses_of_not_mem isName.percent_not_mem_tail
  intro text begins
  rcases begins with ⟨name, rest, -, rfl⟩
  rfl

end IsName

/-! ## Filling in -/

theorem interpolate_placeholder (value? : List Char → Option (List Char)) (isName : IsName name)
    (rest : List Char) :
    interpolate value? (placeholder name ++ rest) =
      match value? name with
      | none => .error name
      | some value => (interpolate value? rest).map (value ++ ·) := by
  have found := isName.placeholder?_append rest
  rw [placeholder_append, interpolate]
  split
  · rename_i foundOther
    cases found.symm.trans foundOther
    rfl
  · rename_i missing
    cases found.symm.trans missing

theorem interpolate_cons (value? : List Char → Option (List Char))
    (isPlain : ¬BeginsPlaceholder (character :: rest)) :
    interpolate value? (character :: rest) = (interpolate value? rest).map (character :: ·) := by
  rw [interpolate.eq_def]
  split
  · rename_i nothing
    cases nothing
  · rename_i behind isText
    cases isText
    split
    · rename_i name after found
      rcases isName_of_placeholder? found with ⟨isName, rfl⟩
      exact absurd ⟨name, after, isName, (placeholder_append name after).symm⟩ isPlain
    · rfl
  · rename_i isText
    cases isText
    rfl

/-- Text in which no placeholder begins stays. -/
theorem interpolate_misses (value? : List Char → Option (List Char))
    (misses : Misses BeginsPlaceholder plain rest) :
    interpolate value? (plain ++ rest) = (interpolate value? rest).map (plain ++ ·) := by
  induction plain with
  | nil => cases isRest : interpolate value? rest <;> rw [List.nil_append, isRest] <;> rfl
  | cons character plain induction =>
      rcases misses_cons.mp misses with ⟨isPlain, later⟩
      rw [List.cons_append] at isPlain ⊢
      rw [interpolate_cons value? isPlain, induction later]
      cases interpolate value? rest <;> rfl

/-! ## Cuts -/

/-- The pieces of a text: the plain text before each placeholder with its name, and the plain text
behind the last one. -/
structure Cut where
  parts : List (List Char × List Char)
  last : List Char

namespace Cut

def joined (cut : Cut) : List Char :=
  cut.parts.flatMap (fun part => part.1 ++ placeholder part.2) ++ cut.last

def names (cut : Cut) : List (List Char) := cut.parts.map Prod.snd

def filled (cut : Cut) (value : List Char → List Char) : List Char :=
  cut.parts.flatMap (fun part => part.1 ++ value part.2) ++ cut.last

end Cut

def IsPlain (text : List Char) : Prop := ∀ name, IsName name → ¬placeholder name <:+: text

/-- The pieces make up the text, and there is no placeholder in what is plain. -/
structure Cut.IsOf (cut : Cut) (text : List Char) : Prop where
  whole : cut.joined = text
  isName : ∀ part ∈ cut.parts, IsName part.2
  isPlain : ∀ part ∈ cut.parts, IsPlain part.1
  isLast : IsPlain cut.last

theorem isPlain_of_misses (misses : Misses BeginsPlaceholder plain rest) : IsPlain plain := by
  intro name isName isInfix
  rcases isInfix with ⟨early, late, rfl⟩
  refine misses early (placeholder name ++ late) (by rw [List.append_assoc]) ?_
    ⟨name, late ++ rest, isName, by rw [List.append_assoc]⟩
  exact List.cons_ne_nil _ _

/-- No placeholder begins in plain text and ends behind it, unless what is behind goes on with
something other than a placeholder. -/
theorem IsPlain.misses (isPlain : IsPlain plain) (ends : rest = [] ∨ BeginsPlaceholder rest) :
    Misses BeginsPlaceholder plain rest := by
  intro early late whole filled begins
  rcases begins with ⟨name, after, isName, same⟩
  have notIn : ¬placeholder name <:+: late := fun isInfix =>
    isPlain name isName (whole ▸ isInfix.trans (List.suffix_append early late).isInfix)
  rcases List.append_eq_append_iff.mp same with ⟨more, isName', isRest⟩ | ⟨more, isLate, -⟩
  · rcases more with _ | ⟨head, more⟩
    · rw [List.append_nil] at isName'
      exact notIn (isName' ▸ List.infix_rfl)
    · have isHead : head = '%' := by
        rcases ends with nothing | ⟨_, _, -, isPlaceholder⟩
        · rw [nothing] at isRest
          cases isRest
        · rw [isPlaceholder] at isRest
          exact (List.cons.inj isRest).1.symm
      rcases List.exists_cons_of_ne_nil filled with ⟨first, late, rfl⟩
      apply isName.percent_not_mem_tail
      rw [isName', List.cons_append, List.tail_cons, isHead]
      exact List.mem_append_right late List.mem_cons_self
  · exact notIn (isLate ▸ (List.prefix_append _ more).isInfix)

/-- What is asked for begins behind a run that misses it. -/
theorem exists_behind_of_misses {asked : List Char → Prop} {run before late : List Char}
    (misses : Misses asked run rest) (isAsked : asked late) (same : run ++ rest = before ++ late) :
    ∃ more, before = run ++ more ∧ rest = more ++ late := by
  rcases List.append_eq_append_iff.mp same with ⟨more, isBefore, isRest⟩ | ⟨more, isRun, isLate⟩
  · exact ⟨more, isBefore, isRest⟩
  · rcases more with _ | ⟨head, more⟩
    · exact ⟨[], by rw [isRun, List.append_nil, List.append_nil], isLate.symm⟩
    · exact absurd (isLate ▸ isAsked) (misses before _ isRun (List.cons_ne_nil _ _))

namespace Cut

variable {cut : Cut} {parts : List (List Char × List Char)} {part : List Char × List Char}
  {last before : List Char}

theorem joined_cons (part : List Char × List Char) (parts : List (List Char × List Char))
    (last : List Char) :
    joined ⟨part :: parts, last⟩ = part.1 ++ (placeholder part.2 ++ joined ⟨parts, last⟩) := by
  simp [joined]

theorem joined_append (early : List (List Char × List Char)) (part : List Char × List Char)
    (late : List (List Char × List Char)) (last : List Char) :
    joined ⟨early ++ part :: late, last⟩ =
      joined ⟨early, part.1⟩ ++ placeholder part.2 ++ joined ⟨late, last⟩ := by
  simp [joined]

theorem filled_cons (part : List Char × List Char) (parts : List (List Char × List Char))
    (last : List Char) (value : List Char → List Char) :
    filled ⟨part :: parts, last⟩ value =
      part.1 ++ (value part.2 ++ filled ⟨parts, last⟩ value) := by
  simp [filled]

theorem filled_congr {value other : List Char → List Char}
    (same : ∀ name ∈ cut.names, value name = other name) : cut.filled value = cut.filled other := by
  refine congrArg (· ++ cut.last) (List.flatMap_congr fun part member => ?_)
  rw [same part.2 (List.mem_map_of_mem member)]

namespace IsOf

theorem tail (isOf : IsOf ⟨part :: parts, last⟩ text) :
    IsOf ⟨parts, last⟩ (joined ⟨parts, last⟩) where
  whole := rfl
  isName other member := isOf.isName other (List.mem_cons_of_mem part member)
  isPlain other member := isOf.isPlain other (List.mem_cons_of_mem part member)
  isLast := isOf.isLast

theorem begins (isOf : IsOf ⟨part :: parts, last⟩ text) :
    BeginsPlaceholder (placeholder part.2 ++ joined ⟨parts, last⟩) :=
  ⟨part.2, _, isOf.isName part List.mem_cons_self, rfl⟩

theorem misses (isOf : IsOf ⟨part :: parts, last⟩ text) :
    Misses BeginsPlaceholder part.1 (placeholder part.2 ++ joined ⟨parts, last⟩) :=
  (isOf.isPlain part List.mem_cons_self).misses (.inr isOf.begins)

/-- Without a value for all of the names the first one that has none is the error. -/
theorem interpolate_eq (value? : List Char → Option (List Char)) (isOf : cut.IsOf text) :
    interpolate value? text =
      match cut.names.find? fun name => (value? name).isNone with
      | some name => .error name
      | none => .ok (cut.filled fun name => (value? name).getD []) := by
  rcases cut with ⟨parts, last⟩
  induction parts generalizing text with
  | nil =>
      have isText : text = last ++ [] := by rw [List.append_nil, ← isOf.whole]; rfl
      rw [isText, interpolate_misses value? (isOf.isLast.misses (.inl rfl)), interpolate]
      exact congrArg Except.ok (List.append_nil last)
  | cons part parts induction =>
      rw [← isOf.whole, joined_cons, interpolate_misses value? isOf.misses,
        interpolate_placeholder value? (isOf.isName part List.mem_cons_self), filled_cons,
        names, List.map_cons]
      cases isValue : value? part.2 with
      | none =>
          rw [List.find?_cons_of_pos (by rw [isValue]; rfl)]
          rfl
      | some value =>
          rw [List.find?_cons_of_neg (by rw [isValue]; exact Bool.false_ne_true)]
          simp only [induction isOf.tail, names]
          split <;> rfl

example : interpolate (fun name => if name = ['a'] then some "%\x7ba\x7d".toList else none)
    "%\x7b%\x7ba\x7d%\x7b\x7d".toList = .ok "%\x7b%\x7ba\x7d%\x7b\x7d".toList := by
  decide +kernel

theorem exists_of (text : List Char) : ∃ cut : Cut, cut.IsOf text := by
  induction size : text.length using Nat.strongRecOn generalizing text with
  | ind length induction =>
      by_cases isPlain : IsPlain text
      · exact ⟨⟨[], text⟩, rfl, List.forall_mem_nil _, List.forall_mem_nil _, isPlain⟩
      · rw [IsPlain] at isPlain
        push Not at isPlain
        rcases isPlain with ⟨name, isName, front, back, rfl⟩
        have begins : BeginsPlaceholder (placeholder name ++ back) := ⟨name, back, isName, rfl⟩
        rcases exists_misses BeginsPlaceholder front begins with ⟨early, late, rfl, isFirst, misses⟩
        rcases isFirst with ⟨first, rest, isNameToo, isLate⟩
        have whole : early ++ late ++ placeholder name ++ back =
            early ++ (placeholder first ++ rest) := by
          rw [← isLate]
          simp
        have shorter : rest.length < length := by
          rw [← size, whole, List.length_append, List.length_append, placeholder, List.length_cons]
          omega
        rcases induction rest.length shorter rest rfl with ⟨⟨parts, last⟩, isOf⟩
        refine ⟨⟨(early, first) :: parts, last⟩, ?_, ?_, ?_, isOf.isLast⟩
        · exact (joined_cons (early, first) parts last).trans (by rw [isOf.whole, whole])
        · exact List.forall_mem_cons.mpr ⟨isNameToo, isOf.isName⟩
        · exact List.forall_mem_cons.mpr ⟨isPlain_of_misses misses, isOf.isPlain⟩

theorem not_isPlain (isOf : IsOf ⟨part :: parts, last⟩ text) : ¬IsPlain text := by
  intro isPlain
  refine isPlain part.2 (isOf.isName part List.mem_cons_self) ⟨part.1, joined ⟨parts, last⟩, ?_⟩
  rw [← isOf.whole, joined_cons, List.append_assoc]

/-- A text can be cut in one way only. -/
theorem unique {others : Cut} (isOf : cut.IsOf text) (isOther : others.IsOf text) :
    cut = others := by
  rcases cut with ⟨parts, last⟩
  rcases others with ⟨otherParts, otherLast⟩
  induction parts generalizing text otherParts with
  | nil =>
      have isText : text = last := isOf.whole.symm
      cases otherParts with
      | nil => rw [← isOther.whole] at isText; exact congrArg (Cut.mk []) isText.symm
      | cons => exact absurd (isText ▸ isOf.isLast) isOther.not_isPlain
  | cons part parts induction =>
      cases otherParts with
      | nil =>
          have isText : text = otherLast := isOther.whole.symm
          exact absurd (isText ▸ isOther.isLast) isOf.not_isPlain
      | cons other otherParts =>
          have same := isOf.whole.trans isOther.whole.symm
          rw [joined_cons, joined_cons] at same
          rcases exists_behind_of_misses isOf.misses isOther.begins same with
            ⟨more, isPlain, isRest⟩
          rcases exists_behind_of_misses isOther.misses isOf.begins same.symm with
            ⟨others, isPlainToo, -⟩
          have nothing : more = [] := by
            have length := congrArg List.length isPlain
            rw [isPlainToo, List.length_append, List.length_append] at length
            exact List.eq_nil_of_length_eq_zero (by omega)
          rw [nothing, List.append_nil] at isPlain
          rw [nothing, List.nil_append] at isRest
          rcases (isOf.isName part List.mem_cons_self).placeholder_inj
            (isOther.isName other List.mem_cons_self) isRest with ⟨sameName, sameRest⟩
          have sameLater := induction isOf.tail otherParts (sameRest ▸ isOther.tail)
          cases sameLater
          rw [Prod.ext isPlain.symm sameName]

/-- Every placeholder in the text is one of those at which it is cut. -/
theorem exists_part (isOf : cut.IsOf text) (isName : IsName name)
    (isText : text = before ++ placeholder name ++ after) :
    ∃ early plain late, cut.parts = early ++ (plain, name) :: late ∧
      before = joined ⟨early, plain⟩ ∧ after = joined ⟨late, cut.last⟩ := by
  rcases cut with ⟨parts, last⟩
  have begins : BeginsPlaceholder (placeholder name ++ after) := ⟨name, after, isName, rfl⟩
  induction parts generalizing text before with
  | nil =>
      have isLast : last = text := isOf.whole
      exact absurd ⟨before, after, (isLast.trans isText).symm⟩ (isOf.isLast name isName)
  | cons part parts induction =>
      have isPart := isOf.isName part List.mem_cons_self
      have same := isOf.whole.trans isText
      rw [joined_cons, List.append_assoc] at same
      -- The placeholder begins where the first one of the cut does, or behind that one.
      rcases exists_behind_of_misses isOf.misses begins same with ⟨more, rfl, isRest⟩
      rcases more with _ | ⟨head, more⟩
      · rcases isPart.placeholder_inj isName isRest with ⟨sameName, sameRest⟩
        refine ⟨[], part.1, parts, ?_, List.append_nil _, sameRest.symm⟩
        rw [List.nil_append, ← sameName]
      · have inner : (placeholder part.2).tail ++ joined ⟨parts, last⟩ =
            more ++ (placeholder name ++ after) := (List.cons.inj isRest).2
        rcases exists_behind_of_misses (isPart.misses_tail _) begins inner with
          ⟨late, rfl, isJoined⟩
        rw [← List.append_assoc] at isJoined
        rcases induction isJoined isOf.tail with ⟨early, plain, later, isParts, isLate, isAfter⟩
        have isHead : '%' = head := (List.cons.inj isRest).1
        refine ⟨part :: early, plain, later, ?_, ?_, isAfter⟩
        · exact congrArg (part :: ·) isParts
        · rw [joined_cons, ← isLate, ← isHead]
          rfl

theorem early {early late : List (List Char × List Char)}
    (isOf : IsOf ⟨early ++ part :: late, last⟩ text) :
    IsOf ⟨early, part.1⟩ (joined ⟨early, part.1⟩) where
  whole := rfl
  isName other member := isOf.isName other (List.mem_append_left _ member)
  isPlain other member := isOf.isPlain other (List.mem_append_left _ member)
  isLast := isOf.isPlain part (List.mem_append_right early List.mem_cons_self)

theorem mem_names_iff (isOf : cut.IsOf text) (isName : IsName name) :
    name ∈ cut.names ↔ placeholder name <:+: text := by
  constructor
  · intro member
    rcases List.mem_map.mp member with ⟨part, isPart, rfl⟩
    rcases List.append_of_mem isPart with ⟨early, late, isParts⟩
    rcases cut with ⟨_, last⟩
    cases isParts
    exact ⟨_, _, (joined_append early part late last).symm.trans isOf.whole⟩
  · intro isInfix
    rcases isInfix with ⟨before, after, whole⟩
    rcases isOf.exists_part isName whole.symm with ⟨early, plain, late, isParts, -, -⟩
    rw [names, isParts, List.map_append, List.map_cons]
    exact List.mem_append_right _ List.mem_cons_self

end IsOf

end Cut

/-! ## Errors -/

/-- The name is that of the first placeholder without a value. -/
def IsFirstWithout (value? : List Char → Option (List Char)) (text name : List Char) : Prop :=
  ∃ before after, text = before ++ placeholder name ++ after ∧ IsName name ∧ value? name = none ∧
    ∀ other, IsName other → value? other = none → ¬placeholder other <:+: before

theorem Cut.IsOf.find?_names_iff {cut : Cut} (isOf : cut.IsOf text) :
    (cut.names.find? fun name => (value? name).isNone) = some name ↔
      IsFirstWithout value? text name := by
  rcases cut with ⟨parts, last⟩
  rw [List.find?_eq_some_iff_append]
  constructor
  · rintro ⟨lacks, names, _, isNames, others⟩
    rcases List.map_eq_append_iff.mp isNames with ⟨early, _, rfl, rfl, isLate⟩
    rcases List.map_eq_cons_iff.mp isLate with ⟨part, late, rfl, rfl, -⟩
    refine ⟨joined ⟨early, part.1⟩, joined ⟨late, last⟩, ?_, ?_, Option.isNone_iff_eq_none.mp lacks,
      ?_⟩
    · exact isOf.whole.symm.trans (joined_append early part late last)
    · exact isOf.isName part (List.mem_append_right early List.mem_cons_self)
    · intro other isOther lacksToo isInfix
      have isFilled := others other ((isOf.early.mem_names_iff isOther).mpr isInfix)
      rw [lacksToo] at isFilled
      cases isFilled
  · rintro ⟨before, after, whole, isName, lacks, others⟩
    rcases isOf.exists_part isName whole with ⟨early, plain, late, isParts, rfl, -⟩
    cases isParts
    refine ⟨Option.isNone_iff_eq_none.mpr lacks, early.map Prod.snd, late.map Prod.snd,
      List.map_append, fun other member => ?_⟩
    have isOther : IsName other := by
      rcases List.mem_map.mp member with ⟨part, isPart, rfl⟩
      exact isOf.early.isName part isPart
    rw [Bool.not_eq_true', Option.isNone_eq_false_iff, Option.isSome_iff_ne_none]
    exact fun lacksToo =>
      others other isOther lacksToo ((isOf.early.mem_names_iff isOther).mp member)

theorem interpolate_eq_error_iff :
    interpolate value? text = .error name ↔ IsFirstWithout value? text name := by
  rcases Cut.IsOf.exists_of text with ⟨cut, isOf⟩
  rw [isOf.interpolate_eq value?, ← isOf.find?_names_iff]
  cases cut.names.find? fun name => (value? name).isNone <;> simp

theorem exists_error_iff : (∃ name, interpolate value? text = .error name) ↔
    ∃ name, IsName name ∧ value? name = none ∧ placeholder name <:+: text := by
  rcases Cut.IsOf.exists_of text with ⟨cut, isOf⟩
  constructor
  · intro fails
    rcases fails with ⟨name, fails⟩
    rcases interpolate_eq_error_iff.mp fails with ⟨before, after, whole, isName, lacks, -⟩
    exact ⟨name, isName, lacks, before, after, whole.symm⟩
  · intro lacking
    rcases lacking with ⟨name, isName, lacks, isInfix⟩
    have some : (cut.names.find? fun name => (value? name).isNone).isSome :=
      List.find?_isSome.mpr ⟨name, (isOf.mem_names_iff isName).mpr isInfix,
        Option.isNone_iff_eq_none.mpr lacks⟩
    rcases Option.isSome_iff_exists.mp some with ⟨first, isFirst⟩
    exact ⟨first, interpolate_eq_error_iff.mpr (isOf.find?_names_iff.mp isFirst)⟩

end Grading.Text
