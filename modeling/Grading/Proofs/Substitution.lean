import Grading.Command
import Mathlib.Data.List.Infix

namespace Grading

/-! Texts replaced one after another, against texts replaced all at once. The two agree as far as no
occurrence of a later target reaches over the edge of what an earlier step put in; then what was put
in is searched by itself. -/

namespace Text

structure Replacement where
  target : List Char
  value : List Char
  filled : target ≠ []

variable {replacements : List Replacement} {replacement : Replacement}
  {target value front back text : List Char}

/-! ## One pass -/

/-- The first of the replacements whose target the text begins with. -/
def fitting? (replacements : List Replacement) (text : List Char) : Option Replacement :=
  replacements.find? fun replacement => replacement.target.isPrefixOf text

/-- Whatever of the text is a target gives way to its value, in one pass from the left. What is put
in is not looked at again. -/
def substitute (replacements : List Replacement) : List Char → List Char
  | [] => []
  | character :: rest =>
      match fitting? replacements (character :: rest) with
      | some replacement =>
          replacement.value ++ substitute replacements (rest.drop (replacement.target.length - 1))
      | none => character :: substitute replacements rest
termination_by text => text.length
decreasing_by
  · simp only [List.length_drop, List.length_cons]
    omega
  · simp

theorem fits_of_fitting? (fits : fitting? replacements text = some replacement) :
    replacement.target <+: text :=
  List.isPrefixOf_iff_prefix.mp
    (List.find?_some (p := fun (other : Replacement) => other.target.isPrefixOf text) fits)

theorem fitting?_cons_of_fits (isPrefix : replacement.target <+: text) :
    fitting? (replacement :: replacements) text = some replacement := by
  rw [fitting?, List.find?_cons_of_pos]
  exact List.isPrefixOf_iff_prefix.mpr isPrefix

theorem fitting?_cons_of_misfit (replacements : List Replacement)
    (notPrefix : ¬replacement.target <+: text) :
    fitting? (replacement :: replacements) text = fitting? replacements text := by
  rw [fitting?, List.find?_cons_of_neg, fitting?]
  exact fun isPrefix => notPrefix (List.isPrefixOf_iff_prefix.mp isPrefix)

theorem substitute_of_fits (rest : List Char)
    (fits : fitting? replacements (replacement.target ++ rest) = some replacement) :
    substitute replacements (replacement.target ++ rest) =
      replacement.value ++ substitute replacements rest := by
  obtain ⟨first, others, isTarget⟩ := List.exists_cons_of_ne_nil replacement.filled
  rw [isTarget, List.cons_append] at fits ⊢
  rw [substitute, fits]
  simp [isTarget]

theorem substitute_of_unfit {character : Char} {rest : List Char}
    (unfit : fitting? replacements (character :: rest) = none) :
    substitute replacements (character :: rest) = character :: substitute replacements rest := by
  rw [substitute, unfit]

theorem substitute_target (replacement : Replacement)
    (fits : fitting? replacements replacement.target = some replacement) :
    substitute replacements replacement.target = replacement.value := by
  have whole := substitute_of_fits [] (by rwa [List.append_nil])
  rwa [List.append_nil, substitute, List.append_nil] at whole

theorem substitute_nil (text : List Char) : substitute [] text = text := by
  induction text with
  | nil => rw [substitute]
  | cons character rest induction => rw [substitute_of_unfit rfl, induction]

/-- What does not occur need not be replaced. -/
theorem substitute_cons_of_absent (replacement : Replacement)
    (absent : ¬replacement.target <:+: text) :
    substitute (replacement :: replacements) text = substitute replacements text := by
  induction text using substitute.induct replacements with
  | case1 => rw [substitute, substitute]
  | case2 character rest other fits induction =>
      have same := fitting?_cons_of_misfit replacements
        fun isPrefix => absent isPrefix.isInfix
      rw [fits] at same
      rw [substitute, substitute, same, fits]
      dsimp only
      rw [induction fun isInfix => absent
        (isInfix.trans ((List.drop_suffix _ rest).trans (List.suffix_cons character rest)).isInfix)]
  | case3 character rest unfit induction =>
      have same := fitting?_cons_of_misfit replacements
        fun isPrefix => absent isPrefix.isInfix
      rw [unfit] at same
      rw [substitute_of_unfit same, substitute_of_unfit unfit,
        induction fun isInfix => absent (isInfix.trans (List.suffix_cons character rest).isInfix)]

theorem substitute_of_absent
    (absent : ∀ replacement ∈ replacements, ¬replacement.target <:+: text) :
    substitute replacements text = text := by
  induction replacements with
  | nil => exact substitute_nil text
  | cons replacement others induction =>
      rw [substitute_cons_of_absent replacement (absent replacement List.mem_cons_self)]
      exact induction fun other member => absent other (List.mem_cons_of_mem _ member)

theorem replaceAll_eq_substitute (replacement : Replacement) (text : List Char) :
    replaceAll replacement.target replacement.value text = substitute [replacement] text := by
  induction text using replaceAll.induct replacement.target with
  | case1 => rw [replaceAll, substitute]
  | case2 character rest after found isEmpty => exact absurd isEmpty replacement.filled
  | case3 character rest after found isFilled induction =>
      have whole := afterOpening?_eq_some_iff.mp found
      have fits : fitting? [replacement] (replacement.target ++ after) = some replacement :=
        fitting?_cons_of_fits (List.prefix_append _ _)
      rw [replaceAll]
      split
      · next other found' =>
          obtain rfl : after = other := Option.some.inj (found.symm.trans found')
          rw [dif_neg isFilled, induction, whole, substitute_of_fits after fits]
      · next missing => cases found.symm.trans missing
  | case4 character rest missing induction =>
      have unfit : fitting? [replacement] (character :: rest) = none :=
        fitting?_cons_of_misfit [] fun ⟨after, whole⟩ =>
          nomatch missing.symm.trans (afterOpening?_eq_some_iff.mpr whole.symm)
      rw [replaceAll, substitute_of_unfit unfit]
      split
      · next found => cases missing.symm.trans found
      · rw [induction]

/-! ## Edges -/

/-- No occurrence of the target begins in front and ends behind it. -/
def Divides (target front back : List Char) : Prop :=
  ∀ before after, front ++ back = before ++ target ++ after →
    before.length + target.length ≤ front.length ∨ front.length ≤ before.length

theorem Divides.drop (dropped : List Char) (divides : Divides target (dropped ++ front) back) :
    Divides target front back := by
  intro before after whole
  have edges := divides (dropped ++ before) after (by simp [whole])
  simp only [List.length_append] at edges
  omega

theorem Divides.isPrefix_iff (divides : Divides target front back) (filled : front ≠ []) :
    target <+: front ++ back ↔ target <+: front := by
  constructor
  · rintro ⟨after, whole⟩
    have edges := divides [] after (by rw [List.nil_append, whole])
    have shorter : target.length ≤ front.length := by
      have positive := List.length_pos_iff.mpr filled
      simp only [List.length_nil] at edges
      omega
    exact List.prefix_of_prefix_length_le ⟨after, whole⟩ (List.prefix_append front back) shorter
  · exact fun isPrefix => isPrefix.trans (List.prefix_append front back)

theorem fitting?_append (divides : ∀ replacement ∈ replacements,
    Divides replacement.target front back) (filled : front ≠ []) :
    fitting? replacements (front ++ back) = fitting? replacements front := by
  induction replacements with
  | nil => rfl
  | cons replacement others induction =>
      have later := induction fun other member => divides other (List.mem_cons_of_mem _ member)
      have same := (divides replacement List.mem_cons_self).isPrefix_iff filled
      by_cases isPrefix : replacement.target <+: front
      · rw [fitting?_cons_of_fits isPrefix, fitting?_cons_of_fits (same.mpr isPrefix)]
      · rw [fitting?_cons_of_misfit others isPrefix,
          fitting?_cons_of_misfit others (mt same.mp isPrefix), later]

/-- A text can be cut where no target is cut. -/
theorem substitute_append
    (divides : ∀ replacement ∈ replacements, Divides replacement.target front back) :
    substitute replacements (front ++ back) =
      substitute replacements front ++ substitute replacements back := by
  induction size : front.length using Nat.strong_induction_on generalizing front with
  | h count induction =>
      cases front with
      | nil => rw [substitute, List.nil_append, List.nil_append]
      | cons character rest =>
          have same := fitting?_append divides (List.cons_ne_nil character rest)
          cases fits : fitting? replacements (character :: rest) with
          | none =>
              rw [fits, List.cons_append] at same
              rw [List.cons_append, substitute_of_unfit same, substitute_of_unfit fits,
                induction rest.length (by simp [← size])
                  (fun other member => (divides other member).drop [character]) rfl,
                List.cons_append]
          | some replacement =>
              obtain ⟨after, whole⟩ := fits_of_fitting? fits
              have shorter : after.length < count := by
                have positive := List.length_pos_iff.mpr replacement.filled
                rw [← size, ← whole, List.length_append]
                omega
              rw [fits] at same
              rw [← whole] at divides fits same ⊢
              rw [List.append_assoc] at same ⊢
              rw [substitute_of_fits _ same, substitute_of_fits _ fits,
                induction after.length shorter (fun other member => (divides other member).drop _)
                  rfl, List.append_assoc]

/-- Whatever stands around the value, no occurrence of the target reaches over its edges. -/
def Separates (target value : List Char) : Prop :=
  ∀ before after, Divides target before (value ++ after) ∧ Divides target (before ++ value) after

/-- No proper part of the target fits to an edge of the value. -/
def FitsNoEdge (target value : List Char) : Prop :=
  ∀ length < target.length, length ≠ 0 →
    ¬target.drop length <+: value ∧ ¬value <+: target.drop length ∧
      ¬target.take length <:+ value ∧ ¬value <:+ target.take length

instance (target value : List Char) : Decidable (FitsNoEdge target value) :=
  inferInstanceAs (Decidable (∀ length < target.length, length ≠ 0 → _))

namespace FitsNoEdge

theorem left (fitsNoEdge : FitsNoEdge target value) (before after : List Char) :
    Divides target before (value ++ after) := by
  intro ahead behind whole
  by_contra across
  push Not at across
  obtain ⟨ends, begins⟩ := across
  obtain ⟨beginsLate, endsLate, -⟩ := fitsNoEdge (before.length - ahead.length) (by omega)
    (by omega)
  have back : value ++ after = target.drop (before.length - ahead.length) ++ behind := by
    have dropped := congrArg (List.drop before.length) whole
    rwa [List.drop_left, List.append_assoc, List.drop_append, List.drop_of_length_le begins.le,
      List.nil_append, List.drop_append_of_le_length (by omega)] at dropped
  rcases List.prefix_or_prefix_of_prefix (List.prefix_append value after)
    ⟨behind, back.symm⟩ with early | late
  · exact endsLate early
  · exact beginsLate late

theorem right (fitsNoEdge : FitsNoEdge target value) (before after : List Char) :
    Divides target (before ++ value) after := by
  intro ahead behind whole
  by_contra across
  push Not at across
  obtain ⟨ends, begins⟩ := across
  generalize isFront : before ++ value = front at *
  obtain ⟨-, -, beginsLate, endsLate⟩ := fitsNoEdge (front.length - ahead.length) (by omega)
    (by omega)
  have isSuffix : front = ahead ++ target.take (front.length - ahead.length) := by
    have taken := congrArg (List.take front.length) whole
    rwa [List.take_left, List.append_assoc, List.take_append, List.take_of_length_le begins.le,
      List.take_append_of_le_length (by omega)] at taken
  rcases List.suffix_or_suffix_of_suffix ⟨before, isFront⟩ ⟨ahead, isSuffix.symm⟩ with early | late
  · exact endsLate early
  · exact beginsLate late

end FitsNoEdge

theorem separates_iff : Separates target value ↔ FitsNoEdge target value := by
  refine ⟨fun divides length inside cut => ?_, fun fitsNoEdge before after =>
    ⟨fitsNoEdge.left before after, fitsNoEdge.right before after⟩⟩
  have whole := List.take_append_drop length target
  have isLength : (target.take length).length = length := List.length_take_of_le inside.le
  refine ⟨?_, ?_, ?_, ?_⟩
  · rintro ⟨rest, isValue⟩
    have edges := (divides (target.take length) []).1 [] rest (by
      rw [List.append_nil, ← isValue, ← List.append_assoc, whole, List.nil_append])
    simp only [List.length_nil] at edges
    omega
  · rintro ⟨rest, isDrop⟩
    have edges := (divides (target.take length) rest).1 [] [] (by simp [isDrop])
    simp only [List.length_nil] at edges
    omega
  · rintro ⟨rest, rfl⟩
    have edges := (divides [] (target.drop length)).2 rest [] (by simp)
    simp only [List.length_append, List.length_nil] at edges
    omega
  · rintro ⟨rest, isTake⟩
    have edges := (divides rest (target.drop length)).2 [] [] (by simp [isTake])
    simp only [isTake, List.length_nil] at edges
    omega

instance (target value : List Char) : Decidable (Separates target value) :=
  decidable_of_iff' _ separates_iff

theorem substitute_separated (before after : List Char)
    (separates : ∀ replacement ∈ replacements, Separates replacement.target value) :
    substitute replacements (before ++ value ++ after) =
      substitute replacements before ++ substitute replacements value ++
        substitute replacements after := by
  have left : ∀ replacement ∈ replacements, Divides replacement.target before value := by
    intro replacement member
    simpa using (separates replacement member before []).1
  have right := fun replacement member => (separates replacement member before after).2
  rw [substitute_append right, substitute_append left]

/-! ## One step after another -/

/-- A step before a pass is as good as one pass that puts in what the pass makes of the value. -/
theorem substitute_substitute (replacement : Replacement) (replacements : List Replacement)
    (targets : ∀ other ∈ replacement :: replacements, Separates other.target replacement.target)
    (values : ∀ other ∈ replacements, Separates other.target replacement.value)
    (text : List Char) :
    substitute replacements (substitute [replacement] text) =
      substitute ({ replacement with value := substitute replacements replacement.value } ::
        replacements) text := by
  induction size : text.length using Nat.strong_induction_on generalizing text with
  | h size induction =>
      by_cases occurs : replacement.target <:+: text
      · obtain ⟨before, after, rfl⟩ := occurs
        have positive := List.length_pos_iff.mpr replacement.filled
        simp only [List.length_append] at size
        rw [substitute_separated before after fun other member =>
            targets other (List.mem_cons.mpr (.inl (List.mem_singleton.mp member))),
          substitute_target replacement (fitting?_cons_of_fits List.prefix_rfl),
          substitute_separated _ _ values,
          substitute_separated before after (by simpa using targets),
          induction before.length (by omega) before rfl,
          induction after.length (by omega) after rfl]
        congr 2
        exact (substitute_target { replacement with
          value := substitute replacements replacement.value }
            (fitting?_cons_of_fits List.prefix_rfl)).symm
      · rw [substitute_cons_of_absent replacement occurs, substitute_nil]
        exact (substitute_cons_of_absent { replacement with
          value := substitute replacements replacement.value } occurs).symm

/-! ## Longer values -/

def Replacement.LengthensTo (replacement other : Replacement) : Prop :=
  replacement.target = other.target ∧ replacement.value.length ≤ other.value.length

section

open Replacement (LengthensTo)

variable {others : List Replacement} {other : Replacement}

theorem fitting?_lengthens (lengthens : List.Forall₂ LengthensTo replacements others)
    (text : List Char) :
    Option.Rel LengthensTo (fitting? replacements text) (fitting? others text) := by
  induction lengthens with
  | nil => exact .none
  | cons longer _ induction =>
      rw [fitting?, fitting?, List.find?_cons, List.find?_cons, ← longer.1]
      split
      · exact .some longer
      · exact induction

theorem length_substitute_le (lengthens : List.Forall₂ LengthensTo replacements others)
    (text : List Char) :
    (substitute replacements text).length ≤ (substitute others text).length := by
  induction text using substitute.induct replacements with
  | case1 => rw [substitute, substitute]
  | case2 character rest replacement fits induction =>
      have related := fitting?_lengthens lengthens (character :: rest)
      rw [fits] at related
      cases fitsOther : fitting? others (character :: rest) with
      | none =>
          rw [fitsOther] at related
          cases related
      | some other =>
          rw [fitsOther] at related
          obtain ⟨sameTarget, longer⟩ : replacement.LengthensTo other := by
            cases related
            assumption
          rw [substitute, substitute, fits, fitsOther]
          simp only [List.length_append, ← sameTarget]
          exact Nat.add_le_add longer induction
  | case3 character rest unfit induction =>
      have related := fitting?_lengthens lengthens (character :: rest)
      rw [unfit] at related
      cases fitsOther : fitting? others (character :: rest) with
      | none =>
          rw [substitute_of_unfit unfit, substitute_of_unfit fitsOther]
          exact Nat.succ_le_succ induction
      | some other =>
          rw [fitsOther] at related
          cases related

/-- A value that is longer makes the text longer if its target occurs. -/
theorem length_substitute_lt (lengthens : List.Forall₂ LengthensTo replacements others)
    (longer : (substitute replacements target).length < (substitute others target).length)
    (separates : ∀ replacement ∈ replacements, Separates replacement.target target)
    (othersSeparate : ∀ other ∈ others, Separates other.target target)
    (occurs : target <:+: text) :
    (substitute replacements text).length < (substitute others text).length := by
  obtain ⟨before, after, rfl⟩ := occurs
  have isBefore := length_substitute_le lengthens before
  have isAfter := length_substitute_le lengthens after
  rw [substitute_separated before after separates, substitute_separated before after othersSeparate]
  simp only [List.length_append]
  omega

end

end Text

/-! ## Command lines -/

namespace CommandTemplate

open Text (Replacement Separates substitute)

variable {template : CommandTemplate} {path name pathName : List Char}
  {replacement : Replacement}

def classPlaceholder : List Char := "%\x7bclass_name\x7d".toList
def pathPlaceholder : List Char := "%\x7bfilename\x7d".toList
def modulePlaceholder : List Char := "%\x7bmodule_name\x7d".toList

def placeholders : List (List Char) := [classPlaceholder, pathPlaceholder, modulePlaceholder]

def classReplacement (name : List Char) : Replacement := ⟨classPlaceholder, name, by decide⟩
def pathReplacement (path : List Char) : Replacement := ⟨pathPlaceholder, path, by decide⟩
def moduleReplacement (name : List Char) : Replacement := ⟨modulePlaceholder, name, by decide⟩

/-- The replacements for a file, with what is put in for its class and for its path. -/
def replacements (path name pathName : List Char) : List Replacement :=
  [classReplacement name, pathReplacement pathName, moduleReplacement (moduleName (stem path))]

/-- The command line for a file, with all placeholders of the template filled in at once. -/
def renderAtOnce (template : CommandTemplate) (path : String) : String :=
  let path := path.toList
  String.ofList (substitute (replacements path (className (stem path)) path) template.text.toList)

/-- No later placeholder can reach over the edges of what is put in. -/
def IsSeparate (path : List Char) : Prop :=
  Separates pathPlaceholder (className (stem path)) ∧
    Separates modulePlaceholder (className (stem path)) ∧ Separates modulePlaceholder path

instance : DecidablePred IsSeparate := fun _ => inferInstanceAs (Decidable (_ ∧ _))

/-- The path, with the placeholders that it holds filled in by the last step. -/
def expandedPath (path : List Char) : List Char :=
  substitute [moduleReplacement (moduleName (stem path))] path

/-- The class name, with the placeholders that it holds filled in by the later steps. -/
def expandedClass (path : List Char) : List Char :=
  substitute [pathReplacement (expandedPath path), moduleReplacement (moduleName (stem path))]
    (className (stem path))

/-- The command line for a file, with all placeholders filled in at once by what the later steps
make of their values. -/
def renderExpanded (template : CommandTemplate) (path : String) : String :=
  let path := path.toList
  String.ofList (substitute (replacements path (expandedClass path) (expandedPath path))
    template.text.toList)

/-- No two placeholders can reach over each other's edges. -/
theorem separates_placeholder :
    ∀ target ∈ placeholders, ∀ value ∈ placeholders, Separates target value := by
  decide

theorem target_mem_placeholders (member : replacement ∈ replacements path name pathName) :
    replacement.target ∈ placeholders := by
  simp only [replacements, List.mem_cons, List.not_mem_nil, or_false] at member
  rcases member with rfl | rfl | rfl
  · exact List.mem_cons_self
  · exact List.mem_cons_of_mem _ List.mem_cons_self
  · exact List.mem_cons_of_mem _ (List.mem_cons_of_mem _ List.mem_cons_self)

theorem separates_of_mem {value : List Char} (isPlaceholder : value ∈ placeholders)
    (member : replacement ∈ replacements path name pathName) :
    Separates replacement.target value :=
  separates_placeholder replacement.target (target_mem_placeholders member) value isPlaceholder

theorem render_eq_substitute (template : CommandTemplate) (path : String) :
    template.render path = String.ofList
      (substitute [moduleReplacement (moduleName (stem path.toList))]
        (substitute [pathReplacement path.toList]
          (substitute [classReplacement (className (stem path.toList))]
            template.text.toList))) := by
  rw [← Text.replaceAll_eq_substitute, ← Text.replaceAll_eq_substitute,
    ← Text.replaceAll_eq_substitute]
  rfl

theorem render_of_isSeparate (template : CommandTemplate) (path : String)
    (isSeparate : IsSeparate path.toList) :
    template.render path = template.renderExpanded path := by
  obtain ⟨classFromPath, classFromModule, pathFromModule⟩ := isSeparate
  have lastSteps := Text.substitute_substitute (pathReplacement path.toList)
    [moduleReplacement (moduleName (stem path.toList))]
    (fun other member => separates_of_mem (List.mem_cons_of_mem _ List.mem_cons_self)
      (List.mem_cons_of_mem (classReplacement []) member))
    (fun other member => List.mem_singleton.mp member ▸ pathFromModule)
  have allSteps := Text.substitute_substitute (classReplacement (className (stem path.toList)))
    [pathReplacement (expandedPath path.toList), moduleReplacement (moduleName (stem path.toList))]
    (fun other member => separates_of_mem List.mem_cons_self member)
    (fun other member => by
      simp only [List.mem_cons, List.not_mem_nil, or_false] at member
      rcases member with rfl | rfl
      · exact classFromPath
      · exact classFromModule)
  rw [render_eq_substitute, lastSteps, renderExpanded]
  exact congrArg String.ofList (allSteps _)

theorem substitute_classPlaceholder :
    substitute (replacements path name pathName) classPlaceholder = name :=
  Text.substitute_target (classReplacement name) rfl

theorem substitute_pathPlaceholder :
    substitute (replacements path name pathName) pathPlaceholder = pathName :=
  Text.substitute_target (pathReplacement pathName) rfl

theorem substitute_target_of_mem (member : replacement ∈ replacements path name pathName) :
    substitute (replacements path name pathName) replacement.target = replacement.value := by
  simp only [replacements, List.mem_cons, List.not_mem_nil, or_false] at member
  rcases member with rfl | rfl | rfl
  · exact substitute_classPlaceholder
  · exact substitute_pathPlaceholder
  · exact Text.substitute_target (moduleReplacement (moduleName (stem path))) rfl

/-- The module name of this path is longer than the placeholder that the path holds. -/
def nestedPath : String := "A%\x7bmodule_name\x7d"

theorem renderExpanded_nestedPath_ne {value : List Char}
    (isReplaced : value ∈ [classPlaceholder, pathPlaceholder])
    (occurs : value <:+: template.text.toList) :
    template.renderExpanded nestedPath ≠ template.renderAtOnce nestedPath := by
  have isPlaceholder : value ∈ placeholders := by
    simp only [List.mem_cons, List.not_mem_nil, or_false] at isReplaced
    simp only [placeholders, List.mem_cons]
    tauto
  have lengthens : List.Forall₂ Replacement.LengthensTo
      (replacements nestedPath.toList (className (stem nestedPath.toList)) nestedPath.toList)
      (replacements nestedPath.toList (expandedClass nestedPath.toList)
        (expandedPath nestedPath.toList)) :=
    .cons ⟨rfl, by decide +kernel⟩ (.cons ⟨rfl, by decide +kernel⟩
      (.cons ⟨rfl, Nat.le_refl _⟩ .nil))
  have longer : (substitute (replacements nestedPath.toList (className (stem nestedPath.toList))
      nestedPath.toList) value).length < (substitute (replacements nestedPath.toList
        (expandedClass nestedPath.toList) (expandedPath nestedPath.toList)) value).length := by
    simp only [List.mem_cons, List.not_mem_nil, or_false] at isReplaced
    rcases isReplaced with rfl | rfl
    · rw [substitute_classPlaceholder, substitute_classPlaceholder]
      decide +kernel
    · rw [substitute_pathPlaceholder, substitute_pathPlaceholder]
      decide +kernel
  have wholeLonger := Text.length_substitute_lt lengthens longer
    (fun _ => separates_of_mem isPlaceholder) (fun _ => separates_of_mem isPlaceholder) occurs
  intro equal
  rw [renderExpanded, renderAtOnce, String.ofList_inj] at equal
  exact absurd (congrArg List.length equal) wholeLonger.ne'

/-- How filling in one placeholder after another compares with filling them in at once, for this
template and this path. -/
structure FillsInSteps (template : CommandTemplate) (path : String) : Prop where
  /-- At once, a placeholder gives way to its value wherever it stands. -/
  fillsEach : let all := replacements path.toList (className (stem path.toList)) path.toList
    ∀ replacement ∈ all, ∀ before after, substitute all (before ++ replacement.target ++ after) =
      substitute all before ++ replacement.value ++ substitute all after
  keepsRest : (∀ placeholder ∈ placeholders, ¬placeholder <:+: template.text.toList) →
    template.renderAtOnce path = template.text
  /-- In steps, what is put in is expanded by the later ones, whatever stands around it. -/
  expands : IsSeparate path.toList → template.render path = template.renderExpanded path
  /-- A path whose values hold no placeholders of their own does no harm in any template. -/
  path_iff : IsSeparate path.toList →
    ((∀ other : CommandTemplate, other.render path = other.renderAtOnce path) ↔
      expandedClass path.toList = className (stem path.toList) ∧
        expandedPath path.toList = path.toList)
  /-- A template that names only the module is safe from all paths. -/
  template_iff : (∀ other, template.render other = template.renderAtOnce other) ↔
    ¬classPlaceholder <:+: template.text.toList ∧ ¬pathPlaceholder <:+: template.text.toList

theorem fillsInSteps (template : CommandTemplate) (path : String) :
    template.FillsInSteps path where
  fillsEach := by
    intro all replacement member before after
    rw [Text.substitute_separated before after fun _ =>
      separates_of_mem (target_mem_placeholders member), substitute_target_of_mem member]
  keepsRest absent := by
    rw [renderAtOnce, Text.substitute_of_absent fun replacement member =>
      absent replacement.target (target_mem_placeholders member), String.ofList_toList]
  expands := template.render_of_isSeparate path
  path_iff isSeparate := by
    constructor
    · intro atOnce
      have isClass := atOnce ⟨String.ofList classPlaceholder⟩
      have isPath := atOnce ⟨String.ofList pathPlaceholder⟩
      rw [render_of_isSeparate _ path isSeparate, renderExpanded, renderAtOnce,
        String.ofList_inj, String.toList_ofList] at isClass isPath
      rw [substitute_classPlaceholder, substitute_classPlaceholder] at isClass
      rw [substitute_pathPlaceholder, substitute_pathPlaceholder] at isPath
      exact ⟨isClass, isPath⟩
    · rintro ⟨isClass, isPath⟩ other
      rw [render_of_isSeparate other path isSeparate, renderExpanded, renderAtOnce, isClass,
        isPath]
  template_iff := by
    constructor
    · intro atOnce
      have equal := atOnce nestedPath
      rw [template.render_of_isSeparate nestedPath (by decide +kernel)] at equal
      exact ⟨fun occurs => renderExpanded_nestedPath_ne List.mem_cons_self occurs equal,
        fun occurs => renderExpanded_nestedPath_ne (List.mem_cons_of_mem _ List.mem_cons_self)
          occurs equal⟩
    · rintro ⟨noClass, noPath⟩ other
      rw [render_eq_substitute, Text.substitute_cons_of_absent (classReplacement _) noClass,
        Text.substitute_nil, Text.substitute_cons_of_absent (pathReplacement _) noPath,
        Text.substitute_nil, renderAtOnce, replacements,
        Text.substitute_cons_of_absent (classReplacement _) noClass,
        Text.substitute_cons_of_absent (pathReplacement _) noPath]

/-- The path holds a placeholder of its own. -/
theorem render_ne_renderAtOnce :
    let template : CommandTemplate := ⟨"run %\x7bfilename\x7d"⟩
    template.render "A%\x7bmodule_name\x7d.py" = "run Aa%\x7bmodule_name\x7d.py" ∧
      template.renderAtOnce "A%\x7bmodule_name\x7d.py" = "run A%\x7bmodule_name\x7d.py" := by
  decide +kernel

/-- The path makes a placeholder together with the text around it. -/
example :
    let template : CommandTemplate := ⟨"run %\x7b%\x7bfilename\x7d_name\x7d"⟩
    ¬IsSeparate "module".toList ∧ template.render "module" = "run module" ∧
      template.renderAtOnce "module" = "run %\x7bmodule_name\x7d" := by
  decide +kernel

end CommandTemplate

end Grading
