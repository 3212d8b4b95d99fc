namespace Grading.Text

/-! Replacing every occurrence of a fixed text. -/

/-- The text after `opening`, if the text starts with it. -/
def afterOpening? : (opening text : List Char) → Option (List Char)
  | [], text => some text
  | _ :: _, [] => none
  | expected :: opening, found :: text =>
      if expected = found then afterOpening? opening text else none

theorem afterOpening?_eq_some_iff {opening text rest : List Char} :
    afterOpening? opening text = some rest ↔ text = opening ++ rest := by
  induction opening generalizing text with
  | nil => simp [afterOpening?]
  | cons expected opening induction =>
      cases text with
      | nil => simp [afterOpening?]
      | cons found text =>
          by_cases equal : expected = found
          · subst equal
            simp [afterOpening?, induction]
          · simp [afterOpening?, equal, Ne.symm equal]

theorem length_of_afterOpening? {opening text rest : List Char}
    (found : afterOpening? opening text = some rest) :
    text.length = opening.length + rest.length := by
  rw [afterOpening?_eq_some_iff] at found
  simp [found]

/-- Every occurrence of `target`, taken from the left and without overlap, replaced. A target
without characters occurs nowhere. -/
def replaceAll (target replacement text : List Char) : List Char :=
  match text with
  | [] => []
  | character :: rest =>
      match _found : afterOpening? target (character :: rest) with
      | some after =>
          if _empty : target = [] then character :: replaceAll target replacement rest
          else replacement ++ replaceAll target replacement after
      | none => character :: replaceAll target replacement rest
termination_by text.length
decreasing_by
  · simp
  · have length := length_of_afterOpening? _found
    have positive := List.length_pos_iff.mpr _empty
    simp only [List.length_cons] at length ⊢
    omega
  · simp

end Grading.Text
