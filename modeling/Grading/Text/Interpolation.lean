import Grading.Text.Character

namespace Grading.Text

/-! Filling in named placeholders in one pass: what is put in is not searched again. -/

/-- The name between the braces of a placeholder, from behind the opening brace, and the text after
the closing one. A name is made of word characters. -/
def placeholder? (text : List Char) : Option (List Char × List Char) :=
  match text.takeWhile isWordCharacter, text.dropWhile isWordCharacter with
  | first :: name, '\x7d' :: rest => some (first :: name, rest)
  | _, _ => none

theorem length_of_placeholder? {text name rest : List Char}
    (found : placeholder? text = some (name, rest)) : rest.length < text.length := by
  have whole := List.takeWhile_append_dropWhile (p := isWordCharacter) (l := text)
  unfold placeholder? at found
  split at found
  · rename_i first others behind front back
    simp only [Option.some.injEq, Prod.mk.injEq] at found
    rw [front, back] at whole
    rw [← whole, ← found.2]
    simp only [List.cons_append, List.length_cons, List.length_append]
    omega
  · simp at found

/-- The text with every placeholder replaced by its value, or the name of the first one that has no
value. -/
def interpolate (value? : List Char → Option (List Char)) :
    (text : List Char) → Except (List Char) (List Char)
  | [] => .ok []
  | '%' :: '\x7b' :: rest =>
      match _found : placeholder? rest with
      | some (name, after) =>
          match value? name with
          | none => .error name
          | some value => (interpolate value? after).map (value ++ ·)
      | none => (interpolate value? ('\x7b' :: rest)).map ('%' :: ·)
  | character :: rest => (interpolate value? rest).map (character :: ·)
termination_by text => text.length
decreasing_by
  · have shorter := length_of_placeholder? _found
    simp only [List.length_cons]
    omega
  · simp
  · simp

end Grading.Text
