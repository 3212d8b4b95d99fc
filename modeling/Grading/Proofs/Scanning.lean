import Grading.Proofs.Excerpt

namespace Grading.Pattern

/-! All matches of an expression are found by a scan from place to place. Where the expression asks
for no places, it finds in a part of a text what it finds there in the whole text. -/

/-! ## What a match says -/
/-- The texts of the groups of a match. -/
abbrev Reading := (index : Nat) → Option (List Char)

namespace Match

def reading (whole : List Char) (found : Match) : Reading := found.group? whole

end Match

/-- An outcome within a text: all its places are. -/
structure Attempt.IsWithin (length : Nat) (outcome : Attempt) : Prop where
  rest : outcome.cursor.position + outcome.rest.length = length
  marks : ∀ mark ∈ outcome.marks, mark.2 ≤ length

theorem Attempt.Reaches.isWithin {length : Nat} {outcome later : Attempt}
    (reaches : outcome.Reaches later) (within : outcome.IsWithin length) :
    later.IsWithin length := by
  induction reaches with
  | refl => exact within
  | next reaches more induction =>
      refine ⟨?_, induction.marks⟩
      rw [position_next more, rest_next, List.length_tail, ← induction.rest]
      have := List.length_pos_of_ne_nil more
      omega
  | mark reaches slot induction =>
      refine ⟨induction.rest, fun mark member => ?_⟩
      rcases List.mem_cons.mp member with rfl | earlier
      · exact induction.rest ▸ Nat.le_add_right ..
      · exact induction.marks mark earlier

theorem Attempt.Reaches.isIn {text : List Char} {outcome later : Attempt}
    (reaches : outcome.Reaches later) (inside : outcome.cursor.IsIn text) :
    later.cursor.IsIn text := by
  induction reaches with
  | refl => exact inside
  | @next later _ more induction =>
      obtain ⟨⟨before, _ | ⟨character, rest⟩, position⟩, marks⟩ := later
      · exact absurd rfl more
      · exact induction.cons
  | mark _ _ induction => exact induction

theorem slice_append (whole tail : List Char) (first : Nat) {rest : List Char} {behind : Nat}
    (inside : behind ≤ rest.length) :
    slice (whole ++ rest ++ tail) (first + whole.length) (behind + whole.length) =
      slice rest first behind := by
  rw [slice, slice, Nat.add_sub_add_right, List.append_assoc, Nat.add_comm first,
    ← List.drop_drop, List.drop_left]
  rcases Nat.le_total first behind with forward | backward
  · rw [List.drop_append_of_le_length (Nat.le_trans forward inside),
      List.take_append_of_le_length (by rw [List.length_drop]; exact Nat.sub_le_sub_right inside _)]
  · rw [Nat.sub_eq_zero_of_le backward, List.take_zero, List.take_zero]

theorem lookup_map_shift (marks : Marks) (shift slot : Nat) :
    (marks.map (Prod.map id (· + shift))).lookup slot = (marks.lookup slot).map (· + shift) := by
  induction marks with
  | nil => rfl
  | cons mark marks induction =>
      obtain ⟨other, place⟩ := mark
      rw [List.map_cons, Prod.map_apply, List.lookup_cons, List.lookup_cons, id_eq]
      cases slot == other with
      | true => rfl
      | false => exact induction

theorem reading_shifts {α : Type} {view : Option Char → α} {whole rest tail : List Char}
    {hit found : Attempt} (shifts : hit.Shifts view whole.length tail found)
    (within : hit.IsWithin rest.length) :
    Match.reading (whole ++ rest ++ tail) ⟨whole.length, found.cursor, found.marks⟩ =
      Match.reading rest ⟨0, hit.cursor, hit.marks⟩ := by
  funext index
  rw [Match.reading, Match.reading, Match.group?, Match.group?]
  split
  · simp only [Match.text, shifts.position]
    have text := slice_append whole tail 0
      (within.rest ▸ Nat.le_add_right hit.cursor.position _ : hit.cursor.position ≤ rest.length)
    rw [Nat.zero_add] at text
    rw [text]
  · simp only [shifts.marks, lookup_map_shift]
    cases hit.marks.lookup (2 * index) with
    | none => rfl
    | some first =>
        cases last : hit.marks.lookup (2 * index + 1) with
        | none => rfl
        | some behind =>
            have inside : behind ≤ rest.length := by
              obtain ⟨_, _, marks, -⟩ := List.lookup_eq_some_iff.mp last
              exact within.marks (2 * index + 1, behind) (by simp [marks])
            exact congrArg some (slice_append whole tail first inside)

/-! ## Scans -/

/-- What a place is asked for are the characters around it. -/
theorem Condition.holds_congr (condition : Condition) {cursor other : Cursor}
    (before : other.before = cursor.before) (rest : other.rest = cursor.rest) :
    condition.holds other = condition.holds cursor := by
  obtain ⟨_, _, position⟩ := cursor
  obtain ⟨_, _, place⟩ := other
  cases before
  cases rest
  rfl

namespace Expression

open Attempt

variable {expression : Expression} {text : List Char}

theorem of_matchAt {cursor : Cursor} {found : Match}
    (isFound : expression.matchAt? cursor = some found) :
    ∃ outcome ∈ expression.outcomes (.start cursor),
      found = ⟨cursor.position, outcome.cursor, outcome.marks⟩ := by
  obtain ⟨outcome, first, rfl⟩ := Option.map_eq_some_iff.mp isFound
  exact ⟨outcome, List.mem_of_head? first, rfl⟩

theorem matchAt_eq_none_iff {cursor : Cursor} :
    expression.matchAt? cursor = none ↔ expression.outcomes (.start cursor) = [] := by
  rw [matchAt?, Option.map_eq_none_iff, List.head?_eq_none_iff]

theorem matchAt_shorter (needs : expression.isNullable = false) {cursor : Cursor} {found : Match}
    (isFound : expression.matchAt? cursor = some found) :
    found.behind.rest.length < cursor.rest.length := by
  obtain ⟨outcome, member, rfl⟩ := of_matchAt isFound
  exact takes_outcomes needs (.start cursor) outcome member

/-- What all matches from a place on say, one behind the other. -/
def readingsAt (expression : Expression) (before : Option Char) (text : List Char) :
    List Reading :=
  match expression.matchAt? ⟨before, text, 0⟩ with
  | some found =>
      found.reading text ::
        if found.behind.rest.length < text.length then
          expression.readingsAt found.behind.before found.behind.rest
        else []
  | none =>
      match text with
      | [] => []
      | character :: rest => expression.readingsAt (some character) rest
termination_by text.length

theorem readingsAt_of_some (needs : expression.isNullable = false) {before : Option Char}
    {found : Match} (isFound : expression.matchAt? ⟨before, text, 0⟩ = some found) :
    expression.readingsAt before text =
      found.reading text :: expression.readingsAt found.behind.before found.behind.rest := by
  have shorter : found.behind.rest.length < text.length := matchAt_shorter needs isFound
  rw [readingsAt.eq_def, isFound]
  simp only [if_pos shorter]

theorem readingsAt_of_none {before : Option Char} {character : Char} {rest : List Char}
    (nothing : expression.matchAt? ⟨before, character :: rest, 0⟩ = none) :
    expression.readingsAt before (character :: rest) =
      expression.readingsAt (some character) rest := by
  rw [readingsAt.eq_def, nothing]

theorem readingsAt_nil (needs : expression.isNullable = false) (before : Option Char) :
    expression.readingsAt before [] = [] := by
  cases isFound : expression.matchAt? ⟨before, [], 0⟩ with
  | none => rw [readingsAt.eq_def, isFound]
  | some found => exact absurd (matchAt_shorter needs isFound) (Nat.not_lt_zero _)

/-- The match at a place is the same with a tail behind the text, unless it takes of the tail. -/
theorem matchAt_contained (expression : Expression) (whole : List Char) {α : Type}
    {view : Option Char → α} {rest tail : List Char} {before : Option Char} {cursor : Cursor}
    (agrees : ∀ place ∈ expression.conditions, ∀ ⦃outcome other : Attempt⦄,
      outcome.Shifts view whole.length tail other →
        place.holds other.cursor = place.holds outcome.cursor)
    (begins : (Attempt.start ⟨before, rest, 0⟩).Shifts view whole.length tail (.start cursor))
    (spares : ∀ found, expression.matchAt? cursor = some found →
      tail.length ≤ found.behind.rest.length) :
    (expression.matchAt? ⟨before, rest, 0⟩ = none ∧ expression.matchAt? cursor = none) ∨
      ∃ hit found, expression.matchAt? ⟨before, rest, 0⟩ = some hit ∧
        expression.matchAt? cursor = some found ∧
        found.reading (whole ++ rest ++ tail) = hit.reading rest ∧
        found.behind.rest = hit.behind.rest ++ tail ∧
        view found.behind.before = view hit.behind.before := by
  have position : cursor.position = whole.length := begins.position.trans (Nat.zero_add _)
  have within : (Attempt.start ⟨before, rest, 0⟩).IsWithin rest.length :=
    ⟨Nat.zero_add _, List.forall_mem_nil _⟩
  have shifts := isContained_outcomes agrees begins
  have advances := expression.advances_outcomes (.start ⟨before, rest, 0⟩)
  simp only [matchAt?, position] at spares ⊢
  generalize expression.outcomes (.start ⟨before, rest, 0⟩) = hits at shifts advances ⊢
  cases founds : expression.outcomes (.start cursor) with
  | nil =>
      rw [founds] at shifts
      cases shifts
      exact .inl ⟨rfl, rfl⟩
  | cons found others =>
      have isFirst : (expression.outcomes (.start cursor)).head? = some found := by
        rw [founds, List.head?_cons]
      have spared : found.spares tail = true :=
        decide_eq_true (spares _ (by rw [isFirst, Option.map_some]))
      rw [founds, List.filter_cons_of_pos spared] at shifts
      cases shifts with
      | cons first _ =>
          exact .inr ⟨_, _, rfl, rfl,
            reading_shifts first ((advances _ List.mem_cons_self).isWithin within), first.rest,
            first.before⟩

theorem matchAt_isIn (needs : expression.isNullable = false) {cursor : Cursor} {found : Match}
    (inside : cursor.IsIn text) (isFound : expression.matchAt? cursor = some found) :
    found.behind.IsIn text ∧ found.isEmpty = false := by
  have shorter := matchAt_shorter needs isFound
  obtain ⟨outcome, member, rfl⟩ := of_matchAt isFound
  have isIn := (expression.advances_outcomes _ outcome member).isIn inside
  refine ⟨isIn, ?_⟩
  have start := inside.rest_length
  have behind := isIn.rest_length
  simp only [Match.isEmpty, beq_eq_false_iff_ne]
  intro same
  simp only at shorter
  omega

/-- A scan from a place begins with the search for the next match. -/
theorem readingsAt_matchFrom (needs : expression.isNullable = false) {before : Option Char}
    {position : Nat} {rest : List Char} (inside : Cursor.IsIn text ⟨before, rest, position⟩) :
    (expression.matchFrom? before position rest = none → expression.readingsAt before rest = []) ∧
      ∀ found, expression.matchFrom? before position rest = some found →
        found.behind.IsIn text ∧ found.isEmpty = false ∧
          found.behind.rest.length < rest.length ∧
          expression.readingsAt before rest =
            found.reading text ::
              expression.readingsAt found.behind.before found.behind.rest := by
  induction rest generalizing before position with
  | nil =>
      refine ⟨fun _ => readingsAt_nil needs before, fun found isFound => ?_⟩
      exact absurd (matchAt_shorter needs isFound) (Nat.not_lt_zero _)
  | cons character rest induction =>
      have remains : character :: rest = text.drop position := congrArg Cursor.rest inside.2
      have whole : text.take position ++ (character :: rest) ++ [] = text := by
        rw [List.append_nil, remains, List.take_append_drop]
      have begins : (Attempt.start ⟨before, character :: rest, 0⟩).Shifts id
          (text.take position).length [] (.start ⟨before, character :: rest, position⟩) :=
        ⟨rfl, (List.append_nil _).symm,
          (List.length_take_of_le inside.1).symm.trans (Nat.zero_add _).symm, rfl⟩
      have related := expression.matchAt_contained (text.take position)
        (fun place _ _ _ shifts => place.holds_congr shifts.before
          (shifts.rest.trans (List.append_nil _))) begins fun _ _ => Nat.zero_le _
      rw [whole] at related
      rw [matchFrom?]
      rcases related with ⟨isHit, isFound⟩ | ⟨hit, found, isHit, isFound, reading, remains, same⟩
      · obtain ⟨ends, goesOn⟩ := induction inside.cons
        rw [isFound, Option.none_or, readingsAt_of_none isHit]
        refine ⟨ends, fun found isFirst => ?_⟩
        obtain ⟨behind, some, shorter, readings⟩ := goesOn found isFirst
        exact ⟨behind, some, Nat.lt_succ_of_lt shorter, readings⟩
      · rw [isFound, Option.some_or]
        refine ⟨fun nothing => absurd nothing (Option.some_ne_none found), fun _ isFirst => ?_⟩
        obtain rfl := Option.some.inj isFirst
        obtain ⟨behind, some⟩ := matchAt_isIn needs inside isFound
        refine ⟨behind, some, matchAt_shorter needs isFound, ?_⟩
        rw [List.append_nil] at remains
        rw [id, id] at same
        rw [readingsAt_of_some needs isHit, reading, remains, same]

theorem map_findAllWithin (productive : expression.IsProductive)
    (needs : expression.isNullable = false) (fuel : Nat) {cursor : Cursor}
    (inside : cursor.IsIn text) (lastEnd : Option Nat) (enough : cursor.rest.length < fuel) :
    ((Program.ofExpression expression).findAllWithin fuel cursor lastEnd).map
        (Match.reading text) =
      expression.readingsAt cursor.before cursor.rest := by
  induction fuel generalizing cursor lastEnd with
  | zero => cases enough
  | succ fuel induction =>
      obtain ⟨ends, goesOn⟩ := readingsAt_matchFrom needs inside
      rw [Program.findAllWithin, Program.find?_ofExpression productive inside]
      cases isFound : expression.matchFrom? cursor.before cursor.position cursor.rest with
      | none => rw [ends isFound, List.map_nil]
      | some found =>
          obtain ⟨behind, some, shorter, readings⟩ := goesOn found isFound
          simp only [some, Bool.false_and, Bool.false_eq_true, if_false, List.map_cons]
          rw [readings, induction behind _ (by omega)]

/-! ## Expressions that ask for no places -/

/-- Whether the expression asks for no places and has no other sets than these. -/
def isBuiltOf (allowed : CharSet → Bool) : Expression → Bool
  | empty => true
  | one set => allowed set
  | condition _ => false
  | group _ inner => inner.isBuiltOf allowed
  | concat first second => first.isBuiltOf allowed && second.isBuiltOf allowed
  | either first second => first.isBuiltOf allowed && second.isBuiltOf allowed
  | loop inner _ _ _ => inner.isBuiltOf allowed

theorem conditions_of_isBuiltOf {allowed : CharSet → Bool}
    (isBuilt : expression.isBuiltOf allowed = true) : expression.conditions = [] := by
  induction expression with
  | empty => rfl
  | one set => rfl
  | condition place => cases isBuilt
  | group index inner induction => exact induction isBuilt
  | concat first second isFirst isSecond =>
      obtain ⟨firstBuilt, secondBuilt⟩ := Bool.and_eq_true_iff.mp isBuilt
      rw [conditions, isFirst firstBuilt, isSecond secondBuilt, List.append_nil]
  | either first second isFirst isSecond =>
      obtain ⟨firstBuilt, secondBuilt⟩ := Bool.and_eq_true_iff.mp isBuilt
      rw [conditions, isFirst firstBuilt, isSecond secondBuilt, List.append_nil]
  | loop inner least most greedy induction => exact induction isBuilt

theorem allowed_of_mem_sets {allowed : CharSet → Bool} {set : CharSet}
    (isBuilt : expression.isBuiltOf allowed = true) (member : set ∈ expression.sets) :
    allowed set = true := by
  induction expression with
  | empty => cases member
  | one own => exact List.mem_singleton.mp member ▸ isBuilt
  | condition place => cases isBuilt
  | group index inner induction => exact induction isBuilt member
  | concat first second isFirst isSecond =>
      obtain ⟨firstBuilt, secondBuilt⟩ := Bool.and_eq_true_iff.mp isBuilt
      exact (List.mem_append.mp member).elim (isFirst firstBuilt) (isSecond secondBuilt)
  | either first second isFirst isSecond =>
      obtain ⟨firstBuilt, secondBuilt⟩ := Bool.and_eq_true_iff.mp isBuilt
      exact (List.mem_append.mp member).elim (isFirst firstBuilt) (isSecond secondBuilt)
  | loop inner least most greedy induction => exact induction isBuilt member

variable {allowed : CharSet → Bool} {tail : List Char}

/-- In a longer text the expression finds the same from a place, as long as it cannot get into what
was added behind. -/
theorem matchAt_cases (isBuilt : expression.isBuiltOf allowed = true)
    (rejects : ∀ set, allowed set = true → ∀ character ∈ tail.head?,
      set.contains character = false) (whole rest : List Char) {cursor : Cursor}
    (remains : cursor.rest = rest ++ tail) (position : cursor.position = whole.length) :
    (expression.matchAt? (.start rest) = none ∧ expression.matchAt? cursor = none) ∨
      ∃ hit found, expression.matchAt? (.start rest) = some hit ∧
        expression.matchAt? cursor = some found ∧
        found.reading (whole ++ rest ++ tail) = hit.reading rest ∧
        found.behind.rest = hit.behind.rest ++ tail := by
  have begins : (Attempt.start (.start rest)).Shifts (fun _ => ()) whole.length tail
      (.start cursor) := ⟨rfl, remains, position.trans (Nat.zero_add _).symm, rfl⟩
  have keeps : Keeps (fun outcome => tail <:+ outcome.rest) expression.outcomes := by
    refine keeps_outcomes (fun set member outcome isSuffix accepts => ?_)
      fun _ _ _ isSuffix => ⟨isSuffix, isSuffix⟩
    obtain ⟨_ | ⟨character, run⟩, here⟩ := isSuffix
    · rw [← here, List.nil_append] at accepts
      obtain ⟨character, isHead, accepts⟩ := (Option.any_eq_true _ _).mp accepts
      rw [rejects set (allowed_of_mem_sets isBuilt member) character isHead] at accepts
      cases accepts
    · rw [rest_next, ← here, List.cons_append, List.tail_cons]
      exact List.suffix_append run tail
  have spares : ∀ found, expression.matchAt? cursor = some found →
      tail.length ≤ found.behind.rest.length := by
    intro found isFound
    obtain ⟨outcome, member, rfl⟩ := of_matchAt isFound
    have isSuffix : tail <:+ (Attempt.start cursor).rest := ⟨rest, remains.symm⟩
    exact (keeps _ isSuffix outcome member).length_le
  have noPlaces := conditions_of_isBuiltOf isBuilt
  have related := expression.matchAt_contained whole
    (fun place member => by rw [noPlaces] at member; cases member) begins spares
  exact related.imp_right fun ⟨hit, found, isHit, isFound, reading, remains, _⟩ =>
    ⟨hit, found, isHit, isFound, reading, remains⟩

/-- What all matches in a text say, one behind the other. -/
def readings (expression : Expression) (text : List Char) : List Reading :=
  match expression.matchAt? (.start text) with
  | some found =>
      found.reading text ::
        if found.behind.rest.length < text.length then expression.readings found.behind.rest else []
  | none =>
      match text with
      | [] => []
      | _ :: rest => expression.readings rest
termination_by text.length

theorem readings_of_some (needs : expression.isNullable = false) {found : Match}
    (isFound : expression.matchAt? (.start text) = some found) :
    expression.readings text = found.reading text :: expression.readings found.behind.rest := by
  have shorter : found.behind.rest.length < text.length := matchAt_shorter needs isFound
  rw [readings.eq_def, isFound]
  simp only [if_pos shorter]

theorem readings_of_none {character : Char} {rest : List Char}
    (nothing : expression.matchAt? (.start (character :: rest)) = none) :
    expression.readings (character :: rest) = expression.readings rest := by
  rw [readings.eq_def, nothing]

theorem readings_nil (needs : expression.isNullable = false) : expression.readings [] = [] := by
  cases isFound : expression.matchAt? (.start []) with
  | none => rw [readings.eq_def, isFound]
  | some found => exact absurd (matchAt_shorter needs isFound) (Nat.not_lt_zero _)

theorem readings_eq_nil_iff (needs : expression.isNullable = false) :
    expression.readings text = [] ↔
      ∀ late, late <:+ text → expression.matchAt? (.start late) = none := by
  induction text with
  | nil =>
      refine iff_of_true (readings_nil needs) fun late isSuffix => ?_
      rw [List.suffix_nil.mp isSuffix]
      refine Option.eq_none_iff_forall_ne_some.mpr fun found isFound => ?_
      exact absurd (matchAt_shorter needs isFound) (Nat.not_lt_zero _)
  | cons character rest induction =>
      cases isFound : expression.matchAt? (.start (character :: rest)) with
      | none =>
          rw [readings_of_none isFound, induction]
          refine forall_congr' fun late => ⟨fun nothing isSuffix => ?_, fun nothing isSuffix =>
            nothing (isSuffix.trans (List.suffix_cons _ _))⟩
          rcases List.suffix_cons_iff.mp isSuffix with rfl | isLater
          · exact isFound
          · exact nothing isLater
      | some found =>
          rw [readings_of_some needs isFound]
          refine iff_of_false (List.cons_ne_nil _ _) fun nothing => ?_
          rw [nothing _ (List.suffix_refl _)] at isFound
          cases isFound

/-- A scan of a text with a mark that no match gets across is a scan before it and one behind. -/
theorem readings_append (needs : expression.isNullable = false)
    (isBuilt : expression.isBuiltOf allowed = true)
    (rejects : ∀ set, allowed set = true → ∀ character ∈ tail.head?,
      set.contains character = false) (text : List Char) :
    expression.readings (text ++ tail) = expression.readings text ++ expression.readings tail := by
  induction size : text.length using Nat.strongRecOn generalizing text with
  | ind length induction =>
      have begins : (Cursor.start (text ++ tail)).rest = text ++ tail := rfl
      rcases matchAt_cases isBuilt rejects [] text begins rfl with
        ⟨isHit, isFound⟩ | ⟨hit, found, isHit, isFound, reading, remains⟩
      · cases text with
        | nil => rw [readings_nil needs, List.nil_append, List.nil_append]
        | cons character rest =>
            have nothing : expression.matchAt? (.start (character :: (rest ++ tail))) = none :=
              isFound
            rw [readings_of_none isHit, List.cons_append, readings_of_none nothing]
            exact induction rest.length (size ▸ Nat.lt_succ_self _) rest rfl
      · have later := induction _ (size ▸ matchAt_shorter needs isHit) hit.behind.rest rfl
        rw [readings_of_some needs isHit, readings_of_some needs isFound, remains, later,
          List.cons_append]
        exact congrArg (· :: _) reading

/-- Whether a scan finds all matches of the expression. -/
structure IsScannable (expression : Expression) : Prop where
  productive : expression.IsProductive
  needs : expression.isNullable = false
  isBuilt : expression.isBuiltOf (fun _ => true) = true

/-- What precedes a place makes no difference to a scan from there. -/
theorem IsScannable.readingsAt_eq (scannable : expression.IsScannable) (before : Option Char)
    (text : List Char) : expression.readingsAt before text = expression.readings text := by
  induction size : text.length using Nat.strongRecOn generalizing before text with
  | ind length induction =>
      have here : (Cursor.mk before text 0).rest = text ++ [] := (List.append_nil _).symm
      have nothingBehind : ∀ set : CharSet, true = true → ∀ character ∈ ([] : List Char).head?,
          set.contains character = false :=
        fun _ _ character isHead => absurd isHead (Option.not_mem_none character)
      rcases matchAt_cases scannable.isBuilt nothingBehind [] text here rfl with
        ⟨isHit, isFound⟩ | ⟨hit, found, isHit, isFound, reading, remains⟩
      · cases text with
        | nil => rw [readings_nil scannable.needs, readingsAt_nil scannable.needs]
        | cons character rest =>
            rw [readings_of_none isHit, readingsAt_of_none isFound]
            exact induction rest.length (size ▸ Nat.lt_succ_self _) _ rest rfl
      · have later := induction _ (size ▸ matchAt_shorter scannable.needs isFound)
          found.behind.before found.behind.rest rfl
        rw [List.nil_append, List.append_nil] at reading
        rw [List.append_nil] at remains
        rw [readings_of_some scannable.needs isHit, readingsAt_of_some scannable.needs isFound,
          later, reading, remains]

/-! ## Lines -/

theorem isBuiltOf_weaken {allowed wider : CharSet → Bool}
    (isWider : ∀ set, allowed set = true → wider set = true)
    (isBuilt : expression.isBuiltOf allowed = true) : expression.isBuiltOf wider = true := by
  induction expression with
  | empty => rfl
  | one set => exact isWider set isBuilt
  | condition place => exact isBuilt
  | group index inner induction => exact induction isBuilt
  | concat first second isFirst isSecond =>
      obtain ⟨firstBuilt, secondBuilt⟩ := Bool.and_eq_true_iff.mp isBuilt
      exact Bool.and_eq_true_iff.mpr ⟨isFirst firstBuilt, isSecond secondBuilt⟩
  | either first second isFirst isSecond =>
      obtain ⟨firstBuilt, secondBuilt⟩ := Bool.and_eq_true_iff.mp isBuilt
      exact Bool.and_eq_true_iff.mpr ⟨isFirst firstBuilt, isSecond secondBuilt⟩
  | loop inner least most greedy induction => exact induction isBuilt

/-- Whether no match of the expression has a line feed. -/
structure IsInLine (expression : Expression) : Prop where
  productive : expression.IsProductive
  needs : expression.isNullable = false
  isBuilt : expression.isBuiltOf (fun set => !set.contains '\n') = true

theorem IsInLine.isScannable (inLine : expression.IsInLine) : expression.IsScannable where
  productive := inLine.productive
  needs := inLine.needs
  isBuilt := isBuiltOf_weaken (fun _ _ => rfl) inLine.isBuilt

/-- A text is scanned line by line. -/
theorem IsInLine.readings_line (inLine : expression.IsInLine) (line rest : List Char) :
    expression.readings (line ++ '\n' :: rest) =
      expression.readings line ++ expression.readings rest := by
  have rejects : ∀ set : CharSet, (!set.contains '\n') = true →
      ∀ character ∈ ('\n' :: rest).head?, set.contains character = false := by
    intro set excludes character isHead
    cases isHead
    exact Bool.not_inj excludes
  rw [readings_append inLine.needs inLine.isBuilt rejects]
  have here : (Cursor.start ('\n' :: rest)).rest = [] ++ '\n' :: rest := rfl
  rcases matchAt_cases inLine.isBuilt rejects [] [] here rfl with
    ⟨-, nothing⟩ | ⟨hit, -, isHit, -⟩
  · rw [readings_of_none nothing]
  · exact absurd (matchAt_shorter inLine.needs isHit) (Nat.not_lt_zero _)

end Expression

/-- All matches of a pattern are those of a scan. -/
theorem map_findAll_at {expression : Expression} (productive : expression.IsProductive)
    (needs : expression.isNullable = false) (names : List (String × Nat)) (text : List Char) :
    ((ofExpression expression names).findAll text).map (Match.reading text) =
      expression.readingsAt none text :=
  expression.map_findAllWithin productive needs _ (Cursor.isIn_start text) none (by
    change text.length < _
    omega)

/-- The match that a search finds is the first one of a scan. -/
theorem map_find?_at {expression : Expression} (productive : expression.IsProductive)
    (needs : expression.isNullable = false) (names : List (String × Nat)) (text : List Char) :
    ((ofExpression expression names).find? text).map (Match.reading text) =
      (expression.readingsAt none text).head? := by
  have inside := Cursor.isIn_start text
  obtain ⟨ends, goesOn⟩ := Expression.readingsAt_matchFrom needs inside
  have isSearch : (ofExpression expression names).find? text =
      expression.matchFrom? none 0 text :=
    Program.find?_ofExpression productive inside
  rw [isSearch]
  cases isFound : expression.matchFrom? none 0 text with
  | none => rw [ends isFound, Option.map_none, List.head?_nil]
  | some found =>
      obtain ⟨-, -, -, readings⟩ := goesOn found isFound
      rw [readings, Option.map_some, List.head?_cons]

theorem map_find? {expression : Expression} (scannable : expression.IsScannable)
    (names : List (String × Nat)) (text : List Char) :
    ((ofExpression expression names).find? text).map (Match.reading text) =
      (expression.readings text).head? :=
  (map_find?_at scannable.productive scannable.needs names text).trans
    (congrArg List.head? (scannable.readingsAt_eq none text))

end Grading.Pattern
