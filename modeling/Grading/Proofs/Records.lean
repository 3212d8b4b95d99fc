import Grading.Json.Reader
import Grading.Proofs.Tokens
import Mathlib.Data.List.Nodup
import Mathlib.Data.List.Perm.Basic

namespace Grading.Json

/-! Records that are read from objects. What is read depends on what is known of the members,
neither on their order nor on members with other names. -/

variable {fields : List Field} {known other : Fields}
  {members others : List (Option String × Document)} {seen : List String} {name : String}
  {document : Document} {field : Field}

/-! ## Known members -/

/-- What is known of a member: its name and its value, if a field has that name. -/
def knownMember? (fields : List Field) (member : Option String × Document) :
    Option (String × Document) := do
  let name ← member.1
  let _ ← fields.find? (·.name == name)
  return (name, member.2)

def knownOf (fields : List Field) (members : List (Option String × Document)) : Fields :=
  members.filterMap (knownMember? fields)

/-- Whether all members have names, and those with unknown names can be skipped. -/
def AreReadable (fields : List Field) (members : List (Option String × Document)) : Prop :=
  ∀ member ∈ members, ∃ name, member.1 = some name ∧
    (fields.find? (·.name == name) = none → member.2.skip = .ok ())

/-- Whether the known members pass the checks of their fields, no name comes twice, and none of them
is among those seen before. -/
structure AreValid (fields : List Field) (seen : List String) (known : Fields) : Prop where
  checks : ∀ member ∈ known, ∃ field, fields.find? (·.name == member.1) = some field ∧
    field.check member.2 = .ok ()
  once : (known.map Prod.fst).Nodup
  new : ∀ member ∈ known, member.1 ∉ seen

theorem knownOf_cons_unknown (unknown : fields.find? (·.name == name) = none) :
    knownOf fields ((some name, document) :: members) = knownOf fields members := by
  rw [knownOf, List.filterMap_cons, knownMember?]
  simp [unknown, knownOf]

theorem knownOf_cons_known (isKnown : fields.find? (·.name == name) = some field) :
    knownOf fields ((some name, document) :: members) =
      (name, document) :: knownOf fields members := by
  rw [knownOf, List.filterMap_cons, knownMember?]
  simp [isKnown, knownOf]

theorem areReadable_cons : AreReadable fields ((some name, document) :: members) ↔
    (fields.find? (·.name == name) = none → document.skip = .ok ()) ∧
      AreReadable fields members := by
  rw [AreReadable, List.forall_mem_cons]
  refine and_congr_left fun _ => ⟨fun ⟨_, isName, skips⟩ => ?_, fun skips => ⟨name, rfl, skips⟩⟩
  cases isName
  exact skips

theorem areValid_cons (isKnown : fields.find? (·.name == name) = some field) :
    AreValid fields seen ((name, document) :: known) ↔
      field.check document = .ok () ∧ name ∉ seen ∧ AreValid fields (name :: seen) known := by
  constructor
  · rintro ⟨checks, once, new⟩
    rw [List.map_cons, List.nodup_cons] at once
    rcases List.forall_mem_cons.mp checks with ⟨⟨found, isFound, check⟩, areChecked⟩
    rcases List.forall_mem_cons.mp new with ⟨isNew, areNew⟩
    cases isKnown.symm.trans isFound
    refine ⟨check, isNew, areChecked, once.2, fun member isMember => ?_⟩
    rw [List.mem_cons, not_or]
    refine ⟨fun same => once.1 ?_, areNew member isMember⟩
    exact List.mem_map.mpr ⟨member, isMember, same⟩
  · rintro ⟨check, isNew, checks, once, new⟩
    refine ⟨List.forall_mem_cons.mpr ⟨⟨field, isKnown, check⟩, checks⟩, ?_, ?_⟩
    · refine List.nodup_cons.mpr ⟨fun isMember => ?_, once⟩
      rcases List.mem_map.mp isMember with ⟨member, isMember, isName⟩
      exact new member isMember (isName ▸ List.mem_cons_self)
    · exact List.forall_mem_cons.mpr ⟨isNew, fun member isMember inSeen =>
        new member isMember (List.mem_cons_of_mem name inSeen)⟩

theorem knownMembers_cons_unknown (unknown : fields.find? (·.name == name) = none) :
    knownMembers fields seen ((some name, document) :: members) = .ok known ↔
      document.skip = .ok () ∧ knownMembers fields seen members = .ok known := by
  rw [knownMembers, unknown]
  dsimp only
  rw [bind_eq_ok_iff]
  exact ⟨fun ⟨_, skips, isKnown⟩ => ⟨skips, isKnown⟩, fun ⟨skips, isKnown⟩ => ⟨(), skips, isKnown⟩⟩

theorem knownMembers_cons_known (isKnown : fields.find? (·.name == name) = some field) :
    knownMembers fields seen ((some name, document) :: members) = .ok known ↔
      name ∉ seen ∧ field.check document = .ok () ∧
        ∃ rest, knownMembers fields (name :: seen) members = .ok rest ∧
          (name, document) :: rest = known := by
  rw [knownMembers, isKnown]
  dsimp only
  split
  · rename_i isSeen
    exact iff_of_false nofun fun ⟨isNew, _⟩ => isNew (List.contains_iff_mem.mp isSeen)
  · rename_i isNew
    rw [bind_eq_ok_iff]
    constructor
    · rintro ⟨_, check, isRest⟩
      rcases bind_eq_ok_iff.mp isRest with ⟨rest, isRest, same⟩
      exact ⟨fun inSeen => isNew (List.contains_iff_mem.mpr inSeen), check, rest, isRest,
        Except.ok.inj same⟩
    · rintro ⟨-, check, rest, isRest, rfl⟩
      exact ⟨(), check, bind_eq_ok isRest rfl⟩

theorem knownMembers_eq_ok_iff : knownMembers fields seen members = .ok known ↔
    AreReadable fields members ∧ known = knownOf fields members ∧ AreValid fields seen known := by
  induction members generalizing seen known with
  | nil =>
      rw [knownMembers]
      constructor
      · intro isNil
        cases isNil
        exact ⟨List.forall_mem_nil _, rfl, List.forall_mem_nil _, List.nodup_nil,
          List.forall_mem_nil _⟩
      · rintro ⟨-, rfl, -⟩
        rfl
  | cons member members induction =>
      rcases member with ⟨_ | name, document⟩
      · refine iff_of_false nofun ?_
        rintro ⟨readable, -⟩
        rcases readable _ List.mem_cons_self with ⟨_, nameless, -⟩
        cases nameless
      · rw [areReadable_cons]
        cases isFound : fields.find? (·.name == name) with
        | none =>
            rw [knownMembers_cons_unknown isFound, knownOf_cons_unknown isFound, induction]
            simp only [true_imp_iff, and_assoc]
        | some field =>
            rw [knownMembers_cons_known isFound, knownOf_cons_known isFound]
            constructor
            · rintro ⟨isNew, check, rest, isRest, rfl⟩
              rcases induction.mp isRest with ⟨readable, rfl, valid⟩
              exact ⟨⟨nofun, readable⟩, rfl, (areValid_cons isFound).mpr ⟨check, isNew, valid⟩⟩
            · rintro ⟨⟨-, readable⟩, rfl, valid⟩
              rcases (areValid_cons isFound).mp valid with ⟨check, isNew, valid⟩
              exact ⟨isNew, check, _, induction.mpr ⟨readable, rfl, valid⟩, rfl⟩

/-! ## Lookups -/

theorem lookup_eq_some_iff_mem (once : (known.map Prod.fst).Nodup) :
    known.lookup name = some document ↔ (name, document) ∈ known := by
  induction known with
  | nil => exact iff_of_false nofun List.not_mem_nil
  | cons member known induction =>
      rcases member with ⟨other, value⟩
      rcases List.nodup_cons.mp once with ⟨absent, once⟩
      rw [List.lookup_cons, List.mem_cons, Prod.mk.injEq]
      by_cases same : name = other
      · subst same
        have isFirst : (name, document) ∉ known := fun isMember =>
          absent (List.mem_map.mpr ⟨_, isMember, rfl⟩)
        rw [beq_self_eq_true]
        simp [isFirst, eq_comm]
      · rw [beq_eq_false_iff_ne.mpr same]
        simp only [same, false_and, false_or]
        exact induction once

theorem lookup_eq_of_perm (once : (known.map Prod.fst).Nodup) (perm : known.Perm other)
    (name : String) : known.lookup name = other.lookup name := by
  have onceToo := (perm.map Prod.fst).nodup_iff.mp once
  ext document
  rw [lookup_eq_some_iff_mem once, lookup_eq_some_iff_mem onceToo, perm.mem_iff]

theorem AreValid.perm (valid : AreValid fields seen known) (perm : known.Perm other) :
    AreValid fields seen other where
  checks member isMember := valid.checks member (perm.mem_iff.mpr isMember)
  once := (perm.map Prod.fst).nodup_iff.mp valid.once
  new member isMember := valid.new member (perm.mem_iff.mpr isMember)

/-! ## Fields in their order -/

theorem find?_name (once : (fields.map Field.name).Nodup) (isField : field ∈ fields) :
    fields.find? (·.name == field.name) = some field := by
  induction fields with
  | nil => cases isField
  | cons first fields induction =>
      rcases List.nodup_cons.mp once with ⟨absent, once⟩
      rcases List.mem_cons.mp isField with rfl | isLater
      · exact List.find?_cons_of_pos (beq_self_eq_true _)
      · have different : first.name ≠ field.name := fun same =>
          absent (same ▸ List.mem_map_of_mem isLater)
        rw [List.find?_cons_of_neg (by simpa using different), induction once isLater]

theorem Field.check_of {α : Type} {read : Reader α} {value : α}
    (isRead : read document = .ok value) (name : String) :
    (Field.of name read).check document = .ok () := by
  change (read document).map _ = _
  rw [isRead]
  rfl

/-- Members in the order of the fields that have their names. -/
def Follow (known : Fields) (fields : List Field) : Prop :=
  List.Forall₂ (fun member field => member.1 = field.name ∧ field.check member.2 = .ok ())
    known fields

theorem Follow.map_fst (follow : Follow known fields) :
    known.map Prod.fst = fields.map Field.name := by
  induction follow with
  | nil => rfl
  | cons fits _ induction => rw [List.map_cons, List.map_cons, fits.1, induction]

theorem Follow.exists_field (follow : Follow known fields) {member : String × Document}
    (isMember : member ∈ known) :
    ∃ field ∈ fields, member.1 = field.name ∧ field.check member.2 = .ok () := by
  induction follow with
  | nil => cases isMember
  | cons fits _ induction =>
      rcases List.mem_cons.mp isMember with rfl | isLater
      · exact ⟨_, List.mem_cons_self, fits⟩
      · rcases induction isLater with ⟨field, isField, fits⟩
        exact ⟨field, List.mem_cons_of_mem _ isField, fits⟩

theorem Follow.areValid (follow : Follow known fields) (once : (fields.map Field.name).Nodup) :
    AreValid fields [] known where
  checks member isMember := by
    rcases follow.exists_field isMember with ⟨field, isField, isName, check⟩
    exact ⟨field, isName ▸ find?_name once isField, check⟩
  once := follow.map_fst ▸ once
  new _ _ := List.not_mem_nil

theorem AreValid.knownOf_map (valid : AreValid fields seen known) :
    knownOf fields (known.map fun member => (some member.1, member.2)) = known := by
  rw [knownOf, List.filterMap_map]
  refine (List.filterMap_congr fun member isMember => ?_).trans List.filterMap_some
  rcases valid.checks member isMember with ⟨field, isFound, -⟩
  rw [Function.comp_apply, knownMember?]
  simp [isFound]

/-! ## Records -/

namespace Reader

variable {α : Type} {leastPositional : Nat} {build : Fields → Except Fault α} {value : α}

theorem record_object_eq_ok_iff :
    record fields leastPositional build (.object members none) = .ok value ↔
      AreReadable fields members ∧ AreValid fields [] (knownOf fields members) ∧
        build (knownOf fields members) = .ok value := by
  rw [record, bind_eq_ok_iff]
  constructor
  · rintro ⟨known, isKnown, isBuilt⟩
    rcases knownMembers_eq_ok_iff.mp isKnown with ⟨readable, rfl, valid⟩
    exact ⟨readable, valid, isBuilt⟩
  · rintro ⟨readable, valid, isBuilt⟩
    exact ⟨_, knownMembers_eq_ok_iff.mpr ⟨readable, rfl, valid⟩, isBuilt⟩

/-- Whatever a record is read from, it was built. -/
theorem exists_of_record (isRead : record fields leastPositional build document = .ok value) :
    ∃ given, build given = .ok value := by
  cases document with
  | object members ending =>
      rcases bind_eq_ok_iff.mp isRead with ⟨known, -, isBuilt⟩
      cases ending with
      | none => exact ⟨known, isBuilt⟩
      | some fault => cases isBuilt
  | array elements ending =>
      rcases bind_eq_ok_iff.mp isRead with ⟨⟨known, extra⟩, -, isBuilt⟩
      refine ⟨known, ?_⟩
      cases ending <;> cases built : build known <;> simp only [built] at isBuilt <;>
        repeat' split at isBuilt
      all_goals cases isBuilt
      all_goals rfl
  | _ => cases isRead

/-- An object that has the members of a record in their order. -/
theorem record_of_follow (known : Fields) (once : (fields.map Field.name).Nodup)
    (follow : Follow known fields) (isBuilt : build known = .ok value) :
    record fields leastPositional build
      (.object (known.map fun member => (some member.1, member.2)) none) = .ok value := by
  have valid := follow.areValid once
  refine record_object_eq_ok_iff.mpr ⟨?_, ?_, ?_⟩
  · intro given isGiven
    rcases List.mem_map.mp isGiven with ⟨member, isMember, rfl⟩
    rcases valid.checks member isMember with ⟨field, isFound, -⟩
    exact ⟨member.1, rfl, fun unknown => nomatch unknown.symm.trans isFound⟩
  · rwa [valid.knownOf_map]
  · rwa [valid.knownOf_map]

/-- What a required field is read from. -/
theorem exists_of_required {given : Fields} {read : Reader α}
    (isRead : given.required name read = .ok value) : ∃ document, read document = .ok value := by
  unfold Fields.required at isRead
  split at isRead
  · exact ⟨_, isRead⟩
  · cases isRead

theorem exists_of_withDefault {given : Fields} {read : Reader α} {default : α}
    (isRead : given.withDefault name read default = .ok value) :
    value = default ∨ ∃ document, read document = .ok value := by
  unfold Fields.withDefault at isRead
  split at isRead
  · exact .inr ⟨_, isRead⟩
  · exact .inl (Except.ok.inj isRead).symm

theorem lt_of_natural {bound value : Nat} (isRead : natural bound document = .ok value) :
    value < bound := by
  unfold natural at isRead
  split at isRead
  · split at isRead
    · rename_i below
      exact Except.ok.inj isRead ▸ below
    · cases isRead
  · cases isRead

theorem exists_of_elements {read : Reader α} {ending : Option Fault} {documents : List Document}
    {items : List α} (isRead : elements read ending documents = .ok items) :
    ∀ item ∈ items, ∃ document, read document = .ok item := by
  induction documents generalizing items with
  | nil =>
      cases ending with
      | none => cases isRead; exact List.forall_mem_nil _
      | some fault => cases isRead
  | cons document documents induction =>
      rcases bind_eq_ok_iff.mp isRead with ⟨first, isFirst, isRead⟩
      rcases bind_eq_ok_iff.mp isRead with ⟨others, areOthers, isRead⟩
      cases isRead
      exact List.forall_mem_cons.mpr ⟨⟨document, isFirst⟩, induction areOthers⟩

theorem exists_of_list {read : Reader α} {items : List α}
    (isRead : list read document = .ok items) :
    ∀ item ∈ items, ∃ document, read document = .ok item := by
  cases document with
  | array documents ending => exact exists_of_elements isRead
  | _ => cases isRead

/-- A record depends neither on the order of its members nor on unknown ones. -/
theorem record_object_of_perm
    (looksUp : ∀ given known : Fields, (∀ name, given.lookup name = known.lookup name) →
      build given = build known)
    (perm : (knownOf fields members).Perm (knownOf fields others))
    (readable : AreReadable fields others)
    (isRead : record fields leastPositional build (.object members none) = .ok value) :
    record fields leastPositional build (.object others none) = .ok value := by
  rcases record_object_eq_ok_iff.mp isRead with ⟨-, valid, isBuilt⟩
  refine record_object_eq_ok_iff.mpr ⟨readable, valid.perm perm, ?_⟩
  rw [← looksUp _ _ (lookup_eq_of_perm valid.once perm), isBuilt]

end Reader

end Grading.Json
