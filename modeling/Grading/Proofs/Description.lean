import Grading.Environment
import Grading.Proofs.Documents
import Grading.Proofs.Records

namespace Grading

open Json (Field Fields Reader Value Document AreReadable bind_eq_ok bind_eq_ok_iff knownOf)

/-! Environments and the documents that describe them. What is written of an environment is read as
that environment, however the members of the document are arranged and whatever else it has. -/

/-! ## Reading what is written -/

theorem Json.Reader.list_document {α : Type} {read : Reader α} {toValue : α → Value}
    {items : List α} (reads : ∀ item ∈ items, read (toValue item).document = .ok item) :
    Reader.list read (Value.array (items.map toValue)).document = .ok items := by
  rw [Value.document, Value.elementDocuments_eq, Reader.list]
  induction items with
  | nil => rfl
  | cons item items induction =>
      rcases List.forall_mem_cons.mp reads with ⟨isFirst, areLater⟩
      exact bind_eq_ok isFirst (bind_eq_ok (induction areLater) rfl)

theorem TemplateAttribute.read_document (item : TemplateAttribute) :
    TemplateAttribute.read item.toValue.document = .ok item := rfl

theorem ErrorTemplate.read_document {template : ErrorTemplate} (below : template.id < wordBound) :
    ErrorTemplate.read template.toValue.document = .ok template := by
  have number : readNumber (.number (.natural template.id)) = .ok template.id := if_pos below
  have attributes : Reader.list TemplateAttribute.read
      (Value.array (template.attributes.map TemplateAttribute.toValue)).document =
        .ok template.attributes := Reader.list_document fun item _ => item.read_document
  refine Reader.record_of_follow [("id", _), ("name", _), ("signature", _), ("attributes", _)]
    (by decide) ?_ ?_
  · exact .cons ⟨rfl, Field.check_of number _⟩ (.cons ⟨rfl, rfl⟩ (.cons ⟨rfl, rfl⟩
      (.cons ⟨rfl, Field.check_of attributes _⟩ .nil)))
  · exact bind_eq_ok number (bind_eq_ok rfl (bind_eq_ok rfl (bind_eq_ok attributes rfl)))

theorem TemplateAttribute.isExact_toValue (item : TemplateAttribute) : item.toValue.IsExact := by
  refine .object _ ?_
  simp only [List.forall_mem_cons]
  exact ⟨.text _, .text _, List.forall_mem_nil _⟩

theorem ErrorTemplate.isExact_toValue {template : ErrorTemplate} (below : template.id < wordBound) :
    template.toValue.IsExact := by
  have attributes : (Value.array (template.attributes.map TemplateAttribute.toValue)).IsExact :=
    .array _ (List.forall_mem_map.mpr fun item _ => item.isExact_toValue)
  refine .object _ ?_
  simp only [List.forall_mem_cons]
  exact ⟨.natural _ below, .text _, .text _, attributes, List.forall_mem_nil _⟩

theorem ErrorTemplate.lt_of_read {template : ErrorTemplate} {document : Document}
    (isRead : read document = .ok template) : template.id < wordBound := by
  rcases Reader.exists_of_record isRead with ⟨given, isBuilt⟩
  rcases bind_eq_ok_iff.mp isBuilt with ⟨id, isId, isBuilt⟩
  rcases bind_eq_ok_iff.mp isBuilt with ⟨name, -, isBuilt⟩
  rcases bind_eq_ok_iff.mp isBuilt with ⟨signature, -, isBuilt⟩
  rcases bind_eq_ok_iff.mp isBuilt with ⟨attributes, -, isBuilt⟩
  cases isBuilt
  rcases Reader.exists_of_required isId with ⟨_, isNumber⟩
  exact Reader.lt_of_natural isNumber

namespace Environment

variable {environment : Environment}

/-- Whether the numbers of the environment are those that can be read. -/
structure IsSized (environment : Environment) : Prop where
  id : environment.id < wordBound
  permittedSeconds : environment.permittedSeconds < wordBound
  poolSize : environment.poolSize < countBound
  templates : ∀ template ∈ environment.errorTemplates, template.id < wordBound

theorem once_fields : (fields.map Field.name).Nodup := by decide

theorem IsSized.read_document (isSized : environment.IsSized) :
    read environment.toValue.document = .ok environment := by
  have id : readNumber (.number (.natural environment.id)) = .ok environment.id :=
    if_pos isSized.id
  have testCommand : Reader.optional CommandTemplate.read (Value.optional
      (fun command => .text command.text) environment.testCommand).document =
        .ok environment.testCommand := by
    cases environment.testCommand <;> rfl
  have testingFramework : Reader.optional Reader.text
      (Value.optional .text environment.testingFramework).document =
        .ok environment.testingFramework := by
    cases environment.testingFramework <;> rfl
  have permittedSeconds : readNumber (.number (.natural environment.permittedSeconds)) =
      .ok environment.permittedSeconds := if_pos isSized.permittedSeconds
  have poolSize : readCount (.number (.natural environment.poolSize)) = .ok environment.poolSize :=
    if_pos isSized.poolSize
  have errorTemplates : Reader.list ErrorTemplate.read
      (Value.array (environment.errorTemplates.map ErrorTemplate.toValue)).document =
        .ok environment.errorTemplates :=
    Reader.list_document fun template isTemplate =>
      ErrorTemplate.read_document (isSized.templates template isTemplate)
  refine Reader.record_of_follow [("id", _), ("name", _), ("docker_image", _), ("run_command", _),
    ("test_command", _), ("testing_framework", _), ("permitted_execution_time", _),
    ("pool_size", _), ("error_templates", _)] once_fields ?_ ?_
  · exact .cons ⟨rfl, Field.check_of id _⟩ (.cons ⟨rfl, rfl⟩ (.cons ⟨rfl, rfl⟩ (.cons ⟨rfl, rfl⟩
      (.cons ⟨rfl, Field.check_of testCommand _⟩ (.cons ⟨rfl, Field.check_of testingFramework _⟩
        (.cons ⟨rfl, Field.check_of permittedSeconds _⟩ (.cons ⟨rfl, Field.check_of poolSize _⟩
          (.cons ⟨rfl, Field.check_of errorTemplates _⟩ .nil))))))))
  · exact bind_eq_ok id (bind_eq_ok rfl (bind_eq_ok rfl (bind_eq_ok rfl (bind_eq_ok testCommand
      (bind_eq_ok testingFramework (bind_eq_ok permittedSeconds (bind_eq_ok poolSize
        (bind_eq_ok errorTemplates rfl))))))))

/-- Every environment that is read has such numbers. -/
theorem isSized_of_read {document : Document} (isRead : read document = .ok environment) :
    environment.IsSized := by
  rcases Reader.exists_of_record isRead with ⟨given, isBuilt⟩
  rcases bind_eq_ok_iff.mp isBuilt with ⟨id, isId, isBuilt⟩
  rcases bind_eq_ok_iff.mp isBuilt with ⟨name, -, isBuilt⟩
  rcases bind_eq_ok_iff.mp isBuilt with ⟨image, -, isBuilt⟩
  rcases bind_eq_ok_iff.mp isBuilt with ⟨runCommand, -, isBuilt⟩
  rcases bind_eq_ok_iff.mp isBuilt with ⟨testCommand, -, isBuilt⟩
  rcases bind_eq_ok_iff.mp isBuilt with ⟨testingFramework, -, isBuilt⟩
  rcases bind_eq_ok_iff.mp isBuilt with ⟨permittedSeconds, isPermitted, isBuilt⟩
  rcases bind_eq_ok_iff.mp isBuilt with ⟨poolSize, isSize, isBuilt⟩
  rcases bind_eq_ok_iff.mp isBuilt with ⟨errorTemplates, areTemplates, isBuilt⟩
  cases isBuilt
  refine ⟨?id, ?permittedSeconds, ?poolSize, ?templates⟩
  case id =>
    rcases Reader.exists_of_required isId with ⟨_, isNumber⟩
    exact Reader.lt_of_natural isNumber
  case permittedSeconds =>
    rcases Reader.exists_of_withDefault isPermitted with isDefault | ⟨_, isNumber⟩
    · exact isDefault ▸ (by decide : defaultPermittedSeconds < wordBound)
    · exact Reader.lt_of_natural isNumber
  case poolSize =>
    rcases Reader.exists_of_withDefault isSize with isDefault | ⟨_, isNumber⟩
    · exact isDefault ▸ (by decide : 0 < countBound)
    · exact Reader.lt_of_natural isNumber
  case templates =>
    rcases Reader.exists_of_withDefault areTemplates with areNone | ⟨_, isList⟩
    · exact areNone ▸ List.forall_mem_nil _
    · intro template isTemplate
      rcases Reader.exists_of_list isList template isTemplate with ⟨_, isRead⟩
      exact ErrorTemplate.lt_of_read isRead

/-! ## Arrangements -/

/-- The members of the document that describes the environment. -/
def members (environment : Environment) : List (String × Value) :=
  match environment.toValue with
  | .object members => members
  | _ => []

def isField (name : String) : Bool := (fields.find? (·.name == name)).isSome

/-- Whether the members are those of the environment in any order, among others that no field has
the names of. -/
structure Arranges (environment : Environment) (members : List (String × Value)) : Prop where
  known : (members.filter fun member => isField member.1).Perm environment.members
  unknown : ∀ member ∈ members, isField member.1 = false → member.2.IsExact

theorem isField_of_mem (environment : Environment) :
    ∀ member ∈ environment.members, isField member.1 = true := by
  have names : environment.members.map Prod.fst = fields.map Field.name := rfl
  intro member isMember
  have isName : member.1 ∈ fields.map Field.name := names ▸ List.mem_map_of_mem isMember
  rcases List.mem_map.mp isName with ⟨field, isField, same⟩
  rw [Environment.isField, ← same, Json.find?_name once_fields isField]
  rfl

theorem arranges_members (environment : Environment) :
    environment.Arranges environment.members where
  known := .of_eq (List.filter_eq_self.mpr environment.isField_of_mem)
  unknown member isMember isOther := by
    rw [environment.isField_of_mem member isMember] at isOther
    cases isOther

theorem knownOf_memberDocuments (members : List (String × Value)) :
    knownOf fields (Value.memberDocuments members) =
      (members.filter fun member => isField member.1).map
        fun member => (member.1, member.2.document) := by
  induction members with
  | nil => rfl
  | cons member members induction =>
      rw [Value.memberDocuments]
      cases isFound : fields.find? (·.name == member.1) with
      | none =>
          rw [Json.knownOf_cons_unknown isFound, induction,
            List.filter_cons_of_neg (by simp [isField, isFound])]
      | some field =>
          rw [Json.knownOf_cons_known isFound, induction,
            List.filter_cons_of_pos (by simp [isField, isFound]), List.map_cons]

theorem isExact_members (isSized : environment.IsSized) :
    ∀ member ∈ environment.members, member.2.IsExact := by
  have testCommand : (Value.optional (fun command => .text command.text)
      environment.testCommand).IsExact := by
    cases environment.testCommand with
    | none => exact .null
    | some command => exact .text _
  have testingFramework : (Value.optional .text environment.testingFramework).IsExact := by
    cases environment.testingFramework with
    | none => exact .null
    | some framework => exact .text _
  have poolSize : environment.poolSize < wordBound :=
    Nat.lt_trans isSized.poolSize (by decide)
  have errorTemplates :
      (Value.array (environment.errorTemplates.map ErrorTemplate.toValue)).IsExact :=
    .array _ (List.forall_mem_map.mpr fun template isTemplate =>
      ErrorTemplate.isExact_toValue (isSized.templates template isTemplate))
  simp only [members, toValue, List.forall_mem_cons]
  exact ⟨.natural _ isSized.id, .text _, .text _, .text _, testCommand, testingFramework,
    .natural _ isSized.permittedSeconds, .natural _ poolSize, errorTemplates,
    List.forall_mem_nil _⟩

theorem Arranges.isExact {members : List (String × Value)} (arranges : environment.Arranges members)
    (isSized : environment.IsSized) : (Value.object members).IsExact := by
  refine .object members fun member isMember => ?_
  cases isKnown : isField member.1 with
  | false => exact arranges.unknown member isMember isKnown
  | true =>
      have isFiltered : member ∈ members.filter fun member => isField member.1 :=
        List.mem_filter.mpr ⟨isMember, isKnown⟩
      exact isExact_members isSized member (arranges.known.mem_iff.mp isFiltered)

/-- What is read of an object depends on the known members only, and not on their order. -/
theorem read_congr (given other : List (Option String × Document))
    (perm : (knownOf fields given).Perm (knownOf fields other))
    (readable : AreReadable fields other) (isRead : read (.object given none) = .ok environment) :
    read (.object other none) = .ok environment := by
  refine Reader.record_object_of_perm (fun given known same => ?_) perm readable isRead
  simp only [Fields.required, Fields.optional, Fields.withDefault, same]

theorem Arranges.read_document {members : List (String × Value)}
    (arranges : environment.Arranges members) (isSized : environment.IsSized) :
    read (Value.object members).document = .ok environment := by
  refine read_congr (Value.memberDocuments environment.members) _ ?_ ?_ isSized.read_document
  · rw [knownOf_memberDocuments, knownOf_memberDocuments]
    exact (environment.arranges_members.known.trans arranges.known.symm).map _
  · rw [Value.memberDocuments_eq]
    intro given isGiven
    rcases List.mem_map.mp isGiven with ⟨member, isMember, rfl⟩
    refine ⟨member.1, rfl, fun isUnknown => ?_⟩
    exact (arranges.unknown member isMember (by rw [isField, isUnknown]; rfl)).skip_document

/-- Whatever spaces there are between the tokens of a text: if it has the members of an environment
in some order, among unknown ones, it is read as that environment. -/
theorem Arranges.run_eq {members : List (String × Value)} (arranges : environment.Arranges members)
    (isSized : environment.IsSized) {text : String}
    (same : Json.tokens text.toList = (Value.object members).written) :
    Reader.run read text = .ok environment := by
  rw [Reader.run_eq read ((arranges.isExact isSized).ofText_eq same),
    arranges.read_document isSized]

/-- What comes of reading the documents that describe the environment. -/
structure IsReproduced (environment : Environment) : Prop where
  compact : Reader.run read environment.toValue.toText = .ok environment
  indented : Reader.run read environment.toValue.toIndentedText = .ok environment
  /-- The members can stand in any order, among others, and with any spaces around their tokens. -/
  arranged : ∀ (members : List (String × Value)) (text : String), environment.Arranges members →
    Json.tokens text.toList = Json.tokens (Value.object members).toText.toList →
      Reader.run read text = .ok environment
  /-- Two objects with the same known members are read alike. -/
  independent : ∀ (text other : String) (members others : List (Option String × Document)),
    Document.ofText text.toList = (.object members none, true) →
    Document.ofText other.toList = (.object others none, true) →
    AreReadable fields members → AreReadable fields others →
    (knownOf fields members).Perm (knownOf fields others) →
      (Reader.run read text = .ok environment ↔ Reader.run read other = .ok environment)

theorem isReproduced (isSized : environment.IsSized) : environment.IsReproduced where
  compact :=
    have arranges := environment.arranges_members
    arranges.run_eq isSized (arranges.isExact isSized).tokens_toText
  indented :=
    have arranges := environment.arranges_members
    arranges.run_eq isSized (arranges.isExact isSized).tokens_toIndentedText
  arranged _ _ arranges same :=
    arranges.run_eq isSized (same.trans (arranges.isExact isSized).tokens_toText)
  independent text other members others isText isOther readable readableToo perm := by
    rw [Reader.run_eq read isText, Reader.run_eq read isOther]
    exact ⟨read_congr _ _ perm readableToo, read_congr _ _ perm.symm readable⟩

/-- Texts with quotes, controls and characters beyond ASCII, and the largest numbers. -/
def unusual : Environment where
  id := 18446744073709551615
  name := "a \"b\" \\ \n \x01 \x1f \x7f é € 😀"
  image := ""
  runCommand := ⟨"run %\x7bfilename\x7d"⟩
  testCommand := none
  testingFramework := some "PyUnit"
  permittedSeconds := 0
  poolSize := 4294967295
  errorTemplates := [⟨18446744073709551615, "/", "\t", [⟨"", "\r"⟩, ⟨"\x08\x0c", "\""⟩]⟩,
    ⟨0, "", "", []⟩]

theorem isReproduced_unusual : unusual.IsSized ∧ unusual.IsReproduced := by
  have isSized : unusual.IsSized := by
    refine ⟨by decide, by decide, by decide, ?_⟩
    decide
  exact ⟨isSized, isReproduced isSized⟩

end Environment

end Grading
