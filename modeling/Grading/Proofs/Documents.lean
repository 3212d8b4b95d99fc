import Grading.Json.Reader
import Grading.Proofs.Tokens

namespace Grading.Json

/-! The documents of texts as they are written. A text that has the tokens of a value, with whatever
spaces between them, is read as the document of that value. -/

namespace Value

mutual

/-- The tokens that a value is written with. -/
def written : Value → List Token
  | .null => [.null]
  | .boolean value => [.boolean value]
  | .number value => [.number value]
  | .text value => [.text value]
  | .array elements => .openArray :: writtenElements elements ++ [.closeArray]
  | .object members => .openObject :: writtenMembers members ++ [.closeObject]

def writtenElements : List Value → List Token
  | [] => []
  | [element] => written element
  | element :: rest => written element ++ .comma :: writtenElements rest

def writtenMembers : List (String × Value) → List Token
  | [] => []
  | [(name, value)] => .text name :: .colon :: written value
  | (name, value) :: rest =>
      .text name :: .colon :: written value ++ .comma :: writtenMembers rest

end

mutual

/-- What a reader is given for the value. -/
def document : Value → Document
  | .null => .null
  | .boolean value => .boolean value
  | .number value => .number value
  | .text value => .text value
  | .array elements => .array (elementDocuments elements) none
  | .object members => .object (memberDocuments members) none

def elementDocuments : List Value → List Document
  | [] => []
  | element :: rest => document element :: elementDocuments rest

def memberDocuments : List (String × Value) → List (Option String × Document)
  | [] => []
  | (name, value) :: rest => (some name, document value) :: memberDocuments rest

end

/-- Whether the value comes back as it was written: it has no doubles, and no whole numbers but
those of 64 bits. -/
inductive IsExact : Value → Prop
  | null : IsExact .null
  | boolean (value : Bool) : IsExact (.boolean value)
  | natural (value : Nat) (below : value < Nat.pow 2 64) : IsExact (.number (.natural value))
  | negative (magnitude : Nat) (positive : 0 < magnitude) (bound : magnitude ≤ Nat.pow 2 63) :
      IsExact (.number (.negative magnitude))
  | text (value : String) : IsExact (.text value)
  | array (elements : List Value) (areExact : ∀ element ∈ elements, IsExact element) :
      IsExact (.array elements)
  | object (members : List (String × Value)) (areExact : ∀ member ∈ members, IsExact member.2) :
      IsExact (.object members)

end Value

/-! ## Items between separators -/

theorem eq_intercalate {α β : Type} {write : α → List β} {separator : β} {all : List α → List β}
    (nothing : all [] = []) (single : ∀ item, all [item] = write item)
    (several : ∀ item next rest,
      all (item :: next :: rest) = write item ++ separator :: all (next :: rest))
    (items : List α) : all items = [separator].intercalate (items.map write) := by
  induction items with
  | nil => exact nothing
  | cons item rest induction =>
      cases rest with
      | nil => rw [single, List.map_cons, List.map_nil, List.intercalate_singleton]
      | cons next rest =>
          rw [several, induction, List.map_cons, List.map_cons, List.map_cons,
            List.intercalate_cons_cons, List.append_assoc, List.singleton_append]

namespace Value

def writtenMember (member : String × Value) : List Token :=
  .text member.1 :: .colon :: member.2.written

def compactMember (member : String × Value) : List Char :=
  quoted member.1 ++ ':' :: compact member.2

def indentedElement (depth : Nat) (element : Value) : List Char :=
  newLine depth ++ indented depth element

def indentedMember (depth : Nat) (member : String × Value) : List Char :=
  newLine depth ++ quoted member.1 ++ ':' :: ' ' :: indented depth member.2

section

variable (depth : Nat) (elements : List Value) (members : List (String × Value))

theorem writtenElements_eq :
    writtenElements elements = [Token.comma].intercalate (elements.map written) :=
  eq_intercalate rfl (fun _ => rfl) (fun _ _ _ => rfl) elements

theorem writtenMembers_eq :
    writtenMembers members = [Token.comma].intercalate (members.map writtenMember) :=
  eq_intercalate rfl (fun _ => rfl) (fun _ _ _ => rfl) members

theorem compactElements_eq :
    compactElements elements = [','].intercalate (elements.map compact) :=
  eq_intercalate rfl (fun _ => rfl) (fun _ _ _ => rfl) elements

theorem compactMembers_eq :
    compactMembers members = [','].intercalate (members.map compactMember) :=
  eq_intercalate rfl (fun _ => rfl) (fun _ _ _ => rfl) members

theorem indentedElements_eq :
    indentedElements depth elements = [','].intercalate (elements.map (indentedElement depth)) :=
  eq_intercalate rfl (fun _ => rfl) (fun _ _ _ => rfl) elements

theorem indentedMembers_eq :
    indentedMembers depth members = [','].intercalate (members.map (indentedMember depth)) :=
  eq_intercalate rfl (fun _ => rfl) (fun _ _ _ => rfl) members

theorem writtenElements_cons (element next : Value) :
    writtenElements (element :: next :: elements) =
      element.written ++ .comma :: writtenElements (next :: elements) := rfl

theorem writtenMembers_cons (member next : String × Value) :
    writtenMembers (member :: next :: members) =
      writtenMember member ++ .comma :: writtenMembers (next :: members) := rfl

theorem elementDocuments_eq : elementDocuments elements = elements.map document := by
  induction elements with
  | nil => rfl
  | cons element elements induction => rw [elementDocuments, induction, List.map_cons]

theorem memberDocuments_eq :
    memberDocuments members = members.map fun member => (some member.1, member.2.document) := by
  induction members with
  | nil => rfl
  | cons member members induction => rw [memberDocuments, induction, List.map_cons]

end

end Value

/-! ## Texts and their tokens -/

/-- A character that is a token by itself. -/
structure IsMark (character : Char) (token : Token) : Prop where
  tokens : ∀ rest, Json.tokens (character :: rest) = token :: Json.tokens rest
  ends : ∀ rest, EndsNumber (character :: rest)

theorem isMark_of_scanToken {character : Char} {token : Token}
    (visible : isSpace character = false)
    (scanned : ∀ rest, scanToken character rest = (token, rest))
    (ends : character.isDigit = false ∧ character ≠ '.' ∧ character ≠ 'e' ∧ character ≠ 'E') :
    IsMark character token where
  tokens _ := tokens_of_scanToken visible (scanned _)
  ends _ _ isHead := Option.some.inj isHead ▸ ends

theorem isMark_openArray : IsMark '[' .openArray :=
  isMark_of_scanToken (by decide) (fun _ => rfl) (by decide)

theorem isMark_closeArray : IsMark ']' .closeArray :=
  isMark_of_scanToken (by decide) (fun _ => rfl) (by decide)

theorem isMark_openObject : IsMark '\x7b' .openObject :=
  isMark_of_scanToken (by decide) (fun _ => rfl) (by decide)

theorem isMark_closeObject : IsMark '\x7d' .closeObject :=
  isMark_of_scanToken (by decide) (fun _ => rfl) (by decide)

theorem isMark_colon : IsMark ':' .colon :=
  isMark_of_scanToken (by decide) (fun _ => rfl) (by decide)

theorem isMark_comma : IsMark ',' .comma :=
  isMark_of_scanToken (by decide) (fun _ => rfl) (by decide)

theorem endsNumber_spaces {spaces rest : List Char}
    (areSpaces : ∀ character ∈ spaces, isSpace character) (ends : EndsNumber rest) :
    EndsNumber (spaces ++ rest) := by
  cases spaces with
  | nil => exact ends
  | cons space spaces =>
      intro character isHead
      cases isHead
      have isBlank := areSpaces space List.mem_cons_self
      simp only [isSpace, Bool.or_eq_true, beq_iff_eq] at isBlank
      rcases isBlank with ((rfl | rfl) | rfl) | rfl <;> decide

/-- Whether the text stands for these tokens before whatever ends a number. -/
def Lays (text : List Char) (written : List Token) : Prop :=
  ∀ rest, EndsNumber rest → tokens (text ++ rest) = written ++ tokens rest

namespace Lays

variable {text spaces : List Char} {written : List Token} {opening closing : Char}
  {first last : Token}

theorem spaces_append (areSpaces : ∀ character ∈ spaces, isSpace character)
    (lays : Lays text written) : Lays (spaces ++ text) written := by
  intro rest ends
  rw [List.append_assoc, tokens_spaces areSpaces, lays rest ends]

theorem enclosed (isOpening : IsMark opening first) (isClosing : IsMark closing last)
    (areSpaces : ∀ character ∈ spaces, isSpace character) (lays : Lays text written) :
    Lays (opening :: text ++ spaces ++ [closing]) (first :: written ++ [last]) := by
  intro rest ends
  have whole : opening :: text ++ spaces ++ [closing] ++ rest =
      opening :: (text ++ (spaces ++ closing :: rest)) := by simp
  rw [whole, isOpening.tokens, lays _ (endsNumber_spaces areSpaces (isClosing.ends rest)),
    tokens_spaces areSpaces, isClosing.tokens]
  simp

theorem intercalate {α : Type} {items : List α} {write : α → List Char} {token : α → List Token}
    (lay : ∀ item ∈ items, Lays (write item) (token item)) :
    Lays ([','].intercalate (items.map write)) ([Token.comma].intercalate (items.map token)) := by
  induction items with
  | nil => exact fun _ _ => rfl
  | cons item items induction =>
      rcases List.forall_mem_cons.mp lay with ⟨isFirst, areLater⟩
      cases items with
      | nil => simpa using isFirst
      | cons next items =>
          intro rest ends
          rw [List.map_cons, List.map_cons, List.map_cons, List.map_cons,
            List.intercalate_cons_cons, List.intercalate_cons_cons]
          simp only [List.append_assoc, List.cons_append]
          rw [isFirst _ (isMark_comma.ends _), isMark_comma.tokens]
          exact congrArg (token item ++ Token.comma :: ·) (induction areLater rest ends)

theorem member {name : String} (areSpaces : ∀ character ∈ spaces, isSpace character)
    (lays : Lays text written) :
    Lays (Value.quoted name ++ ':' :: (spaces ++ text)) (.text name :: .colon :: written) := by
  intro rest ends
  rw [List.append_assoc, List.cons_append, List.append_assoc, tokens_quoted, isMark_colon.tokens,
    tokens_spaces areSpaces, lays rest ends]
  rfl

theorem null : Lays "null".toList [.null] := fun rest _ => tokens_null rest

theorem boolean (value : Bool) : Lays (Value.compact (.boolean value)) [.boolean value] := by
  intro rest _
  cases value with
  | true => exact tokens_true rest
  | false => exact tokens_false rest

theorem quoted (value : String) : Lays (Value.quoted value) [.text value] :=
  fun rest _ => tokens_quoted value rest

end Lays

namespace Value

variable {value : Value}

theorem isSpace_newLine (depth : Nat) : ∀ character ∈ newLine depth, isSpace character := by
  intro character member
  rcases List.mem_cons.mp member with rfl | member
  · decide
  · rw [List.eq_of_mem_replicate member]
    decide

theorem IsExact.lays_compact (isExact : value.IsExact) : Lays (compact value) value.written := by
  have noSpaces : ∀ character ∈ [], isSpace character := List.forall_mem_nil _
  induction isExact with
  | null => exact .null
  | boolean value => exact .boolean value
  | natural value below => exact fun _ ends => tokens_natural below ends
  | negative magnitude positive bound => exact fun _ ends => tokens_negative positive bound ends
  | text value => exact .quoted value
  | array elements areExact induction =>
      have lays := Lays.enclosed isMark_openArray isMark_closeArray noSpaces
        (Lays.intercalate induction)
      rwa [List.append_nil, ← compactElements_eq, ← writtenElements_eq] at lays
  | object members areExact induction =>
      have lay : ∀ member ∈ members, Lays (compactMember member) (writtenMember member) :=
        fun member isMember => .member noSpaces (induction member isMember)
      have lays := Lays.enclosed isMark_openObject isMark_closeObject noSpaces
        (Lays.intercalate lay)
      rwa [List.append_nil, ← compactMembers_eq, ← writtenMembers_eq] at lays

theorem IsExact.lays_indented (isExact : value.IsExact) (depth : Nat) :
    Lays (indented depth value) value.written := by
  induction isExact generalizing depth with
  | null => exact IsExact.null.lays_compact
  | boolean value => exact (IsExact.boolean value).lays_compact
  | natural value below => exact (IsExact.natural value below).lays_compact
  | negative magnitude positive bound => exact (IsExact.negative _ positive bound).lays_compact
  | text value => exact (IsExact.text value).lays_compact
  | array elements areExact induction =>
      have lay : ∀ element ∈ elements, Lays (indentedElement (depth + 1) element) element.written :=
        fun element isElement => (induction element isElement (depth + 1)).spaces_append
          (isSpace_newLine (depth + 1))
      have lays := Lays.enclosed isMark_openArray isMark_closeArray (isSpace_newLine depth)
        (Lays.intercalate lay)
      rw [← indentedElements_eq, ← writtenElements_eq] at lays
      -- What is empty stays in one line.
      cases elements with
      | nil => exact (IsExact.array [] areExact).lays_compact
      | cons element elements => exact lays
  | object members areExact induction =>
      have lay : ∀ member ∈ members, Lays (indentedMember (depth + 1) member)
          (writtenMember member) := by
        intro member isMember
        have isBlank : ∀ character ∈ [' '], isSpace character :=
          List.forall_mem_singleton.mpr (by decide)
        rw [indentedMember, List.append_assoc]
        exact (Lays.member isBlank (induction member isMember (depth + 1))).spaces_append
          (isSpace_newLine (depth + 1))
      have lays := Lays.enclosed isMark_openObject isMark_closeObject (isSpace_newLine depth)
        (Lays.intercalate lay)
      rw [← indentedMembers_eq, ← writtenMembers_eq] at lays
      cases members with
      | nil => exact (IsExact.object [] areExact).lays_compact
      | cons member members => exact lays

/-- Both layouts of a value have its tokens. -/
theorem IsExact.tokens_toText (isExact : value.IsExact) :
    tokens value.toText.toList = value.written := by
  have lays := isExact.lays_compact [] endsNumber_nil
  rw [toText, String.toList_ofList]
  rwa [List.append_nil, show tokens [] = [] from rfl, List.append_nil] at lays

theorem IsExact.tokens_toIndentedText (isExact : value.IsExact) :
    tokens value.toIndentedText.toList = value.written := by
  have lays := isExact.lays_indented 0 [] endsNumber_nil
  rw [toIndentedText, String.toList_ofList]
  rwa [List.append_nil, show tokens [] = [] from rfl, List.append_nil] at lays

/-! ## Tokens and their documents -/

open Document

/-- Whether the tokens of the value, before whatever follows, are scanned as its document. Two units
of fuel for each token are enough. -/
def IsScanned (value : Value) : Prop :=
  ∀ fuel rest, 2 * value.written.length ≤ fuel →
    scan fuel (value.written ++ rest) = (value.document, rest)

/-- No value begins with a closing bracket. -/
theorem written_append_ne (value : Value) (rest others : List Token) :
    value.written ++ rest ≠ .closeArray :: others := by
  cases value <;> exact fun same => nomatch (List.cons.inj same).1

theorem writtenElements_append_ne (element : Value) (elements : List Value)
    (rest others : List Token) :
    writtenElements (element :: elements) ++ rest ≠ .closeArray :: others := by
  cases elements with
  | nil => exact written_append_ne element rest others
  | cons next elements =>
      rw [writtenElements_cons, List.append_assoc]
      exact written_append_ne element _ others

theorem writtenMembers_append_ne (member : String × Value) (members : List (String × Value))
    (rest others : List Token) :
    writtenMembers (member :: members) ++ rest ≠ .closeObject :: others := by
  cases members <;> exact fun same => nomatch (List.cons.inj same).1

section

variable {element : Value} {elements : List Value} {member : String × Value}
  {members : List (String × Value)} {rest : List Token} {fuel : Nat}

theorem scan_openArray {tokens : List Token} (filled : tokens ≠ [])
    (isOpen : ∀ others, tokens ≠ .closeArray :: others) :
    scan (fuel + 1) (.openArray :: tokens) =
      (.array (scanElements fuel tokens).items (scanElements fuel tokens).ending,
        (scanElements fuel tokens).rest) := by
  rw [scan]
  · exact filled
  · exact isOpen

theorem scan_openObject {tokens : List Token} (isOpen : ∀ others, tokens ≠ .closeObject :: others) :
    scan (fuel + 1) (.openObject :: tokens) =
      (.object (scanMembers fuel tokens).items (scanMembers fuel tokens).ending,
        (scanMembers fuel tokens).rest) := by
  rw [scan]
  exact isOpen

theorem IsScanned.scanElements_closing (isScanned : element.IsScanned)
    (enough : 2 * element.written.length ≤ fuel) :
    scanElements (fuel + 1) (element.written ++ .closeArray :: rest) =
      ⟨[element.document], none, rest⟩ := by
  rw [scanElements, isScanned fuel _ enough]

theorem IsScanned.scanElements_comma (isScanned : element.IsScanned)
    (enough : 2 * element.written.length ≤ fuel) :
    scanElements (fuel + 1) (element.written ++ .comma :: rest) =
      ⟨element.document :: (scanElements fuel rest).items, (scanElements fuel rest).ending,
        (scanElements fuel rest).rest⟩ := by
  rw [scanElements, isScanned fuel _ enough]

theorem IsScanned.scanMembers_closing (isScanned : member.2.IsScanned)
    (enough : 2 * member.2.written.length ≤ fuel) :
    scanMembers (fuel + 2) (writtenMember member ++ .closeObject :: rest) =
      ⟨[(some member.1, member.2.document)], none, rest⟩ := by
  rw [writtenMember, List.cons_append, List.cons_append, scanMembers, scanMember]
  dsimp only
  rw [isScanned fuel _ enough]

theorem IsScanned.scanMembers_comma (isScanned : member.2.IsScanned)
    (enough : 2 * member.2.written.length ≤ fuel) :
    scanMembers (fuel + 2) (writtenMember member ++ .comma :: rest) =
      ⟨(some member.1, member.2.document) :: (scanMembers fuel rest).items,
        (scanMembers fuel rest).ending, (scanMembers fuel rest).rest⟩ := by
  rw [writtenMember, List.cons_append, List.cons_append, scanMembers, scanMember]
  dsimp only
  rw [isScanned fuel _ enough]

theorem scanElements_written (areScanned : ∀ element ∈ elements, element.IsScanned)
    (filled : elements ≠ []) (enough : 2 * (writtenElements elements).length ≤ fuel) :
    scanElements (fuel + 1) (writtenElements elements ++ .closeArray :: rest) =
      ⟨elementDocuments elements, none, rest⟩ := by
  induction elements generalizing fuel with
  | nil => exact absurd rfl filled
  | cons element elements induction =>
      rcases List.forall_mem_cons.mp areScanned with ⟨isFirst, areLater⟩
      cases elements with
      | nil => exact isFirst.scanElements_closing enough
      | cons next elements =>
          rw [writtenElements_cons, List.length_append, List.length_cons] at enough
          rw [writtenElements_cons, List.append_assoc, List.cons_append,
            isFirst.scanElements_comma (by omega)]
          cases fuel with
          | zero => omega
          | succ fuel =>
              rw [induction areLater (List.cons_ne_nil _ _) (by omega)]
              rfl

theorem scanMembers_written (areScanned : ∀ member ∈ members, member.2.IsScanned)
    (filled : members ≠ []) (enough : 2 * (writtenMembers members).length ≤ fuel) :
    scanMembers (fuel + 1) (writtenMembers members ++ .closeObject :: rest) =
      ⟨memberDocuments members, none, rest⟩ := by
  induction members generalizing fuel with
  | nil => exact absurd rfl filled
  | cons member members induction =>
      rcases List.forall_mem_cons.mp areScanned with ⟨isFirst, areLater⟩
      have length : (writtenMember member).length = member.2.written.length + 2 := rfl
      cases members with
      | nil =>
          have isWritten : writtenMembers [member] = writtenMember member := rfl
          rw [isWritten] at enough ⊢
          cases fuel with
          | zero => omega
          | succ fuel => exact isFirst.scanMembers_closing (by omega)
      | cons next members =>
          rw [writtenMembers_cons, List.length_append, List.length_cons] at enough
          rw [writtenMembers_cons, List.append_assoc, List.cons_append]
          match fuel with
          | 0 | 1 => omega
          | fuel + 2 =>
              rw [isFirst.scanMembers_comma (by omega),
                induction areLater (List.cons_ne_nil _ _) (by omega)]
              rfl

end

theorem IsExact.isScanned (isExact : value.IsExact) : value.IsScanned := by
  -- The two brackets pay for the steps that get to the first element and to the first name.
  induction isExact with
  | null | boolean | natural | negative | text =>
      intro fuel rest enough
      cases fuel with
      | zero => cases enough
      | succ fuel => rfl
  | array elements areExact induction =>
      intro fuel rest enough
      rw [written, List.length_append, List.length_cons, List.length_singleton] at enough
      rw [written, List.append_assoc, List.cons_append, List.singleton_append]
      match fuel with
      | 0 | 1 => omega
      | fuel + 2 =>
          cases elements with
          | nil => rfl
          | cons element elements =>
              have filled := List.cons_ne_nil element elements
              rw [scan_openArray (by simp) (writtenElements_append_ne _ _ _),
                scanElements_written induction filled (by omega)]
              rfl
  | object members areExact induction =>
      intro fuel rest enough
      rw [written, List.length_append, List.length_cons, List.length_singleton] at enough
      rw [written, List.append_assoc, List.cons_append, List.singleton_append]
      match fuel with
      | 0 | 1 => omega
      | fuel + 2 =>
          cases members with
          | nil => rfl
          | cons member members =>
              have filled := List.cons_ne_nil member members
              rw [scan_openObject (writtenMembers_append_ne _ _ _),
                scanMembers_written induction filled (by omega)]
              rfl

/-- Any text with the tokens of the value is read as it is. -/
theorem IsExact.ofText_eq (isExact : value.IsExact) {text : List Char}
    (same : tokens text = value.written) : ofText text = (value.document, true) := by
  have scanned := isExact.isScanned (2 * (tokens text).length + 1) [] (by rw [same]; omega)
  rw [List.append_nil, ← same] at scanned
  rw [ofText]
  dsimp only
  rw [scanned]
  rfl

/-! ## Skipping -/

theorem skipElements_map {items : List Value}
    (skips : ∀ item ∈ items, item.document.skip = .ok ()) :
    skipElements (items.map document) = .ok () := by
  induction items with
  | nil => rfl
  | cons item items induction =>
      rcases List.forall_mem_cons.mp skips with ⟨isFirst, areLater⟩
      exact bind_eq_ok isFirst (induction areLater)

theorem skipMembers_memberDocuments {members : List (String × Value)}
    (skips : ∀ member ∈ members, member.2.document.skip = .ok ()) :
    skipMembers (memberDocuments members) = .ok () := by
  induction members with
  | nil => rfl
  | cons member members induction =>
      rcases List.forall_mem_cons.mp skips with ⟨isFirst, areLater⟩
      exact bind_eq_ok isFirst (induction areLater)

theorem IsExact.skip_document (isExact : value.IsExact) : value.document.skip = .ok () := by
  induction isExact with
  | null | boolean | natural | negative | text => rfl
  | array elements areExact induction =>
      rw [document, elementDocuments_eq]
      exact bind_eq_ok (skipElements_map induction) rfl
  | object members areExact induction =>
      rw [document]
      exact bind_eq_ok (skipMembers_memberDocuments induction) rfl

end Value

theorem Reader.run_eq {α : Type} (read : Reader α) {text : String} {document : Document}
    (isWhole : Document.ofText text.toList = (document, true)) : read.run text = read document := by
  rw [Reader.run, isWhole]
  dsimp only
  cases read document <;> rfl

end Grading.Json
