import Grading.Json.Document

namespace Grading.Json

/-! Reading a document as a value of a known shape. A reader goes through the document in the order
of its text and stops at the first fault. -/

abbrev Reader (α : Type) := Document → Except Fault α

namespace Document

mutual

/-- The first fault met in skipping the document. -/
def skip : Document → Except Fault Unit
  | .broken _ skipping => .error skipping
  | .array elements ending => do
      skipElements elements
      ending.elim (.ok ()) .error
  | .object members ending => do
      skipMembers members
      ending.elim (.ok ()) .error
  | _ => .ok ()

def skipElements : List Document → Except Fault Unit
  | [] => .ok ()
  | element :: rest => do
      skip element
      skipElements rest

def skipMembers : List (Option String × Document) → Except Fault Unit
  | [] => .ok ()
  | (_, value) :: rest => do
      skip value
      skipMembers rest

end

/-- The fault of a document that is not of the kind asked for. What has a fault of its own keeps
it. -/
def mismatch : Document → Fault
  | .spoiled => .malformed
  | .broken reading _ => reading
  | _ => .mismatched

end Document

namespace Reader

/-! ## Single values -/

def text : Reader String
  | .text value => .ok value
  | document => .error document.mismatch

def boolean : Reader Bool
  | .boolean value => .ok value
  | document => .error document.mismatch

def natural (bound : Nat) : Reader Nat
  | .number (.natural value) => if value < bound then .ok value else .error .mismatched
  | document => .error document.mismatch

def real : Reader Float
  | .number (.natural value) => .ok value.toUInt64.toFloat
  | .number (.negative magnitude) => .ok (-magnitude.toUInt64.toFloat)
  | .number (.real value) => .ok value
  | document => .error document.mismatch

def optional {α : Type} (read : Reader α) : Reader (Option α)
  | .null => .ok none
  | document => (read document).map some

/-- One of the named values: its name, or an object whose only member has this name and is `null`.
Anything but a text or an object breaks the rules, as no value can start with it. -/
def choice {α : Type} (choices : List (String × α)) : Reader α
  | .text name => (choices.lookup name).elim (.error .mismatched) .ok
  | .broken reading _ => .error reading
  | .object [] none => .error .malformed
  | .object [] (some fault) => .error fault
  | .object ((none, _) :: _) _ => .error .malformed
  | .object ((some name, value) :: rest) ending =>
      match choices.lookup name with
      | none => .error .mismatched
      | some chosen =>
          match value, rest, ending with
          | .null, [], none => .ok chosen
          | .null, [], some fault => .error fault
          | .null, _ :: _, _ => .error .malformed
          | value, _, _ => .error value.mismatch
  | _ => .error .malformed

/-! ## Lists and dictionaries -/

def elements {α : Type} (read : Reader α) (ending : Option Fault) :
    List Document → Except Fault (List α)
  | [] => ending.elim (.ok []) .error
  | element :: rest => do
      let first ← read element
      let others ← elements read ending rest
      return first :: others

def list {α : Type} (read : Reader α) : Reader (List α)
  | .array items ending => elements read ending items
  | document => .error document.mismatch

def entries {α : Type} (read : Reader α) (ending : Option Fault) :
    List (Option String × Document) → Except Fault (List (String × α))
  | [] => ending.elim (.ok []) .error
  | (none, _) :: _ => .error .malformed
  | (some name, document) :: rest => do
      let value ← read document
      let others ← entries read ending rest
      return (name, value) :: others

/-- An object whose names are free. Names can occur more than once. -/
def dictionary {α : Type} (read : Reader α) : Reader (List (String × α))
  | .object members ending => entries read ending members
  | document => .error document.mismatch

end Reader

/-! ## Records

A record is an object with known names, or an array of its fields in their order. Its known fields
are checked in the order of the text; what they hold is looked up afterwards, so it depends neither
on their order nor on unknown fields. -/

/-- A known field of a record: its name, and the check of its value. -/
structure Field where
  name : String
  check : Document → Except Fault Unit

namespace Field

def of {α : Type} (name : String) (read : Reader α) : Field :=
  ⟨name, fun document => (read document).map fun _ => ()⟩

end Field

abbrev Fields := List (String × Document)

/-- The known members of an object. A known name can occur only once. -/
def knownMembers (fields : List Field) (seen : List String) :
    List (Option String × Document) → Except Fault Fields
  | [] => .ok []
  | (none, _) :: _ => .error .malformed
  | (some name, value) :: rest =>
      match fields.find? (·.name == name) with
      | none => do
          value.skip
          knownMembers fields seen rest
      | some field =>
          if seen.contains name then .error .mismatched
          else do
            field.check value
            let others ← knownMembers fields (name :: seen) rest
            return (name, value) :: others

/-- The elements of an array under the names of the fields, and how many elements are left over. -/
def positionalMembers : List Field → List Document → Except Fault (Fields × Nat)
  | _, [] => .ok ([], 0)
  | [], extra => .ok ([], extra.length)
  | field :: fields, element :: rest => do
      field.check element
      let (others, extra) ← positionalMembers fields rest
      return ((field.name, element) :: others, extra)

namespace Reader

/-- A record with these fields, built from those that are given. An array has to give at least
`leastPositional` fields and no more than there are. -/
def record {α : Type} (fields : List Field) (leastPositional : Nat)
    (build : Fields → Except Fault α) : Reader α
  | .object members ending => do
      let known ← knownMembers fields [] members
      if let some fault := ending then throw fault
      build known
  | .array elements ending => do
      let (known, extra) ← positionalMembers fields elements
      if known.length < fields.length then
        if let some fault := ending then throw fault
      if known.length < leastPositional then throw .mismatched
      let value ← build known
      if extra ≠ 0 then throw .malformed
      if let some fault := ending then throw fault
      return value
  | document => .error document.mismatch

end Reader

namespace Fields

def required {α : Type} (fields : Fields) (name : String) (read : Reader α) : Except Fault α :=
  match fields.lookup name with
  | some document => read document
  | none => .error .mismatched

def withDefault {α : Type} (fields : Fields) (name : String) (read : Reader α) (default : α) :
    Except Fault α :=
  match fields.lookup name with
  | some document => read document
  | none => .ok default

/-- A field that can be missing or `null`. -/
def optional {α : Type} (fields : Fields) (name : String) (read : Reader α) :
    Except Fault (Option α) :=
  fields.withDefault name (Reader.optional read) none

end Fields

/-! ## Whole texts -/

namespace Reader

def run {α : Type} (read : Reader α) (text : String) : Except Fault α := do
  let (document, complete) := Document.ofText text.toList
  let value ← read document
  if complete then return value else throw .malformed

end Reader

end Grading.Json
