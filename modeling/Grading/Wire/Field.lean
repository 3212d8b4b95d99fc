import Grading.Wire.Varint

namespace Grading.Wire

/-! Messages on the wire: fields one behind the other, each with its number and its payload. -/

inductive Payload
  | word (value : Nat)
  | bytes (value : Bytes)
  /-- A number of 32 or 64 bits, or a group. No message here holds one, so it is only skipped. -/
  | other
  deriving DecidableEq, Repr

structure Field where
  number : Nat
  payload : Payload
  deriving DecidableEq, Repr

namespace Field

/-! ## Writing -/

def encode (field : Field) : Bytes :=
  match field.payload with
  | .word value => Varint.encode (8 * field.number) ++ Varint.encode value
  | .bytes value =>
      Varint.encode (8 * field.number + 2) ++ Varint.encode value.length ++ value
  | .other => []

def encodeAll (fields : List Field) : Bytes := fields.flatMap encode

/-! ## Reading -/

/-- The number and the kind of the field in front. The key is a word of 32 bits. -/
def key? (bytes : Bytes) : Option (Nat × Nat × Bytes) := do
  let (key, rest) ← Varint.decode? bytes
  if key < Nat.pow 2 32 ∧ 8 ≤ key then return (key / 8, key % 8, rest) else none

def take? (count : Nat) (bytes : Bytes) : Option (Bytes × Bytes) :=
  if count ≤ bytes.length then some (bytes.take count, bytes.drop count) else none

mutual

/-- The payload in front, of a field with this number and kind. `depth` is one more than the number
of groups that may be nested in it. -/
def payload? : (fuel depth number kind : Nat) → Bytes → Option (Payload × Bytes)
  | 0, _, _, _, _ => none
  | fuel + 1, depth, number, kind, bytes =>
      match kind with
      | 0 => (Varint.decode? bytes).map fun (value, rest) => (.word value, rest)
      | 1 => (take? 8 bytes).map fun (_, rest) => (.other, rest)
      | 2 => do
          let (length, rest) ← Varint.decode? bytes
          let (value, rest) ← take? length rest
          return (.bytes value, rest)
      | 3 => (afterGroup? fuel depth number bytes).map fun rest => (.other, rest)
      | 5 => (take? 4 bytes).map fun (_, rest) => (.other, rest)
      | _ => none

def afterGroup? : (fuel depth number : Nat) → Bytes → Option Bytes
  | 0, _, _, _ => none
  | fuel + 1, depth, number, bytes => do
      let (innerNumber, kind, rest) ← key? bytes
      if kind = 4 then
        if innerNumber = number then return rest else none
      else if depth ≤ 1 then none
      else
        let (_, rest) ← payload? fuel (depth - 1) innerNumber kind rest
        afterGroup? fuel depth number rest

end

/-- All fields up to the end. Every field takes a byte, so the number of bytes is enough fuel. -/
def decodeAllWithin? : (fuel depth : Nat) → Bytes → Option (List Field)
  | _, _, [] => some []
  | 0, _, _ :: _ => none
  | fuel + 1, depth, bytes => do
      let (number, kind, rest) ← key? bytes
      let (payload, rest) ← payload? (2 * bytes.length) depth number kind rest
      let others ← decodeAllWithin? fuel depth rest
      return ⟨number, payload⟩ :: others

/-- How deep groups can be nested in a message. -/
def depthLimit : Nat := 100

def decodeAll? (bytes : Bytes) : Option (List Field) :=
  decodeAllWithin? bytes.length depthLimit bytes

def decodeInner? (bytes : Bytes) : Option (List Field) :=
  decodeAllWithin? bytes.length (depthLimit - 1) bytes

/-! ## Values -/

def ofBytes (number : Nat) (value : Bytes) : Field := ⟨number, .bytes value⟩

def ofText (number : Nat) (text : String) : Field := ofBytes number text.toUTF8.data.toList

def ofWord (number value : Nat) : Field := ⟨number, .word value⟩

/-- A field unless its value is the default of its kind. -/
def unlessDefault (isDefault : Bool) (field : Field) : List Field :=
  if isDefault then [] else [field]

def bytes? (field : Field) : Option Bytes :=
  match field.payload with
  | .bytes value => some value
  | _ => none

def text? (field : Field) : Option String := do
  String.fromUTF8? ⟨(← field.bytes?).toArray⟩

def word? (field : Field) : Option Nat :=
  match field.payload with
  | .word value => some value
  | _ => none

end Field

end Grading.Wire
