import Grading.Wire.Message

namespace Grading.Wire

/-! Fields that are written one behind the other are read again as they were. A length on the wire
is a word of 64 bits, so this is said of bytes that are fewer than that; no memory holds more. -/

namespace Varint

theorem encode_of_lt {value : Nat} (last : value < 128) : encode value = [UInt8.ofNat value] := by
  rw [encode, if_pos last]

theorem encode_of_ge {value : Nat} (more : ¬value < 128) :
    encode value = UInt8.ofNat (value % 128 + 128) :: encode (value / 128) := by
  rw [encode, if_neg more]

theorem length_encode_pos (value : Nat) : 0 < (encode value).length := by
  rw [encode]
  split <;> exact Nat.succ_pos _

theorem length_encode_le {count value : Nat} (small : value < Nat.pow 128 (count + 1)) :
    (encode value).length ≤ count + 1 := by
  induction count generalizing value with
  | zero =>
      rw [encode_of_lt small]
      exact Nat.le_refl 1
  | succ count induction =>
      by_cases last : value < 128
      · rw [encode_of_lt last]
        exact Nat.le_add_left 1 (count + 1)
      · rw [encode_of_ge last, List.length_cons, Nat.add_le_add_iff_right]
        exact induction (Nat.div_lt_of_lt_mul (Nat.mul_comm _ _ ▸ small))

/-- A number is read again if it has no more bytes than may be read. -/
theorem decodeWithin?_encode {count value : Nat} (few : (encode value).length ≤ count)
    (rest : Bytes) : decodeWithin? count (encode value ++ rest) = some (value, rest) := by
  induction count generalizing value with
  | zero => exact absurd (length_encode_pos value) (Nat.not_lt.mpr few)
  | succ count induction =>
      by_cases last : value < 128
      · have byte : (UInt8.ofNat value).toNat = value :=
          UInt8.toNat_ofNat_of_lt (Nat.lt_trans last (by decide))
        rw [encode_of_lt last, List.singleton_append, decodeWithin?, byte, if_pos last]
      · have byte : (UInt8.ofNat (value % 128 + 128)).toNat = value % 128 + 128 :=
          UInt8.toNat_ofNat_of_lt (show _ < 256 by omega)
        rw [encode_of_ge last, List.length_cons, Nat.add_le_add_iff_right] at few
        rw [encode_of_ge last, List.cons_append, decodeWithin?, byte, if_neg (by omega),
          induction few, Option.bind_eq_bind, Option.bind_some]
        change some (_, rest) = some (value, rest)
        congr 2
        omega

theorem decode?_encode {value : Nat} (small : value < Nat.pow 2 64) (rest : Bytes) :
    decode? (encode value ++ rest) = some (value, rest) := by
  have few : (encode value).length ≤ 10 :=
    length_encode_le (Nat.lt_trans small (by decide))
  rw [decode?, decodeWithin?_encode few, Option.filter_some, if_pos (decide_eq_true small)]

end Varint

namespace Field

/-! ## One field -/

/-- What can be written as a field, but for the length of its bytes. -/
structure IsPlain (field : Field) : Prop where
  numbered : 0 < field.number ∧ field.number < Nat.pow 2 29
  payload : (∃ value, field.payload = .word value ∧ value < Nat.pow 2 64) ∨
    ∃ value, field.payload = .bytes value

theorem key?_encode {number kind : Nat} (numbered : 0 < number ∧ number < Nat.pow 2 29)
    (isKind : kind < 8) (rest : Bytes) :
    key? (Varint.encode (8 * number + kind) ++ rest) = some (number, kind, rest) := by
  have below : 8 * number + kind < Nat.pow 2 32 := by
    have small : number < 536870912 := numbered.2
    change _ < 4294967296
    omega
  rw [key?, Varint.decode?_encode (Nat.lt_trans below (by decide)), Option.bind_eq_bind,
    Option.bind_some]
  change (if _ then some _ else none) = _
  rw [if_pos ⟨below, by omega⟩]
  congr 2
  · omega
  · congr 1
    omega

theorem take?_append (value rest : Bytes) :
    take? value.length (value ++ rest) = some (value, rest) := by
  rw [take?, if_pos (by simp), List.take_left, List.drop_left]

theorem encode_word (number value : Nat) :
    encode ⟨number, .word value⟩ = Varint.encode (8 * number + 0) ++ Varint.encode value := rfl

theorem encode_bytes (number : Nat) (value : Bytes) :
    encode ⟨number, .bytes value⟩ =
      Varint.encode (8 * number + 2) ++ (Varint.encode value.length ++ value) :=
  List.append_assoc _ _ _

theorem length_lt_length_encode (number : Nat) (value : Bytes) :
    value.length < (encode ⟨number, .bytes value⟩).length := by
  have positive := Varint.length_encode_pos (8 * number + 2)
  rw [encode_bytes, List.length_append, List.length_append]
  omega

/-- The key of a field and then its payload are read again. -/
theorem exists_of_encode_append {field : Field} (isPlain : field.IsPlain)
    (short : field.encode.length < Nat.pow 2 64) (rest : Bytes) :
    ∃ kind behind, key? (field.encode ++ rest) = some (field.number, kind, behind) ∧
      ∀ fuel depth, payload? (fuel + 1) depth field.number kind behind =
        some (field.payload, rest) := by
  rcases field with ⟨number, payload⟩
  rcases isPlain with ⟨numbered, ⟨value, rfl, word⟩ | ⟨value, rfl⟩⟩
  · refine ⟨0, Varint.encode value ++ rest, ?_, ?_⟩
    · rw [encode_word, List.append_assoc]
      exact key?_encode numbered (by decide) _
    · intro fuel depth
      rw [payload?, Varint.decode?_encode word]
      rfl
  · refine ⟨2, Varint.encode value.length ++ (value ++ rest), ?_, ?_⟩
    · rw [encode_bytes, List.append_assoc, List.append_assoc]
      exact key?_encode numbered (by decide) _
    · intro fuel depth
      have length := Nat.lt_trans (length_lt_length_encode number value) short
      simp only [payload?, Varint.decode?_encode length, Option.bind_eq_bind, Option.bind_some,
        take?_append]
      rfl

/-! ## All fields -/

theorem encodeAll_append (fields others : List Field) :
    encodeAll (fields ++ others) = encodeAll fields ++ encodeAll others :=
  List.flatMap_append

theorem length_encode_le {fields : List Field} {field : Field} (member : field ∈ fields) :
    field.encode.length ≤ (encodeAll fields).length := by
  rcases List.append_of_mem member with ⟨before, after, rfl⟩
  rw [encodeAll_append, encodeAll, encodeAll, List.flatMap_cons, List.length_append,
    List.length_append]
  omega

theorem length_encode_pos {field : Field} (isPlain : field.IsPlain) : 0 < field.encode.length := by
  rcases field with ⟨number, payload⟩
  rcases isPlain with ⟨-, ⟨value, rfl, -⟩ | ⟨value, rfl⟩⟩
  · rw [encode_word, List.length_append]
    exact Nat.add_pos_left (Varint.length_encode_pos _) _
  · exact Nat.zero_lt_of_lt (length_lt_length_encode number value)

theorem decodeAllWithin?_succ {bytes behind rest : Bytes} {fuel depth number kind : Nat}
    {payload : Payload} {others : List Field} (nonempty : 0 < bytes.length)
    (key : key? bytes = some (number, kind, behind))
    (found : payload? (2 * bytes.length) depth number kind behind = some (payload, rest))
    (further : decodeAllWithin? fuel depth rest = some others) :
    decodeAllWithin? (fuel + 1) depth bytes = some (⟨number, payload⟩ :: others) := by
  cases bytes with
  | nil => cases nonempty
  | cons byte bytes =>
      simp only [decodeAllWithin?, key, found, further, Option.bind_eq_bind, Option.bind_some]
      rfl

/-- By induction on the fields: what is left of the bytes are the fields behind, and there is fuel
for as many bytes. -/
theorem decodeAllWithin?_encodeAll {fields : List Field}
    (arePlain : ∀ field ∈ fields, field.IsPlain)
    (short : (encodeAll fields).length < Nat.pow 2 64) {fuel : Nat}
    (enough : (encodeAll fields).length ≤ fuel) (depth : Nat) :
    decodeAllWithin? fuel depth (encodeAll fields) = some fields := by
  induction fields generalizing fuel with
  | nil => cases fuel <;> rfl
  | cons field rest induction =>
      have isPlain := arePlain field List.mem_cons_self
      have nonempty := length_encode_pos isPlain
      have front : encodeAll (field :: rest) = field.encode ++ encodeAll rest := List.flatMap_cons
      have lengths := congrArg List.length front
      rw [List.length_append] at lengths
      rcases exists_of_encode_append isPlain
        (Nat.lt_of_le_of_lt (length_encode_le List.mem_cons_self) short) (encodeAll rest) with
        ⟨kind, behind, key, payload⟩
      rw [← front] at key
      cases fuel with
      | zero => omega
      | succ fuel =>
          refine decodeAllWithin?_succ (by omega) key ?_ (induction
            (fun other member => arePlain other (List.mem_cons_of_mem field member))
            (Nat.lt_of_le_of_lt (by omega) short) (by omega))
          have some : 2 * (encodeAll (field :: rest)).length =
              2 * (encodeAll (field :: rest)).length - 1 + 1 := by omega
          rw [some]
          exact payload _ _

theorem decodeAll?_encodeAll {fields : List Field} (arePlain : ∀ field ∈ fields, field.IsPlain)
    (short : (encodeAll fields).length < Nat.pow 2 64) :
    decodeAll? (encodeAll fields) = some fields :=
  decodeAllWithin?_encodeAll arePlain short (Nat.le_refl _) _

theorem decodeInner?_encodeAll {fields : List Field} (arePlain : ∀ field ∈ fields, field.IsPlain)
    (short : (encodeAll fields).length < Nat.pow 2 64) :
    decodeInner? (encodeAll fields) = some fields :=
  decodeAllWithin?_encodeAll arePlain short (Nat.le_refl _) _

end Field

end Grading.Wire
