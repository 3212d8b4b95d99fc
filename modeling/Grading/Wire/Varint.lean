namespace Grading.Wire

/-! Whole numbers of variable length: seven bits a byte, the lowest first. Every byte but the last
has its high bit set. -/

abbrev Bytes := List UInt8

namespace Varint

def encode (value : Nat) : Bytes :=
  if value < 128 then [UInt8.ofNat value]
  else UInt8.ofNat (value % 128 + 128) :: encode (value / 128)
termination_by value
decreasing_by omega

/-- The number in front, if it has at most `count` bytes, and what follows it. -/
def decodeWithin? : (count : Nat) → Bytes → Option (Nat × Bytes)
  | 0, _ => none
  | _ + 1, [] => none
  | count + 1, byte :: rest =>
      if byte.toNat < 128 then some (byte.toNat, rest)
      else do
        let (upper, rest) ← decodeWithin? count rest
        return (byte.toNat - 128 + 128 * upper, rest)

/-- The number in front, which takes at most ten bytes and 64 bits. -/
def decode? (bytes : Bytes) : Option (Nat × Bytes) :=
  (decodeWithin? 10 bytes).filter fun (value, _) => value < Nat.pow 2 64

theorem length_of_decodeWithin? {count value : Nat} {bytes rest : Bytes}
    (found : decodeWithin? count bytes = some (value, rest)) : rest.length < bytes.length := by
  induction count generalizing value bytes rest with
  | zero => simp [decodeWithin?] at found
  | succ count induction =>
      cases bytes with
      | nil => simp [decodeWithin?] at found
      | cons byte tail =>
          by_cases last : byte.toNat < 128
          · simp only [decodeWithin?, last, if_true, Option.some.injEq, Prod.mk.injEq] at found
            simp [← found.2]
          · simp only [decodeWithin?, last, if_false, Option.bind_eq_bind, Option.bind_eq_some_iff,
              Option.pure_def, Option.some.injEq, Prod.mk.injEq, Prod.exists] at found
            obtain ⟨upper, behind, inner, _, equal⟩ := found
            have shorter := induction inner
            simp only [List.length_cons, ← equal]
            omega

theorem length_of_decode? {value : Nat} {bytes rest : Bytes}
    (found : decode? bytes = some (value, rest)) : rest.length < bytes.length := by
  simp only [decode?, Option.filter_eq_some_iff] at found
  exact length_of_decodeWithin? found.1

example : encode 300 = [0xAC, 0x02] := by decide +kernel
example : decode? [0xAC, 0x02, 0x07] = some (300, [0x07]) := by decide +kernel
example : decode? [0xAC] = none := by decide +kernel

end Varint

end Grading.Wire
