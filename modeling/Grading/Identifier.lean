import Grading.Text.Numeral

namespace Grading

/-! Identifiers of 128 bits, written as hexadecimal digits in five groups. -/

structure Identifier where
  bits : BitVec 128
  deriving DecidableEq, Repr

namespace Identifier

/-! ## Reading -/

/-- The text without its hyphens, if it is five groups of 8, 4, 4, 4 and 12 characters. -/
def ungroup? (text : List Char) : Option (List Char) :=
  let hyphens := [8, 13, 18, 23]
  if text.length = 36 ∧ hyphens.all (fun place => text[place]? == some '-') then
    some (text.take 8 ++ (text.drop 9).take 4 ++ (text.drop 14).take 4 ++ (text.drop 19).take 4 ++
      text.drop 24)
  else none

/-- The 32 digits of a text: plain, in groups, and in groups between braces or behind
`urn:uuid:`. -/
def digits? (text : List Char) : Option (List Char) :=
  if text.length = 32 then some text
  else match text with
    | '\x7b' :: rest =>
        if rest.getLast? = some '\x7d' then ungroup? rest.dropLast else none
    | 'u' :: 'r' :: 'n' :: ':' :: 'u' :: 'u' :: 'i' :: 'd' :: ':' :: rest => ungroup? rest
    | _ => ungroup? text

def ofText? (text : String) : Option Identifier := do
  let digits ← digits? text.toList
  let value ← Text.hexValue? digits
  return ⟨BitVec.ofNat 128 value⟩

/-! ## Writing -/

def hexDigits : (count : Nat) → Nat → List Char
  | 0, _ => []
  | count + 1, value => hexDigits count (value / 16) ++ [Text.hexDigit (value % 16)]

def text (identifier : Identifier) : String :=
  let digits := hexDigits 32 identifier.bits.toNat
  String.ofList (digits.take 8 ++ '-' :: (digits.drop 8).take 4 ++ '-' :: (digits.drop 12).take 4 ++
    '-' :: (digits.drop 16).take 4 ++ '-' :: digits.drop 20)

example : (ofText? "\x7b67E55044-10b1-426f-9247-bb680e5fe0c8\x7d").map text =
    some "67e55044-10b1-426f-9247-bb680e5fe0c8" := by decide +kernel
example : ofText? "67e55044-10b1-426f-9247-bb680e5fe0c" = none := by decide +kernel

end Identifier

end Grading
