import Grading.Json.Number

namespace Grading.Json

/-! The tokens of a document. A document is cut into tokens without regard to what it should hold; a
token that cannot be finished keeps its fault, which counts only if a reader gets that far. -/

inductive Fault
  | malformed
  /-- It holds something other than what is asked for. -/
  | mismatched
  | ended
  deriving DecidableEq, Repr

inductive Token
  | openObject
  | closeObject
  | openArray
  | closeArray
  | colon
  | comma
  | null
  | boolean (value : Bool)
  | number (value : Number)
  | text (value : String)
  /-- A text that names half a surrogate pair or a number too large for a double: it can be skipped
  but not read. -/
  | spoiled
  /-- A token with a fault, which may differ between reading and skipping it. -/
  | broken (reading skipping : Fault)

/-! ## Texts -/

def escaped? : Char → Option Char
  | '"' => some '"'
  | '\\' => some '\\'
  | '/' => some '/'
  | 'b' => some '\x08'
  | 'f' => some '\x0c'
  | 'n' => some '\n'
  | 'r' => some '\r'
  | 't' => some '\t'
  | _ => none

/-- The four hexadecimal digits of an escape and what follows them. An escape is cut short only if
fewer than four bytes are left. -/
def hexEscape (text : List Char) : Except Fault (Nat × List Char) :=
  match text with
  | first :: second :: third :: fourth :: rest =>
      match Text.hexValue? [first, second, third, fourth] with
      | some code => .ok (code, rest)
      | none => .error .malformed
  | short =>
      if short.foldl (fun size character => size + character.utf8Size) 0 < 4 then .error .ended
      else .error .malformed

theorem length_of_hexEscape {text rest : List Char} {code : Nat}
    (read : hexEscape text = .ok (code, rest)) : rest.length < text.length := by
  unfold hexEscape at read
  split at read
  · split at read
    · cases read
      simp
      omega
    · cases read
  · split at read <;> cases read

def isLeadingHalf (code : Nat) : Bool := 0xD800 ≤ code && code < 0xDC00

def isTrailingHalf (code : Nat) : Bool := 0xDC00 ≤ code && code < 0xE000

inductive Escape
  | character (value : Char) (rest : List Char)
  /-- Half a surrogate pair without the other half. -/
  | lone (rest : List Char)
  | failed (fault : Fault)

namespace Escape

def rest : Escape → List Char
  | character _ rest => rest
  | lone rest => rest
  | failed _ => []

end Escape

def secondHalf (first : Nat) (text : List Char) : Escape :=
  match text with
  | [] => .failed .ended
  | ['\\'] => .failed .ended
  | '\\' :: 'u' :: digits =>
      match hexEscape digits with
      | .ok (second, rest) =>
          if isTrailingHalf second then
            .character (Char.ofNat (0x10000 + 0x400 * (first - 0xD800) + (second - 0xDC00))) rest
          else .lone text
      | .error .ended => .failed .ended
      | .error _ => .lone text
  | _ => .lone text

def readEscape (text : List Char) : Escape :=
  match hexEscape text with
  | .error fault => .failed fault
  | .ok (code, rest) =>
      if isLeadingHalf code then secondHalf code rest
      else if isTrailingHalf code then .lone rest
      else .character (Char.ofNat code) rest

theorem length_rest_secondHalf (first : Nat) (text : List Char) :
    (secondHalf first text).rest.length ≤ text.length := by
  unfold secondHalf
  split
  · simp [Escape.rest]
  · simp [Escape.rest]
  · split
    · rename_i read
      have shorter := length_of_hexEscape read
      split
      · simp only [Escape.rest, List.length_cons]
        omega
      · simp [Escape.rest]
    · simp [Escape.rest]
    · simp [Escape.rest]
  · simp [Escape.rest]

theorem length_rest_readEscape {text : List Char} :
    (readEscape text).rest.length ≤ text.length := by
  unfold readEscape
  split
  · simp [Escape.rest]
  · rename_i code rest read
    have shorter := length_of_hexEscape read
    have second := length_rest_secondHalf code rest
    split
    · omega
    · split
      · simp only [Escape.rest]
        omega
      · simp only [Escape.rest]
        omega

/-- A text that ends in a fault. Once it is spoiled a reader has stopped there already. -/
def brokenText (spoiled : Bool) (fault : Fault) : Token :=
  .broken (if spoiled then .malformed else fault) fault

/-- The rest of a text after its opening quote and the characters `read`, last first. -/
def scanText (spoiled : Bool) (read : List Char) (text : List Char) : Token × List Char :=
  match text with
  | [] => (brokenText spoiled .ended, [])
  | '"' :: rest =>
      (if spoiled then .spoiled else .text (String.ofList read.reverse), rest)
  | '\\' :: [] => (brokenText spoiled .ended, [])
  | '\\' :: 'u' :: digits =>
      match _escape : readEscape digits with
      | .character value rest => scanText spoiled (value :: read) rest
      | .lone rest => scanText true read rest
      | .failed fault => (brokenText spoiled fault, [])
  | '\\' :: letter :: rest =>
      match escaped? letter with
      | some value => scanText spoiled (value :: read) rest
      | none => (brokenText spoiled .malformed, [])
  | character :: rest =>
      if character.toNat < 0x20 then (brokenText spoiled .malformed, [])
      else scanText spoiled (character :: read) rest
termination_by text.length
decreasing_by
  · have shorter := @length_rest_readEscape digits
    simp only [_escape, Escape.rest] at shorter
    simp only [List.length_cons]
    omega
  · have shorter := @length_rest_readEscape digits
    simp only [_escape, Escape.rest] at shorter
    simp only [List.length_cons]
    omega
  · simp only [List.length_cons]
    omega
  · simp

theorem length_scanText (spoiled : Bool) (read text : List Char) :
    (scanText spoiled read text).2.length ≤ text.length := by
  fun_induction scanText spoiled read text with
  | case4 spoiled read digits value rest escape induction =>
      have shorter := @length_rest_readEscape digits
      simp only [escape, Escape.rest] at shorter
      simp only [List.length_cons]
      omega
  | case5 spoiled read digits rest escape induction =>
      have shorter := @length_rest_readEscape digits
      simp only [escape, Escape.rest] at shorter
      simp only [List.length_cons]
      omega
  | _ => simp_all only [List.length_cons, List.length_nil]; try omega

/-! ## Numbers -/

def scanDigits : List Char → List Nat × List Char
  | [] => ([], [])
  | character :: rest =>
      match Text.digit? character with
      | some digit => ((digit :: (scanDigits rest).1), (scanDigits rest).2)
      | none => ([], character :: rest)

theorem length_scanDigits (text : List Char) :
    (scanDigits text).1.length + (scanDigits text).2.length = text.length := by
  fun_induction scanDigits text with
  | case1 => rfl
  | case2 character rest digit known induction =>
      simp only [List.length_cons]
      omega
  | case3 => simp

def requiredDigits (text : List Char) : Except Fault (List Nat × List Char) :=
  match scanDigits text with
  | ([], []) => .error .ended
  | ([], _ :: _) => .error .malformed
  | found => .ok found

/-- The digits before the point. Only a lone zero starts with zero. -/
def wholeDigits (text : List Char) : Except Fault (List Nat × List Char) := do
  match ← requiredDigits text with
  | (0 :: _ :: _, _) => .error .malformed
  | found => .ok found

def fractionDigits : List Char → Except Fault (List Nat × List Char)
  | '.' :: rest => requiredDigits rest
  | rest => .ok ([], rest)

def exponentDigits : List Char → Except Fault (Option (Bool × List Nat) × List Char)
  | mark :: rest =>
      if mark = 'e' ∨ mark = 'E' then do
        let (below, digits) := match rest with
          | '+' :: rest => (false, rest)
          | '-' :: rest => (true, rest)
          | _ => (false, rest)
        let (found, rest) ← requiredDigits digits
        return (some (below, found), rest)
      else .ok (none, mark :: rest)
  | [] => .ok (none, [])

def scanLiteral (negative : Bool) (text : List Char) :
    Except Fault (Number.Literal × List Char) := do
  let (whole, rest) ← wholeDigits text
  let (fraction, rest) ← fractionDigits rest
  let (exponent, rest) ← exponentDigits rest
  return (⟨negative, whole, fraction, exponent⟩, rest)

def scanNumber (negative : Bool) (text : List Char) : Token × List Char :=
  match scanLiteral negative text with
  | .ok (literal, rest) =>
      ((Number.ofLiteral? literal).elim .spoiled .number, rest)
  | .error fault => (.broken fault fault, [])

/-! ## Words -/

def scanWord (token : Token) : (expected text : List Char) → Token × List Char
  | [], text => (token, text)
  | _ :: _, [] => (.broken .ended .ended, [])
  | letter :: expected, character :: text =>
      if letter = character then scanWord token expected text
      else (.broken .malformed .malformed, [])

/-! ## All tokens -/

def isSpace (character : Char) : Bool :=
  character == ' ' || character == '\n' || character == '\t' || character == '\r'

/-- The token that starts with this character, which is no space, and what follows it. -/
def scanToken (character : Char) (rest : List Char) : Token × List Char :=
  match character with
  | '\x7b' => (.openObject, rest)
  | '\x7d' => (.closeObject, rest)
  | '[' => (.openArray, rest)
  | ']' => (.closeArray, rest)
  | ':' => (.colon, rest)
  | ',' => (.comma, rest)
  | '"' => scanText false [] rest
  | 't' => scanWord (.boolean true) "rue".toList rest
  | 'f' => scanWord (.boolean false) "alse".toList rest
  | 'n' => scanWord .null "ull".toList rest
  | '-' => scanNumber true rest
  | _ =>
      if character.isDigit then scanNumber false (character :: rest)
      else (.broken .malformed .malformed, [])

/-- Up to `fuel` tokens. Every token takes at least one character, so the length of the text is
enough. -/
def tokensWithin : (fuel : Nat) → List Char → List Token
  | 0, _ => []
  | _ + 1, [] => []
  | fuel + 1, character :: rest =>
      if isSpace character then tokensWithin fuel rest
      else
        let (token, rest) := scanToken character rest
        token :: tokensWithin fuel rest

/-- The tokens of a text. After a broken token nothing follows. -/
def tokens (text : List Char) : List Token :=
  tokensWithin text.length text

end Grading.Json
