import Grading.Json.Token

namespace Grading.Json

/-! Documents as trees. A tree keeps the faults of its text at the places where a reader meets them:
reading goes through a tree in the order of the text, so the first fault met is the first in the
text, whether it is one of notation or one of content. -/

inductive Document
  | null
  | boolean (value : Bool)
  | number (value : Number)
  | text (value : String)
  | spoiled
  /-- A value with a fault, which may differ between reading and skipping it. -/
  | broken (reading skipping : Fault)
  /-- Elements, and the fault that keeps the array from being closed. -/
  | array (elements : List Document) (ending : Option Fault)
  /-- Members in the order of the text. A member without a name has a spoiled one. -/
  | object (members : List (Option String × Document)) (ending : Option Fault)

namespace Document

/-- The fault of ending too early if nothing is left, of breaking the rules otherwise. -/
def unexpected (rest : List Token) : Fault :=
  if rest.isEmpty then .ended else .malformed

/-- What the elements or members of a container are, why it is not closed, and what follows it. -/
structure Scanned (α : Type) where
  items : List α
  ending : Option Fault
  rest : List Token

mutual

/-- The value in front. Every call takes a token, so `fuel` as large as their number is enough. -/
def scan : (fuel : Nat) → List Token → Document × List Token
  | 0, _ => (.broken .ended .ended, [])
  | _ + 1, [] => (.broken .ended .ended, [])
  | fuel + 1, token :: rest =>
      match token with
      | .null => (.null, rest)
      | .boolean value => (.boolean value, rest)
      | .number value => (.number value, rest)
      | .text value => (.text value, rest)
      | .spoiled => (.spoiled, rest)
      | .broken reading skipping => (.broken reading skipping, [])
      | .openArray =>
          match rest with
          | [] => (.array [] (some .ended), [])
          | .closeArray :: rest => (.array [] none, rest)
          | _ =>
              let scanned := scanElements fuel rest
              (.array scanned.items scanned.ending, scanned.rest)
      | .openObject =>
          match rest with
          | .closeObject :: rest => (.object [] none, rest)
          | _ =>
              let scanned := scanMembers fuel rest
              (.object scanned.items scanned.ending, scanned.rest)
      | _ => (.broken .malformed .malformed, [])

/-- Elements from a value on, up to the closing bracket. -/
def scanElements : (fuel : Nat) → List Token → Scanned Document
  | 0, _ => ⟨[], some .ended, []⟩
  | fuel + 1, tokens =>
      let (element, rest) := scan fuel tokens
      match rest with
      | .comma :: rest =>
          let more := scanElements fuel rest
          ⟨element :: more.items, more.ending, more.rest⟩
      | .closeArray :: rest => ⟨[element], none, rest⟩
      | _ => ⟨[element], some (unexpected rest), []⟩

/-- Members from a name on, up to the closing brace. -/
def scanMembers : (fuel : Nat) → List Token → Scanned (Option String × Document)
  | 0, _ => ⟨[], some .ended, []⟩
  | fuel + 1, tokens =>
      match tokens with
      | .text name :: rest => scanMember fuel (some name) rest
      | .spoiled :: rest => scanMember fuel none rest
      | .broken reading _ :: _ => ⟨[], some reading, []⟩
      | _ => ⟨[], some (unexpected tokens), []⟩

/-- A member from behind its name on, and the members after it. -/
def scanMember : (fuel : Nat) → Option String → List Token → Scanned (Option String × Document)
  | 0, name, _ => ⟨[(name, .broken .ended .ended)], some .ended, []⟩
  | fuel + 1, name, tokens =>
      match tokens with
      | .colon :: rest =>
          let (value, rest) := scan fuel rest
          match rest with
          | .comma :: rest =>
              let more := scanMembers fuel rest
              ⟨(name, value) :: more.items, more.ending, more.rest⟩
          | .closeObject :: rest => ⟨[(name, value)], none, rest⟩
          | _ => ⟨[(name, value)], some (unexpected rest), []⟩
      | _ =>
          let fault := unexpected tokens
          ⟨[(name, .broken fault fault)], some fault, []⟩

end

/-- The document of a text, and whether nothing follows it. -/
def ofText (text : List Char) : Document × Bool :=
  let tokens := tokens text
  let (document, rest) := scan (2 * tokens.length + 1) tokens
  (document, rest.isEmpty)

end Document

end Grading.Json
