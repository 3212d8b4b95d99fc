import Grading.Json.Number

namespace Grading.Json

/-! Values to be written, and their texts: compact in one line, or indented. -/

inductive Value
  | null
  | boolean (value : Bool)
  | number (value : Number)
  | text (value : String)
  | array (elements : List Value)
  | object (members : List (String × Value))
  deriving Inhabited

namespace Value

def natural (value : Nat) : Value := .number (.natural value)

def real (value : Float) : Value := .number (.real value)

def integer (value : Int) : Value :=
  if value < 0 then .number (.negative value.natAbs) else natural value.toNat

def optional {α : Type} (write : α → Value) : Option α → Value
  | none => .null
  | some value => write value

/-! ## Texts in quotes -/

def controlEscape (code : Nat) : List Char :=
  ['\\', 'u', '0', '0', Text.hexDigit (code / 16), Text.hexDigit (code % 16)]

def escape (character : Char) : List Char :=
  match character with
  | '"' => ['\\', '"']
  | '\\' => ['\\', '\\']
  | '\x08' => ['\\', 'b']
  | '\x0c' => ['\\', 'f']
  | '\n' => ['\\', 'n']
  | '\r' => ['\\', 'r']
  | '\t' => ['\\', 't']
  | _ => if character.toNat < 0x20 then controlEscape character.toNat else [character]

def quoted (text : String) : List Char :=
  '"' :: text.toList.flatMap escape ++ ['"']

/-! ## Compact text -/

mutual

def compact : Value → List Char
  | .null => "null".toList
  | .boolean true => "true".toList
  | .boolean false => "false".toList
  | .number value => value.text.toList
  | .text value => quoted value
  | .array elements => '[' :: compactElements elements ++ [']']
  | .object members => '\x7b' :: compactMembers members ++ ['\x7d']

def compactElements : List Value → List Char
  | [] => []
  | [element] => compact element
  | element :: rest => compact element ++ ',' :: compactElements rest

def compactMembers : List (String × Value) → List Char
  | [] => []
  | [(name, value)] => quoted name ++ ':' :: compact value
  | (name, value) :: rest => quoted name ++ ':' :: compact value ++ ',' :: compactMembers rest

end

/-- The text in one line without spaces. -/
def toText (value : Value) : String := String.ofList (compact value)

/-! ## Indented text -/

def newLine (depth : Nat) : List Char := '\n' :: List.replicate (2 * depth) ' '

mutual

def indented (depth : Nat) : Value → List Char
  | .array (element :: rest) =>
      '[' :: indentedElements (depth + 1) (element :: rest) ++ newLine depth ++ [']']
  | .object (member :: rest) =>
      '\x7b' :: indentedMembers (depth + 1) (member :: rest) ++ newLine depth ++ ['\x7d']
  | value => compact value

def indentedElements (depth : Nat) : List Value → List Char
  | [] => []
  | [element] => newLine depth ++ indented depth element
  | element :: rest =>
      newLine depth ++ indented depth element ++ ',' :: indentedElements depth rest

def indentedMembers (depth : Nat) : List (String × Value) → List Char
  | [] => []
  | [(name, value)] => newLine depth ++ quoted name ++ ':' :: ' ' :: indented depth value
  | (name, value) :: rest =>
      newLine depth ++ quoted name ++ ':' :: ' ' :: indented depth value ++
        ',' :: indentedMembers depth rest

end

/-- The text with one member or element a line. -/
def toIndentedText (value : Value) : String := String.ofList (indented 0 value)

end Value

end Grading.Json
