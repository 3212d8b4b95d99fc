import Grading.Pattern.Error
import Grading.Pattern.Expression
import Grading.Pattern.Property
import Grading.Text.Numeral

namespace Grading.Pattern

/-! Reading the written form of patterns. -/

/-- What the flags of a pattern switch on or off, up to the end of the group they stand in. -/
structure Flags where
  ignoresCase : Bool
  /-- `^` and `$` stand for the ends of lines. -/
  multiline : Bool
  dotAll : Bool
  /-- Repetitions are lazy unless they are marked. -/
  lazyFirst : Bool
  unicode : Bool
  /-- Blanks and comments are skipped. -/
  verbose : Bool
  /-- Carriage returns end lines too. -/
  returns : Bool
  deriving DecidableEq, Repr

namespace Flags

def default : Flags := ⟨false, false, false, false, true, false, false⟩

def set? (flags : Flags) (letter : Char) (value : Bool) : Option Flags :=
  match letter with
  | 'i' => some { flags with ignoresCase := value }
  | 'm' => some { flags with multiline := value }
  | 's' => some { flags with dotAll := value }
  | 'U' => some { flags with lazyFirst := value }
  | 'u' => some { flags with unicode := value }
  | 'x' => some { flags with verbose := value }
  | 'R' => some { flags with returns := value }
  | _ => none

def fold (flags : Flags) (set : CharSet) : CharSet :=
  if flags.ignoresCase then .folded set else set

def skipBlanks (comment : Bool) : List Char → List Char
  | [] => []
  | character :: rest =>
      if comment then skipBlanks (character != '\n') rest
      else if Text.isBlank character then skipBlanks false rest
      else if character = '#' then skipBlanks true rest
      else character :: rest

/-- The text without the blanks and comments in front, if these are skipped. -/
def skip (flags : Flags) (text : List Char) : List Char :=
  if flags.verbose then skipBlanks false text else text

end Flags

namespace Reader

abbrev WithRest (α : Type) := α × List Char

/-! ## Escapes -/

inductive Primitive
  | character (value : Char)
  | set (value : CharSet)
  | condition (value : Condition)

/-- Characters that mean something of their own unless a backslash precedes them. -/
def isMeta (character : Char) : Bool := "\\.+*?()|[]\x7b\x7d^$#&-~".toList.contains character

/-- Characters that a backslash leaves as they are. -/
def isEscapable (character : Char) : Bool :=
  isMeta character ||
    (Text.isAscii character && !character.isAlphanum && character != '<' && character != '>')

def hexDigits (flags : Flags) : (count : Nat) → Nat → List Char → Except PatternError (WithRest Nat)
  | 0, value, text => .ok (value, text)
  | _ + 1, _, [] => .error .unfinishedEscape
  | count + 1, value, character :: rest =>
      match Text.hexDigit? character with
      | some digit => hexDigits flags count (16 * value + digit) (flags.skip rest)
      | none => .error .badCode

def bracedDigits : Nat → List Char → Except PatternError (WithRest Nat)
  | _, [] => .error .unfinishedEscape
  | value, '\x7d' :: rest => .ok (value, rest)
  | value, character :: rest =>
      match Text.hexDigit? character with
      | some digit => bracedDigits (16 * value + digit) rest
      | none => .error .badCode

/-- The character of a code, which may not be half a surrogate pair. -/
def characterOf (code : Nat) : Except PatternError Char :=
  if code.isValidChar then .ok (Char.ofNat code) else .error .badCode

/-- The code of a character, from behind the letter that says how many digits it has. Without
Unicode two digits stand for a byte, and only ASCII bytes are text. -/
def codeValue (flags : Flags) (count : Nat) (text : List Char) :
    Except PatternError (WithRest Nat) :=
  match flags.skip text with
  | [] => .error .unfinishedEscape
  | '\x7b' :: '\x7d' :: _ => .error .badCode
  | '\x7b' :: rest => bracedDigits 0 rest
  | rest => do
      let (value, rest) ← hexDigits flags count 0 rest
      if count == 2 && !flags.unicode && 0x80 ≤ value then throw .invalidBytes
      return (value, rest)

def code (flags : Flags) (count : Nat) (text : List Char) :
    Except PatternError (WithRest Primitive) := do
  let (value, rest) ← codeValue flags count text
  let character ← characterOf value
  return (.character character, rest)

/-- A set without case, negated if `negated`. Without Unicode no set may be negated, as its
complement is not text. -/
def classOf (flags : Flags) (negated : Bool) (unicode ascii : CharSet) :
    Except PatternError Primitive :=
  let set := if flags.unicode then unicode else ascii
  if !negated then .ok (.set set)
  else if flags.unicode then .ok (.set (.complement set))
  else .error .invalidBytes

/-- A property between braces or of one letter, from behind `p` or `P`. -/
def property (flags : Flags) (negated : Bool) (text : List Char) :
    Except PatternError (WithRest Primitive) := do
  let (name, rest) ← match flags.skip text with
    | [] => .error .unfinishedEscape
    | '\x7b' :: rest =>
        match rest.dropWhile (· != '\x7d') with
        | [] => .error .unfinishedEscape
        | _ :: after => .ok (rest.takeWhile (· != '\x7d'), after)
    | letter :: rest => .ok ([letter], rest)
  if !flags.unicode then throw .invalidBytes
  match CharSet.property? name with
  | none => throw (.unknownProperty (String.ofList name))
  | some set =>
      let set := flags.fold set
      return (.set (if negated then .complement set else set), rest)

def boundaries : List (String × Condition) :=
  [("start", .wordStart), ("end", .wordEnd), ("start-half", .afterNoWord),
    ("end-half", .beforeNoWord)]

def isBoundaryLetter (character : Char) : Bool := character.isAlpha || character == '-'

/-- A word boundary, from behind its letter. A name between braces says which kind; braces that
hold something else are left for a repetition. -/
def boundary (flags : Flags) (text : List Char) : Except PatternError (WithRest Primitive) :=
  match text with
  | '\x7b' :: rest =>
      match flags.skip rest with
      | [] => .error .badWordBoundary
      | first :: others =>
          if isBoundaryLetter first then
            let name := (first :: others).takeWhile isBoundaryLetter
            match flags.skip ((first :: others).dropWhile isBoundaryLetter) with
            | '\x7d' :: rest =>
                match boundaries.lookup (String.ofList name) with
                | some condition => .ok (.condition condition, rest)
                | none => .error .badWordBoundary
            | _ => .error .badWordBoundary
          else .ok (.condition .wordBoundary, text)
  | _ => .ok (.condition .wordBoundary, text)

def control? : Char → Option Char
  | 'a' => some '\x07'
  | 'f' => some '\x0c'
  | 't' => some '\t'
  | 'n' => some '\n'
  | 'r' => some '\r'
  | 'v' => some '\x0b'
  | _ => none

def escape (flags : Flags) (text : List Char) : Except PatternError (WithRest Primitive) :=
  match text with
  | [] => .error .unfinishedEscape
  | letter :: rest =>
      let withRest (primitive : Except PatternError Primitive) :
          Except PatternError (WithRest Primitive) :=
        primitive.map fun primitive => (primitive, rest)
      if letter.isDigit then .error .backReference
      else if isEscapable letter then .ok (.character letter, rest)
      else match letter with
        | 'x' => code flags 2 rest
        | 'u' => code flags 4 rest
        | 'U' => code flags 8 rest
        | 'p' => property flags false rest
        | 'P' => property flags true rest
        | 'd' => withRest (classOf flags false .digit .asciiDigit)
        | 'D' => withRest (classOf flags true .digit .asciiDigit)
        | 's' => withRest (classOf flags false .blank .asciiBlank)
        | 'S' => withRest (classOf flags true .blank .asciiBlank)
        | 'w' => withRest (classOf flags false .word .asciiWord)
        | 'W' => withRest (classOf flags true .word .asciiWord)
        | 'A' => .ok (.condition .textStart, rest)
        | 'z' => .ok (.condition .textEnd, rest)
        | 'b' => boundary flags rest
        | 'B' => .ok (.condition .noWordBoundary, rest)
        | '<' => .ok (.condition .wordStart, rest)
        | '>' => .ok (.condition .wordEnd, rest)
        | _ =>
            match control? letter with
            | some character => .ok (.character character, rest)
            | none => .error (.unknownEscape letter)

/-! ## Classes -/

inductive SetOperation
  | intersection
  | difference
  | exclusive

namespace SetOperation

def apply (flags : Flags) (operation : SetOperation) (left right : CharSet) : CharSet :=
  let left := flags.fold left
  let right := flags.fold right
  match operation with
  | intersection => .intersection left right
  | difference => .difference left right
  | exclusive => .exclusive left right

end SetOperation

/-- The part of a class before the current operation, and the items since, last first. -/
structure ClassState where
  pending : Option (CharSet × SetOperation)
  items : List CharSet

namespace ClassState

def empty : ClassState := ⟨none, []⟩

def push (state : ClassState) (item : CharSet) : ClassState :=
  { state with items := item :: state.items }

def close (flags : Flags) (state : ClassState) : CharSet :=
  let items := CharSet.unionAll state.items.reverse
  match state.pending with
  | none => items
  | some (left, operation) => operation.apply flags left items

def operate (flags : Flags) (state : ClassState) (operation : SetOperation) : ClassState :=
  ⟨some (state.close flags, operation), []⟩

end ClassState

/-- A named class of ASCII characters, from behind its bracket: its name between colons. -/
def asciiClass? (text : List Char) : Option (CharSet × List Char) :=
  match text with
  | ':' :: rest =>
      let (negated, rest) := match rest with
        | '^' :: rest => (true, rest)
        | _ => (false, rest)
      match rest.dropWhile (· != ':') with
      | ':' :: ']' :: after => do
          let set ← CharSet.asciiClasses.lookup (String.ofList (rest.takeWhile (· != ':')))
          return (if negated then .complement set else set, after)
      | _ => none
  | _ => none

def classItem (flags : Flags) (text : List Char) : Except PatternError (WithRest Primitive) :=
  match text with
  | [] => .error .unclosedClass
  | '\\' :: rest => escape flags rest
  | character :: rest => .ok (.character character, rest)

/-- A character inside a class. Without Unicode there is only ASCII. -/
def classCharacter (flags : Flags) (value : Char) : Except PatternError Char :=
  if flags.unicode || Text.isAscii value then .ok value else .error .invalidBytes

def itemSet (flags : Flags) : Primitive → Except PatternError CharSet
  | .character value => (classCharacter flags value).map .single
  | .set value => .ok value
  | .condition _ => .error .conditionInClass

def rangeEnd (flags : Flags) : Primitive → Except PatternError Char
  | .character value => classCharacter flags value
  | _ => .error .rangeOfClasses

/-- An item or a range of a class. A hyphen before the closing bracket or another hyphen makes no
range. -/
def classRange (flags : Flags) (text : List Char) : Except PatternError (WithRest CharSet) := do
  let (first, rest) ← classItem flags text
  match flags.skip rest with
  | [] => throw .unclosedClass
  | '-' :: rest =>
      match flags.skip rest with
      | [] => throw .unclosedClass
      | next :: others =>
          if next = ']' ∨ next = '-' then return (← itemSet flags first, '-' :: rest)
          else
            let (last, rest) ← classItem flags (next :: others)
            let first ← rangeEnd flags first
            let last ← rangeEnd flags last
            if first ≤ last then return (.range first last, rest)
            else throw (.rangeReversed first last)
  | rest => return (← itemSet flags first, rest)

/-- The hyphens in front of a class, which stand for themselves. -/
def leadingHyphens (flags : Flags) (state : ClassState) : (fuel : Nat) → List Char →
    ClassState × List Char
  | 0, text => (state, text)
  | fuel + 1, text =>
      match text with
      | '-' :: rest => leadingHyphens flags (state.push (.single '-')) fuel (flags.skip rest)
      | _ => (state, text)

/-- Whether a class is negated, its first items, and what follows them. A closing bracket that
comes first stands for itself. -/
def classOpening (flags : Flags) (text : List Char) : Bool × ClassState × List Char :=
  let text := flags.skip text
  let (negated, text) := match text with
    | '^' :: rest => (true, flags.skip rest)
    | _ => (false, text)
  let (state, text) := leadingHyphens flags .empty text.length text
  match state.items, text with
  | [], ']' :: rest => (negated, state.push (.single ']'), flags.skip rest)
  | _, _ => (negated, state, text)

def classClosing (flags : Flags) (negated : Bool) (state : ClassState) :
    Except PatternError CharSet :=
  let set := flags.fold (state.close flags)
  if !negated then .ok set
  else if flags.unicode then .ok (.complement set)
  else .error .invalidBytes

/-- The items of a class up to its closing bracket. `outer` holds the classes around it. Every round
takes a character, so the length of the text is enough. -/
def classItems (flags : Flags) : (fuel : Nat) → (negated : Bool) → ClassState →
    (outer : List (Bool × ClassState)) → List Char → Except PatternError (WithRest CharSet)
  | 0, _, _, _, _ => .error .unclosedClass
  | fuel + 1, negated, state, outer, text =>
      match flags.skip text with
      | [] => .error .unclosedClass
      | '[' :: rest =>
          match asciiClass? rest with
          | some (set, rest) => classItems flags fuel negated (state.push set) outer rest
          | none =>
              let (nestedNegated, nested, rest) := classOpening flags rest
              classItems flags fuel nestedNegated nested ((negated, state) :: outer) rest
      | ']' :: rest => do
          let set ← classClosing flags negated state
          match outer with
          | [] => return (set, rest)
          | (negated, state) :: outer =>
              classItems flags fuel negated (state.push set) outer rest
      | '&' :: '&' :: rest =>
          classItems flags fuel negated (state.operate flags .intersection) outer rest
      | '-' :: '-' :: rest =>
          classItems flags fuel negated (state.operate flags .difference) outer rest
      | '~' :: '~' :: rest =>
          classItems flags fuel negated (state.operate flags .exclusive) outer rest
      | text => do
          let (set, rest) ← classRange flags text
          classItems flags fuel negated (state.push set) outer rest

def characterClass (flags : Flags) (text : List Char) : Except PatternError (WithRest CharSet) :=
  let (negated, state, rest) := classOpening flags text
  classItems flags (text.length + 1) negated state [] rest

/-! ## Repetitions -/

structure Count where
  least : Nat
  most : Option Nat

def decimal (flags : Flags) (text : List Char) : Except PatternError (WithRest Nat) :=
  let text := text.dropWhile Text.isBlank
  let (digits, rest) := digitsAfter [] text
  match digits with
  | [] => .error .badCount
  | digits =>
      let value := (Text.digitsValue? 0 digits.reverse).getD 0
      if value < Nat.pow 2 32 then .ok (value, rest.dropWhile Text.isBlank) else .error .badCount
where
  digitsAfter (read : List Char) : List Char → List Char × List Char
    | [] => (read, [])
    | character :: rest =>
        if character.isDigit then digitsAfter (character :: read) rest
        else if !read.isEmpty && flags.verbose && Text.isBlank character then digitsAfter read rest
        else (read, character :: rest)

def count (flags : Flags) (text : List Char) : Except PatternError (WithRest Count) := do
  let text := flags.skip text
  if text.isEmpty then throw .unclosedCount
  let least := decimal flags text
  let afterLeast := match least with
    | .ok (_, rest) => rest
    | .error _ => text.dropWhile Text.isBlank
  match afterLeast with
  | [] => throw .unclosedCount
  | ',' :: rest =>
      match flags.skip rest with
      | [] => throw .unclosedCount
      | '\x7d' :: rest =>
          let (least, _) ← least
          return (⟨least, none⟩, rest)
      | rest =>
          let (least, _) ← least
          let (most, rest) ← decimal flags rest
          match rest with
          | '\x7d' :: rest =>
              if least ≤ most then return (⟨least, some most⟩, rest) else throw .countsReversed
          | _ => throw .unclosedCount
  | rest =>
      let (least, _) ← least
      match rest with
      | '\x7d' :: rest => return (⟨least, some least⟩, rest)
      | _ => throw .unclosedCount

def greediness (flags : Flags) (text : List Char) : Bool × List Char :=
  match text with
  | '?' :: rest => (flags.lazyFirst, rest)
  | _ => (!flags.lazyFirst, text)

/-- The repetition of an expression. No repetition is the empty text, one is the expression. -/
def repetition (inner : Expression) (count : Count) (greedy : Bool) : Expression :=
  match count.least, count.most with
  | 0, some 0 => .empty
  | 1, some 1 => inner
  | least, most => .loop inner least most greedy

/-! ## Groups -/

inductive Opening
  /-- Flags for the rest of the surrounding group. -/
  | directive (flags : Flags)
  /-- A group under these flags that is not remembered. -/
  | plain (flags : Flags)
  | numbered
  | named (name : String)

/-- Flags up to a colon or a closing parenthesis. `read` are the flags so far. -/
def flagLetters (flags : Flags) (value : Bool) (read : List Char) : List Char →
    Except PatternError (WithRest Flags)
  | [] => .error .unclosedFlags
  | character :: rest =>
      if character = ':' ∨ character = ')' then
        if read.head? = some '-' then .error .danglingNegation
        else .ok (flags, character :: rest)
      else if read.contains character then .error (.repeatedFlag character)
      else if character = '-' then flagLetters flags false (character :: read) rest
      else match flags.set? character value with
        | some flags => flagLetters flags value (character :: read) rest
        | none => .error (.unknownFlag character)

def isNameCharacter (first : Bool) (character : Char) : Bool :=
  if first then character == '_' || Text.isLetter character
  else character == '_' || character == '.' || character == '[' || character == ']' ||
    Text.isLetter character || Text.isNumeral character

def groupName (text : List Char) : Except PatternError (WithRest String) :=
  let name := text.takeWhile (· != '>')
  match name, text.dropWhile (· != '>') with
  | first :: others, _ :: rest =>
      if isNameCharacter true first && others.all (isNameCharacter false) then
        .ok (String.ofList name, rest)
      else .error .badGroupName
  | _, _ => .error .badGroupName

def opening (flags : Flags) (text : List Char) : Except PatternError (WithRest Opening) :=
  match flags.skip text with
  | '?' :: '=' :: _ => .error .lookAround
  | '?' :: '!' :: _ => .error .lookAround
  | '?' :: '<' :: '=' :: _ => .error .lookAround
  | '?' :: '<' :: '!' :: _ => .error .lookAround
  | '?' :: 'P' :: '<' :: rest => (groupName rest).map fun (name, rest) => (.named name, rest)
  | '?' :: '<' :: rest => (groupName rest).map fun (name, rest) => (.named name, rest)
  | '?' :: [] => .error .unclosedGroup
  | '?' :: ')' :: _ => .error .nothingToRepeat
  | '?' :: rest =>
      match flagLetters flags true [] rest with
      | .error error => .error error
      | .ok (flags, ':' :: rest) => .ok (.plain flags, rest)
      | .ok (flags, rest) => .ok (.directive flags, rest.drop 1)
  | rest => .ok (.numbered, rest)

/-! ## Whole patterns -/

/-- How far the reading got: the rest of the text, the number of the last group, and the names. -/
structure Progress where
  rest : List Char
  groups : Nat
  names : List (String × Nat)

/-- An expression, or a place at which only flags changed. -/
inductive Item
  | part (expression : Expression)
  | directive

namespace Item

def expression : Item → Expression
  | part expression => expression
  | directive => .empty

end Item

/-- The expression of the items since the last bar, and of the alternatives before it, both last
first. -/
def alternatives (branches : List Expression) (items : List Item) : Expression :=
  let parts := items.reverse.filterMap fun
    | .part expression => some expression
    | .directive => none
  Expression.eitherAll ((Expression.concatAll parts :: branches).reverse)

def primitive (flags : Flags) : Primitive → Expression
  | .character value => .one (flags.fold (.single value))
  | .set value => .one value
  | .condition value => .condition value

def dot (flags : Flags) : Except PatternError Expression :=
  if !flags.unicode then .error .invalidBytes
  else if flags.dotAll then .ok (.one .anything)
  else if flags.returns then .ok (.one (.complement (.union (.single '\r') (.single '\n'))))
  else .ok (.one (.complement (.single '\n')))

def atom (flags : Flags) (character : Char) (rest : List Char) :
    Except PatternError (WithRest Expression) :=
  match character with
  | '\\' => (escape flags rest).map fun (value, rest) => (primitive flags value, rest)
  | '[' => (characterClass flags rest).map fun (set, rest) => (.one set, rest)
  | '.' => (dot flags).map fun expression => (expression, rest)
  | '^' =>
      .ok (.condition (if flags.multiline then .lineStart flags.returns else .textStart), rest)
  | '$' => .ok (.condition (if flags.multiline then .lineEnd flags.returns else .textEnd), rest)
  | _ => .ok (primitive flags (.character character), rest)

def repetitionCount (flags : Flags) (sign : Char) (rest : List Char) :
    Except PatternError (WithRest Count) :=
  match sign with
  | '?' => .ok (⟨0, some 1⟩, rest)
  | '*' => .ok (⟨0, none⟩, rest)
  | '+' => .ok (⟨1, none⟩, rest)
  | _ => (count flags rest).map fun (count, rest) => (count, flags.skip rest)

def isRepetition (character : Char) : Bool :=
  character == '?' || character == '*' || character == '+' || character == '\x7b'

/-- Alternatives up to the end of the group, or of the text if `inside` is false. Every round takes
a character, so the length of the text is enough. -/
def expressionWithin : (fuel : Nat) → (inside : Bool) → Flags → (branches : List Expression) →
    (items : List Item) → Progress → Except PatternError (Expression × Progress)
  | 0, _, _, _, _, _ => .error .tooLarge
  | fuel + 1, inside, flags, branches, items, progress =>
      match flags.skip progress.rest with
      | [] =>
          if inside then .error .unclosedGroup
          else .ok (alternatives branches items, { progress with rest := [] })
      | ')' :: rest =>
          if inside then .ok (alternatives branches items, { progress with rest })
          else .error .unopenedGroup
      | '|' :: rest =>
          expressionWithin fuel inside flags (concatItems items :: branches) []
            { progress with rest }
      | '(' :: rest => do
          let (opening, rest) ← opening flags rest
          match opening with
          | .directive flags =>
              expressionWithin fuel inside flags branches (.directive :: items)
                { progress with rest }
          | .plain innerFlags =>
              let (inner, progress) ←
                expressionWithin fuel true innerFlags [] [] { progress with rest }
              expressionWithin fuel inside flags branches (.part inner :: items) progress
          | .numbered =>
              let index := progress.groups + 1
              let (inner, progress) ←
                expressionWithin fuel true flags [] [] { progress with rest, groups := index }
              expressionWithin fuel inside flags branches (.part (.group index inner) :: items)
                progress
          | .named name =>
              let index := progress.groups + 1
              if progress.names.any (·.1 == name) then throw (.duplicateGroupName name)
              let (inner, progress) ← expressionWithin fuel true flags [] []
                { rest, groups := index, names := progress.names ++ [(name, index)] }
              expressionWithin fuel inside flags branches (.part (.group index inner) :: items)
                progress
      | character :: rest =>
          if isRepetition character then
            match items with
            | .part inner :: others => do
                let (count, rest) ← repetitionCount flags character rest
                let (greedy, rest) := greediness flags rest
                expressionWithin fuel inside flags branches
                  (.part (repetition inner count greedy) :: others) { progress with rest }
            | _ => .error .nothingToRepeat
          else do
            let (part, rest) ← atom flags character rest
            expressionWithin fuel inside flags branches (.part part :: items)
              { progress with rest }
where
  concatItems (items : List Item) : Expression := alternatives [] items

def expression (text : String) : Except PatternError (Expression × List (String × Nat)) := do
  let (expression, progress) ← expressionWithin (text.length + 1) false .default [] []
    ⟨text.toList, 0, []⟩
  return (expression, progress.names)

end Reader

end Grading.Pattern
