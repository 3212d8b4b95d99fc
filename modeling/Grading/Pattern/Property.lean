import Grading.Pattern.CharSet
import Grading.Text.CategoryTable
import Grading.Text.ScriptTable

namespace Grading.Pattern

/-! Properties of characters that patterns call by their names. -/

namespace CharSet

/-! ## General categories -/

def nonspacingMark : CharSet := codes Text.nonspacingMarkRanges

def letterNumber : CharSet := codes Text.letterNumberRanges

def otherSymbol : CharSet := codes Text.otherSymbolRanges

def modifierLetter : CharSet := codes Text.modifierLetterRanges

def titlecaseLetter : CharSet := codes Text.titlecaseRanges

def spacingMark : CharSet := codes Text.spacingMarkRanges

def mark : CharSet := unionAll [nonspacingMark, spacingMark, codes Text.enclosingMarkRanges]

/-- Letters in the narrow sense: no marks, numerals or symbols. -/
def plainLetter : CharSet := difference letter (unionAll [mark, letterNumber, otherSymbol])

def uppercaseLetter : CharSet := difference capital (union letterNumber otherSymbol)

def lowercaseLetter : CharSet :=
  difference small (unionAll [modifierLetter, letterNumber, otherSymbol, nonspacingMark,
    single '\u00aa', single '\u00ba'])

def casedLetter : CharSet := unionAll [uppercaseLetter, lowercaseLetter, titlecaseLetter]

def otherLetter : CharSet := difference plainLetter (union casedLetter modifierLetter)

def otherNumber : CharSet := difference numeral (union digit letterNumber)

def punctuation : CharSet :=
  codes (Text.connectorRanges ++ Text.dashRanges ++ Text.openingRanges ++ Text.closingRanges ++
    Text.openingQuoteRanges ++ Text.closingQuoteRanges ++ Text.otherPunctuationRanges)

def symbol : CharSet :=
  unionAll [codes Text.mathematicalRanges, codes Text.currencyRanges,
    codes Text.modifierSymbolRanges, otherSymbol]

def separator : CharSet := difference blank (union (range '\t' '\r') (single '\u0085'))

def spaceSeparator : CharSet := difference separator (range '\u2028' '\u2029')

def control : CharSet := union (range '\x00' '\x1f') (range '\x7f' '\u009f')

def visible : CharSet :=
  unionAll [plainLetter, mark, numeral, punctuation, symbol, separator]

def assigned : CharSet :=
  unionAll [visible, control, codes Text.formatRanges, codes Text.privateRanges]

/-- The categories by their short names, and the words of their long ones. -/
def categories : List (String × String × CharSet) :=
  [("l", "letter", plainLetter), ("lc", "casedletter", casedLetter),
    ("lu", "uppercaseletter", uppercaseLetter), ("ll", "lowercaseletter", lowercaseLetter),
    ("lt", "titlecaseletter", titlecaseLetter), ("lm", "modifierletter", modifierLetter),
    ("lo", "otherletter", otherLetter), ("m", "mark", mark), ("m", "combiningmark", mark),
    ("mn", "nonspacingmark", nonspacingMark), ("mc", "spacingmark", spacingMark),
    ("me", "enclosingmark", codes Text.enclosingMarkRanges), ("n", "number", numeral),
    ("nd", "decimalnumber", digit), ("nd", "digit", digit),
    ("nl", "letternumber", letterNumber), ("no", "othernumber", otherNumber),
    ("p", "punctuation", punctuation), ("p", "punct", punctuation),
    ("pc", "connectorpunctuation", codes Text.connectorRanges),
    ("pd", "dashpunctuation", codes Text.dashRanges),
    ("ps", "openpunctuation", codes Text.openingRanges),
    ("pe", "closepunctuation", codes Text.closingRanges),
    ("pi", "initialpunctuation", codes Text.openingQuoteRanges),
    ("pf", "finalpunctuation", codes Text.closingQuoteRanges),
    ("po", "otherpunctuation", codes Text.otherPunctuationRanges), ("s", "symbol", symbol),
    ("sm", "mathsymbol", codes Text.mathematicalRanges),
    ("sc", "currencysymbol", codes Text.currencyRanges),
    ("sk", "modifiersymbol", codes Text.modifierSymbolRanges),
    ("so", "othersymbol", otherSymbol), ("z", "separator", separator),
    ("zs", "spaceseparator", spaceSeparator), ("zl", "lineseparator", single '\u2028'),
    ("zp", "paragraphseparator", single '\u2029'), ("c", "other", complement visible),
    ("cc", "control", control), ("cc", "cntrl", control),
    ("cf", "format", codes Text.formatRanges), ("co", "privateuse", codes Text.privateRanges),
    ("cn", "unassigned", complement assigned), ("any", "any", anything),
    ("ascii", "ascii", range '\x00' '\x7f'), ("assigned", "assigned", assigned)]

def category? (name : String) : Option CharSet :=
  (categories.find? fun (short, long, _) => short == name || long == name).map (·.2.2)

/-! ## Other properties -/

def binaryProperties : List (String × CharSet) :=
  [("alphabetic", letter), ("alpha", letter), ("uppercase", capital), ("upper", capital),
    ("lowercase", small), ("lower", small), ("whitespace", blank), ("wspace", blank),
    ("space", blank), ("asciihexdigit", ranges [('0', '9'), ('A', 'F'), ('a', 'f')]),
    ("ahex", ranges [('0', '9'), ('A', 'F'), ('a', 'f')])]

def script? (name : String) : Option CharSet :=
  (Text.scripts.find? fun (code, long, _) => code == name || long == name).map fun (_, _, found) =>
    codes found

/-- A name without case, blanks, hyphens, low lines and a leading `is`. -/
def plainName (name : List Char) : String :=
  let letters := name.filterMap fun character =>
    if character == ' ' || character == '_' || character == '-' then none
    else if Text.isAscii character then some character.toLower
    else none
  match letters with
  | 'i' :: 's' :: rest => if rest == ['c'] then "isc" else String.ofList rest
  | _ => String.ofList letters

def named? (name : List Char) : Option CharSet :=
  let name := plainName name
  (binaryProperties.lookup name <|> category? name) <|> script? name

def valued? (property value : List Char) : Option CharSet :=
  let property := plainName property
  if ["gc", "generalcategory"].contains property then category? (plainName value)
  else if ["sc", "script"].contains property then script? (plainName value)
  else none

/-- The set of what stands between the braces of a property: a name, or a property and its value
with a sign between them that can say that the value is another one. -/
def property? (text : List Char) : Option CharSet :=
  let isSign (character : Char) : Bool := character == '=' || character == ':'
  match text.dropWhile (!isSign ·) with
  | [] => named? text
  | _ :: value =>
      match (text.takeWhile (!isSign ·)).reverse with
      | '!' :: property => (valued? property.reverse value).map complement
      | property => valued? property.reverse value

end CharSet

end Grading.Pattern
