namespace Grading

/-! Why a text is no pattern. -/

inductive PatternError
  | unclosedGroup
  | unopenedGroup
  | badGroupName
  | duplicateGroupName (name : String)
  | lookAround
  | unknownFlag (flag : Char)
  | repeatedFlag (flag : Char)
  | unclosedFlags
  | danglingNegation
  | nothingToRepeat
  | badCount
  | unclosedCount
  | countsReversed
  | unclosedClass
  | rangeReversed (first last : Char)
  | rangeOfClasses
  | conditionInClass
  | unknownEscape (letter : Char)
  | unfinishedEscape
  | backReference
  | badCode
  | badWordBoundary
  | unknownProperty (name : String)
  | invalidBytes
  | tooLarge
  deriving DecidableEq, Repr

namespace PatternError

def message : PatternError → String
  | unclosedGroup => "unclosed group"
  | unopenedGroup => "unopened group"
  | badGroupName => "invalid group name"
  | duplicateGroupName name => "duplicate group name " ++ name
  | lookAround => "look-around is not supported"
  | unknownFlag flag => "unrecognized flag " ++ flag.toString
  | repeatedFlag flag => "repeated flag " ++ flag.toString
  | unclosedFlags => "unclosed flags"
  | danglingNegation => "dangling flag negation"
  | nothingToRepeat => "repetition without anything to repeat"
  | badCount => "invalid repetition count"
  | unclosedCount => "unclosed counted repetition"
  | countsReversed => "the lower repetition count is above the upper one"
  | unclosedClass => "unclosed character class"
  | rangeReversed first last =>
      "invalid range from " ++ first.toString ++ " to " ++ last.toString
  | rangeOfClasses => "the ends of a range must be characters"
  | conditionInClass => "invalid escape in a character class"
  | unknownEscape letter => "unrecognized escape \\" ++ letter.toString
  | unfinishedEscape => "unfinished escape"
  | backReference => "back-references are not supported"
  | badCode => "invalid character code"
  | badWordBoundary => "invalid word boundary"
  | unknownProperty name => "unknown property " ++ name
  | invalidBytes => "the pattern can match bytes that are no text"
  | tooLarge => "the pattern is too large"

end PatternError

end Grading
