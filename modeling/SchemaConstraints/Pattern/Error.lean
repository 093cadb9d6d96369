set_option autoImplicit false

/-! # What can be wrong with a pattern -/

namespace SchemaConstraints

/-- Why a text is not a pattern. -/
inductive PatternError where
  -- groups and flags
  | unclosedGroup
  | unopenedGroup
  | endAfterQuestionMark
  | lookAround
  | emptyFlags
  | unknownFlag
  | duplicateFlag
  | repeatedNegation
  | danglingNegation
  | unclosedFlags
  | missingGroupName
  | unclosedGroupName
  | invalidGroupName
  | emptyGroupName
  | duplicateGroupName
  -- repetitions
  | nothingToRepeat
  | nothingToCount
  | unclosedCount
  | missingDecimal
  | invalidDecimal
  | unclosedCountMin
  | unclosedCountComma
  | unclosedCountMax
  | unexpectedInCount
  | countMinAboveMax
  -- character classes
  | unclosedClass
  | unclosedNegatedClass
  | unclosedClassAfterBracket
  | unclosedClassAfterDash
  | unclosedClassAfterItem
  | classRangeBound
  | invalidClassRange
  | invalidClassEscape
  | nestedClass
  | classIntersection
  | classDifference
  | classSymmetricDifference
  -- escapes
  | unfinishedEscape
  | backreference
  | unicodeClass
  | unknownEscape
  | missingHex
  | shortHex
  | invalidHexDigit
  | invalidHex
  | unclosedHexBraces
  | emptyHexBraces
  | invalidHexBracesDigit
  | invalidHexBraces
  | unknownWordBoundary
  | unclosedWordBoundary
  | unfinishedWordBoundary
  -- limits
  | tooNested
  | tooLarge
  deriving DecidableEq, Repr

namespace PatternError

/-- The wording of an error. -/
def message : PatternError → String
  | unclosedGroup => "found open group without closing ')'"
  | unopenedGroup => "found closing ')' without matching '('"
  | endAfterQuestionMark => "expected closing ')', but got end of pattern"
  | lookAround => "look-around is not supported"
  | emptyFlags => "empty flag directive '(?)' is not allowed"
  | unknownFlag => "unrecognized inline flag"
  | duplicateFlag => "duplicate inline flag is not allowed"
  | repeatedNegation => "inline flag negation cannot be repeated"
  | danglingNegation => "inline flags cannot end with negation directive"
  | unclosedFlags => "expected ':' or ')' to end inline flags, but got end of pattern"
  | missingGroupName => "expected capture group name, but got end of pattern"
  | unclosedGroupName => "expected end of capture group name, but got end of pattern"
  | invalidGroupName => "invalid group name"
  | emptyGroupName => "empty capture group names are not allowed"
  | duplicateGroupName => "duplicate capture group name"
  | nothingToRepeat => "uncounted repetition operator must be applied to a sub-expression"
  | nothingToCount => "counted repetition operator must be applied to a sub-expression"
  | unclosedCount => "found unclosed counted repetition operator"
  | missingDecimal => "expected decimal number, but found no digits"
  | invalidDecimal => "got invalid decimal number"
  | unclosedCountMin => "found incomplete and unclosed counted repetition operator"
  | unclosedCountComma => "found counted repetition operator with a comma that is unclosed"
  | unclosedCountMax => "found counted repetition with min and max that is unclosed"
  | unexpectedInCount => "expected closing brace for counted repetition, but got something else"
  | countMinAboveMax => "found counted repetition with a min bigger than its max"
  | unclosedClass => "found unclosed character class"
  | unclosedNegatedClass => "negated character class has no closing bracket"
  | unclosedClassAfterBracket => "character class begins with literal ']' but has no closing bracket"
  | unclosedClassAfterDash => "non-empty character class has no closing bracket after dash"
  | unclosedClassAfterItem => "non-empty character class has no closing bracket"
  | classRangeBound => "character class ranges must start and end with a single character"
  | invalidClassRange => "invalid range in character class"
  | invalidClassEscape => "invalid escape sequence in character class"
  | nestedClass => "nested character classes are not supported"
  | classIntersection => "character class intersection is not supported"
  | classDifference => "character class difference is not supported"
  | classSymmetricDifference => "character class symmetric difference is not supported"
  | unfinishedEscape => "saw start of escape sequence, but saw end of pattern before it finished"
  | backreference => "backreferences are not supported"
  | unicodeClass => "Unicode character classes are not supported"
  | unknownEscape => "unrecognized escape sequence"
  | missingHex => "expected hexadecimal number, but saw end of pattern first"
  | shortHex => "expected fixed length hexadecimal number, but saw end of pattern first"
  | invalidHexDigit => "expected fixed length hexadecimal number, but got non-hex digit"
  | invalidHex => "got invalid fixed length hexadecimal number"
  | unclosedHexBraces => "expected hexadecimal number, but saw end of pattern before closing brace"
  | emptyHexBraces => "expected hexadecimal number in braces, but got no digits"
  | invalidHexBracesDigit => "expected hexadecimal number in braces, but got non-hex digit"
  | invalidHexBraces => "got invalid hexadecimal number in braces"
  | unknownWordBoundary => "special word boundary assertion is unrecognized"
  | unclosedWordBoundary => "special word boundary assertion is unclosed or has an invalid character"
  | unfinishedWordBoundary => "found start of special word boundary or repetition without an end"
  | tooNested => "pattern has too much nesting"
  | tooLarge => "compiled regex exceeded size limit"

end PatternError

end SchemaConstraints
