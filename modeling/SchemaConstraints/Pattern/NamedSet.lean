import SchemaConstraints.Pattern.CharSet

set_option autoImplicit false

/-! # Named sets of characters

The sets that a letter after a backslash or a name between brackets and colons stands for. They hold ASCII
characters only, apart from the complements. -/

namespace SchemaConstraints

namespace CharSet

/-- The ASCII digits. -/
def digit : CharSet := ofRanges [.between '0' '9']

/-- The blanks of ASCII, from the tabulator to the carriage return, and the space. -/
def space : CharSet := ofRanges [.between '\t' '\r', .single ' ']

/-- The characters of words: ASCII letters and digits and the underscore. -/
def word : CharSet := ofRanges [.between '0' '9', .capitalLetters, .single '_', .smallLetters]

/-- The set that a backslash and a letter stand for. -/
def ofEscape? : Char → Option CharSet
  | 'd' => some digit
  | 's' => some space
  | 'w' => some word
  | 'D' => some digit.complement
  | 'S' => some space.complement
  | 'W' => some word.complement
  | _ => none

/-- The set that has a name between brackets and colons. -/
def ofName? : String → Option CharSet
  | "alnum" => some (ofRanges [.between '0' '9', .capitalLetters, .smallLetters])
  | "alpha" => some (ofRanges [.capitalLetters, .smallLetters])
  | "ascii" => some (ofRanges [.between '\x00' '\x7f'])
  | "blank" => some (ofRanges [.single '\t', .single ' '])
  | "cntrl" => some (ofRanges [.between '\x00' '\x1f', .single '\x7f'])
  | "digit" => some digit
  | "graph" => some (ofRanges [.between '!' '~'])
  | "lower" => some (ofRanges [.smallLetters])
  | "print" => some (ofRanges [.between ' ' '~'])
  | "punct" =>
    some (ofRanges [.between '!' '/', .between ':' '@', .between '[' '\x60', .between '\x7b' '~'])
  | "space" => some space
  | "upper" => some (ofRanges [.capitalLetters])
  | "word" => some word
  | "xdigit" => some (ofRanges [.between '0' '9', .between 'A' 'F', .between 'a' 'f'])
  | _ => none

end CharSet

end SchemaConstraints
