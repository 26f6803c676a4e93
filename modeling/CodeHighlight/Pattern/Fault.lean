/-!
# Pattern.Fault — what can be wrong with a written pattern
-/

namespace CodeHighlight.Pattern

/-- What is wrong with a written pattern. -/
inductive Fault where
  /-- A backslash at the very end. -/
  | loneBackslash
  /-- A backslash before a character that it cannot be put before. -/
  | unknownEscape (c : Char)
  /-- A class without its closing bracket. -/
  | unclosedClass
  /-- A range of characters whose ends are the wrong way round. -/
  | reversedRange (first last : Char)
  /-- A class inside a class, or a set operation. -/
  | nestedClass
  /-- A repetition count without its closing brace. -/
  | unclosedCount
  /-- A repetition count that is no number, too large, or the wrong way round. -/
  | invalidCount
  /-- A repetition with nothing before it. -/
  | nothingToRepeat
  /-- Groups, classes and repetitions too deep inside of each other. -/
  | tooDeep
  /-- A pattern whose automaton would take too much memory. -/
  | tooLarge
  /-- A group without its closing parenthesis. -/
  | unclosedGroup
  /-- A closing parenthesis without its group. -/
  | unopenedGroup
  /-- A group of an unknown kind, such as one that looks around. -/
  | unknownGroup
  deriving DecidableEq

/-- The fault in words. -/
def Fault.message : Fault → String
  | .loneBackslash => "a backslash at the end of the pattern"
  | .unknownEscape c => "a backslash before " ++ String.singleton c
  | .unclosedClass => "an unclosed character class"
  | .reversedRange first last =>
    "a character range from " ++ String.singleton first ++ " down to " ++ String.singleton last
  | .nestedClass => "a character class inside a character class"
  | .unclosedCount => "an unclosed repetition count"
  | .invalidCount => "an invalid repetition count"
  | .nothingToRepeat => "a repetition of nothing"
  | .tooDeep => "too many groups and repetitions inside of each other"
  | .tooLarge => "a pattern that takes too much memory"
  | .unclosedGroup => "an unclosed group"
  | .unopenedGroup => "a closing parenthesis without a group"
  | .unknownGroup => "a group of an unknown kind"

end CodeHighlight.Pattern
