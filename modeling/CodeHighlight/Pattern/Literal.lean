import CodeHighlight.Pattern.Parse

/-!
# Pattern.Literal — written patterns for given words

`escape` writes a text as a pattern for just this text, and `ofWords` writes a list of words as a
pattern for these words and no others.
-/

namespace CodeHighlight.Pattern

/-- The characters that have a special meaning somewhere in a written pattern. -/
def specials : List Char :=
  ['\\', '.', '+', '*', '?', '(', ')', '|', '[', ']', '{', '}', '^', '$', '#', '&', '-', '~']

/-- One character, written so that it stands for itself. -/
def escapeChar (c : Char) : List Char := if specials.contains c then ['\\', c] else [c]

/-- A text, written so that it stands for itself. -/
def escape (text : String) : String := String.ofList (text.toList.flatMap escapeChar)

/-- The written pattern that matches a text when it is one of the words. -/
def ofWords (words : List String) : String :=
  "^(?:" ++ "|".intercalate (words.map escape) ++ ")$"

end CodeHighlight.Pattern
