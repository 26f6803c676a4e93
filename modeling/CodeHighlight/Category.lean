/-!
# Category — the lexical categories of tokens and the style groups

Every token has one of eleven categories.  `isSignificant` says which of them decide whether a
slash may open a regex literal, `isEscapable` says where a backslash hides the character after it,
and `styleGroup` sends a category to the group of tokens that it shares its look with.
-/

namespace CodeHighlight

/-- The groups of token categories that share a look. -/
inductive StyleGroup where
  | keyword
  | punctuation
  /-- Strings and regex literals. -/
  | string
  | comment
  deriving DecidableEq

namespace StyleGroup

def all : List StyleGroup := [.keyword, .punctuation, .string, .comment]

@[simp] theorem mem_all (group : StyleGroup) : group ∈ all := by
  cases group <;> decide

end StyleGroup

/-- The lexical category of a token. -/
inductive Category where
  /-- Whitespace and anything unrecognised. -/
  | plain
  /-- Operators and opening braces; a slash after one of these opens a regex literal. -/
  | operator
  /-- `]` and `)`; a slash after one of these is a division. -/
  | closingBrace
  /-- Identifiers and keywords. -/
  | word
  /-- A regex literal between slashes. -/
  | regex
  /-- A string between double quotes. -/
  | doubleQuoted
  /-- A string between single quotes. -/
  | singleQuoted
  /-- A comment from `<!--` to `-->`. -/
  | xmlComment
  /-- A comment between slashes with stars. -/
  | blockComment
  /-- A comment from `//` to the end of the line. -/
  | slashComment
  /-- A comment from `#` to the end of the line. -/
  | hashComment
  deriving DecidableEq

namespace Category

def all : List Category :=
  [.plain, .operator, .closingBrace, .word, .regex, .doubleQuoted, .singleQuoted, .xmlComment,
    .blockComment, .slashComment, .hashComment]

@[simp] theorem mem_all (category : Category) : category ∈ all := by
  cases category <;> decide

def isComment : Category → Bool
  | .xmlComment | .blockComment | .slashComment | .hashComment => true
  | _ => false

/-- The token counts when it has to be decided whether a slash opens a regex literal: blanks and
comments are looked through. -/
def isSignificant (category : Category) : Bool :=
  category != .plain && !category.isComment

/-- Backslashes escape the character after them everywhere except inside comments. -/
def isEscapable (category : Category) : Bool := !category.isComment

/-- Only words are looked up in the keyword set. -/
def consultsKeywords (category : Category) : Bool := category == .word

/-- The style group that a token of this category is painted with; `isKeyword` answers for the
token's text. -/
def styleGroup (category : Category) (isKeyword : Unit → Bool) : Option StyleGroup :=
  match category with
  | .plain => none
  | .operator | .closingBrace => some .punctuation
  | .word => if isKeyword () then some .keyword else none
  | .regex | .doubleQuoted | .singleQuoted => some .string
  | .xmlComment | .blockComment | .slashComment | .hashComment => some .comment

theorem styleGroup_congr {category : Category} (h : category.consultsKeywords = false)
    (asked asked' : Unit → Bool) : category.styleGroup asked = category.styleGroup asked' := by
  cases category <;> first | rfl | simp [consultsKeywords] at h

end Category

end CodeHighlight
