import CodeHighlight.Category
import CodeHighlight.Text.Blank

/-!
# Window — what is seen around the cursor

A scan decides on token boundaries from a few characters around its cursor.  `Window` holds them,
`Category.endsBefore` says whether a token of a category ends before the current character, and
`Category.startingAt` says which category a token has that begins there.
-/

namespace CodeHighlight

/-! ### Classes of characters -/

/-- The characters of identifiers and keywords. -/
def isWordChar (c : Char) : Bool := c.isAlphanum || c == '_' || c == '$'

/-- The characters that a run of whitespace is made of: the blanks without the next-line control,
and with the byte order mark. -/
def isSpace (c : Char) : Bool := (Text.isBlank c && c != '\u0085') || c == '\uFEFF'

/-- The characters that form an operator or an opening brace on their own. -/
def operators : List Char :=
  ['/', '{', '}', '[', '(', '-', '+', '*', '=', '<', '>', ':', ';', '|', '\\', '.', ',', '?', '!',
    '&', '@', '~']

def isOperator (c : Char) : Bool := operators.contains c

def isClosingBrace (c : Char) : Bool := c == ']' || c == ')'

/-! ### The window -/

/-- The characters around the cursor.  `prev` and `prev2`, the one and the two before the current
one, have been masked: a character that a backslash escapes is `none` there and so is never taken
for a delimiter. -/
structure Window where
  chars : Array Char
  /-- The index of `current` in `chars`. -/
  pos : Nat
  current : Option Char
  prev : Option Char
  prev2 : Option Char

namespace Window

/-- The character `offset` places after the current one. -/
def ahead (window : Window) (offset : Nat) : Option Char := window.chars[window.pos + offset]?

/-- The character `offset` places before the current one, unmasked. -/
def behind (window : Window) (offset : Nat) : Option Char :=
  if offset ≤ window.pos then window.chars[window.pos - offset]? else none

/-- The text from `offset` places after the current character on starts with these characters. -/
def reads (window : Window) (offset : Nat) : List Char → Bool
  | [] => true
  | c :: cs => window.ahead offset == some c && window.reads (offset + 1) cs

end Window

namespace Category

/-- Whether a token of this category ends before the current character.  `multichar` is true when
the token already holds more than one character.  The end of the text ends every token. -/
def endsBefore (category : Category) (window : Window) (multichar : Bool) : Bool :=
  match window.current with
  | none => true
  | some c =>
    match category with
    | .plain => !isSpace c
    | .operator | .closingBrace => true
    | .word => !isWordChar c
    | .regex => (window.prev == some '/' || window.prev == some '\n') && multichar
    | .doubleQuoted => window.prev == some '"' && multichar
    | .singleQuoted => window.prev == some '\'' && multichar
    | .xmlComment =>
      window.behind 3 == some '-' && window.prev2 == some '-' && window.prev == some '>'
    | .blockComment => window.prev2 == some '*' && window.prev == some '/'
    | .slashComment | .hashComment => c == '\n'

/-- A slash opens a regex literal after an operator only (after a value it divides), and not in a
closing tag, where it follows `<`. -/
def slashOpensRegex (window : Window) (lastSignificant : Option Category) : Bool :=
  lastSignificant == some .operator && window.prev != some '<'

/-- The category of a token that begins at the current character.  The order of the tests matters:
a comment is recognised before the operator that its first character is. -/
def startingAt (window : Window) (lastSignificant : Option Category) : Category :=
  match window.current with
  | none => .plain
  | some c =>
    if c == '#' then .hashComment
    else if c == '/' && window.ahead 1 == some '/' then .slashComment
    else if c == '/' && window.ahead 1 == some '*' then .blockComment
    else if window.reads 0 ['<', '!', '-', '-'] then .xmlComment
    else if c == '\'' then .singleQuoted
    else if c == '"' then .doubleQuoted
    else if c == '/' && slashOpensRegex window lastSignificant then .regex
    else if isWordChar c then .word
    else if isClosingBrace c then .closingBrace
    else if isOperator c then .operator
    else .plain

end Category

end CodeHighlight
