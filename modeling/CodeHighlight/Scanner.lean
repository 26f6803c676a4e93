import CodeHighlight.Token
import CodeHighlight.Window

/-!
# Scanner — splitting a text into tokens

A `Scanner` walks over a text once, from left to right.  `step` moves its cursor by one character
and gives back the token that this completes, if any; `next?` steps up to the next token; `rest`
collects all tokens that are left.  The cursor moves at every step and stops one place after the
last character, so `remaining` bounds the steps that are left.
-/

namespace CodeHighlight

/-- A scan in progress. -/
structure Scanner where
  chars : Array Char
  /-- The index of the character that becomes current at the next step. -/
  pos : Nat
  current : Option Char
  /-- The character before the current one, `none` if it is escaped. -/
  prev : Option Char
  /-- The character two before the current one, `none` if it is escaped. -/
  prev2 : Option Char
  /-- The characters of the token under way, up to and with the current one. -/
  pending : String
  /-- The number of characters of `pending`. -/
  pendingLength : Nat
  /-- The category of the token under way. -/
  category : Category
  /-- The category of the latest completed token that is significant. -/
  lastSignificant : Option Category
  deriving DecidableEq

namespace Scanner

/-- The scan of a text, before its first step. -/
def ofString (text : String) : Scanner where
  chars := text.toList.toArray
  pos := 0
  current := none
  prev := none
  prev2 := none
  pending := ""
  pendingLength := 0
  category := .plain
  lastSignificant := none

/-- The number of steps left: one for each unread character and one for the end of the text. -/
def remaining (s : Scanner) : Nat := s.chars.size + 1 - s.pos

/-- The scan has seen the end of the text. -/
def isDone (s : Scanner) : Bool := s.remaining == 0

/-! ### One step -/

/-- The window of the next step: the cursor one character on, with the character it leaves masked
if a backslash escapes it. -/
def window (s : Scanner) : Window where
  chars := s.chars
  pos := s.pos
  current := s.chars[s.pos]?
  prev := if s.category.isEscapable && s.prev == some '\\' then none else s.current
  prev2 := s.prev

/-- The token under way, if it has any character. -/
def pendingToken (s : Scanner) : Option Token :=
  if s.pending.isEmpty then none else some ⟨s.pending, s.category⟩

/-- The latest significant category once the token under way is complete. -/
def significantAfter (s : Scanner) : Option Category :=
  if s.category.isSignificant then some s.category else s.lastSignificant

/-- The scan with its cursor one character on. -/
def moved (s : Scanner) : Scanner :=
  { s with
    pos := s.pos + 1
    current := s.window.current
    prev := s.window.prev
    prev2 := s.window.prev2 }

/-- The scan with its cursor one character on, at the first character of a new token, whose category
the window tells. -/
def begun (s : Scanner) : Scanner :=
  { s.moved with
    pending := ""
    pendingLength := 0
    category := .startingAt s.window s.significantAfter
    lastSignificant := s.significantAfter }

/-- The current character, if there is one, joins the token under way. -/
def absorb (s : Scanner) : Scanner :=
  match s.current with
  | some c => { s with pending := s.pending.push c, pendingLength := s.pendingLength + 1 }
  | none => s

/-- Moves the cursor by one character.  If the token under way ends there, it is given back and the
next one begins. -/
def step (s : Scanner) : Option Token × Scanner :=
  if s.category.endsBefore s.window (1 < s.pendingLength) then (s.pendingToken, s.begun.absorb)
  else (none, s.moved.absorb)

/-! ### Many steps -/

/-- Steps until a token is complete, at most `fuel` times. -/
def nextWithin : Nat → Scanner → Option Token × Scanner
  | 0, s => (none, s)
  | fuel + 1, s =>
    match s.step with
    | (some token, s') => (some token, s')
    | (none, s') => nextWithin fuel s'

/-- The next token, if one is left, and the scan after it. -/
def next? (s : Scanner) : Option Token × Scanner := s.nextWithin s.remaining

/-- The tokens that `fuel` steps complete. -/
def tokensWithin : Nat → Scanner → List Token × Scanner
  | 0, s => ([], s)
  | fuel + 1, s =>
    let (token, s') := s.step
    let (tokens, s'') := tokensWithin fuel s'
    (token.toList ++ tokens, s'')

/-- All tokens that are left, and the scan at the end of the text. -/
def rest (s : Scanner) : List Token × Scanner := s.tokensWithin s.remaining

/-- At most `count` tokens, and the scan after them. -/
def take : Nat → Scanner → List Token × Scanner
  | 0, s => ([], s)
  | count + 1, s =>
    match s.next? with
    | (none, s') => ([], s')
    | (some token, s') =>
      let (tokens, s'') := take count s'
      (token :: tokens, s'')

end Scanner

/-- The tokens of a text, in order. -/
def tokens (text : String) : List Token := (Scanner.ofString text).rest.1

end CodeHighlight
