import CodeHighlight.Pattern.Basic
import CodeHighlight.Pattern.Fault
import CodeHighlight.Text.Blank

/-!
# Pattern.Lexeme — the pieces of a written pattern

A written pattern is read in two passes.  `glyphs` resolves the backslashes, so that afterwards a
character is known to be taken literally or not, and `lexemes` puts together character classes,
repetition counts and the openings of groups.
-/

namespace CodeHighlight.Pattern

/-! ### Glyphs -/

/-- A character of a written pattern. -/
inductive Glyph where
  /-- A character that stands for itself unless it has a special meaning. -/
  | plain (c : Char)
  /-- A character after a backslash. -/
  | literal (c : Char)
  deriving DecidableEq

def Glyph.char : Glyph → Char
  | .plain c | .literal c => c

/-- A backslash may be put before any ASCII character but letters and digits. -/
def isEscapable (c : Char) : Bool := c.toNat < 128 && !c.isAlphanum

/-- The glyphs of a written pattern. -/
def glyphs : List Char → Except Fault (List Glyph)
  | [] => .ok []
  | c :: cs =>
    if c == '\\' then
      match cs with
      | [] => .error .loneBackslash
      | d :: ds =>
        if isEscapable d then (glyphs ds).map (.literal d :: ·) else .error (.unknownEscape d)
    else (glyphs cs).map (.plain c :: ·)

/-! ### Lexemes -/

/-- A piece of a written pattern. -/
inductive Lexeme where
  | char (c : Char)
  | any
  | oneOf (set : Charset)
  | anchor (condition : Anchor)
  | opening (capturing : Bool)
  | closing
  | bar
  | repetition (least : Nat) (most : Option Nat)
  /-- A question mark right after a repetition. -/
  | shortest
  deriving DecidableEq

/-- The lexeme of a character outside of classes and counts. -/
def lexemeOf : Char → Lexeme
  | '.' => .any
  | '^' => .anchor .start
  | '$' => .anchor .stop
  | ')' => .closing
  | '|' => .bar
  | '*' => .repetition 0 none
  | '+' => .repetition 1 none
  | '?' => .repetition 0 (some 1)
  | c => .char c

/-- The lexeme of a character after a backslash.  An angle bracket stands for an edge of a word,
everything else for itself. -/
def literalLexeme : Char → Lexeme
  | '<' => .anchor .wordStart
  | '>' => .anchor .wordEnd
  | c => .char c

def Lexeme.isRepetition : Lexeme → Bool
  | .repetition _ _ => true
  | _ => false

/-- A count in braces: digits among blanks, at most 32 bits wide. -/
def count? (cs : List Char) : Option Nat :=
  let digits := Text.trim cs
  if !digits.isEmpty && digits.all Char.isDigit then
    let n := Nat.ofDigitChars 10 digits 0
    if n < UInt32.size then some n else none
  else none

/-- The bounds written between braces: one count, a lower bound and a comma, or two bounds. -/
def countBounds? (cs : List Char) : Option (Nat × Option Nat) := do
  let least ← count? (cs.takeWhile (· != ','))
  match cs.dropWhile (· != ',') with
  | [] => return (least, some least)
  | [_] => return (least, none)
  | _ :: second =>
    let most ← count? second
    guard (least ≤ most)
    return (least, some most)

/-- How far the reading of a class has come. -/
inductive ClassStage where
  /-- Right after the bracket, where a circumflex negates the class. -/
  | bracket
  /-- Where hyphens stand for themselves. -/
  | hyphens
  /-- Between two items. -/
  | items
  /-- After an item that may turn out to be the start of a range. -/
  | item (first : Glyph)
  /-- After the hyphen of a range. -/
  | range (first : Glyph)
  deriving DecidableEq

/-- Two equal signs of these kinds in a row make a set operation. -/
def isSetOperator (g : Glyph) : Bool := g == .plain '&' || g == .plain '-' || g == .plain '~'

/-- The glyph stands for an edge of a word, which is no character and so has no place in a class. -/
def isEdge (g : Glyph) : Bool := g == .literal '<' || g == .literal '>'

mutual

/-- The lexemes of a written pattern. -/
def lexemes (afterRepetition : Bool) : List Glyph → Except Fault (List Lexeme)
  | [] => .ok []
  | .literal c :: gs => (lexemes false gs).map (literalLexeme c :: ·)
  | .plain c :: gs =>
    if c == '[' then classLexemes .bracket false [] gs
    else if c == '{' then countLexemes [] gs
    else if c == '(' then
      match gs with
      | .plain '?' :: .plain ':' :: gs => (lexemes false gs).map (.opening false :: ·)
      | .plain '?' :: _ => .error .unknownGroup
      | gs => (lexemes false gs).map (.opening true :: ·)
    else if c == '?' && afterRepetition then (lexemes false gs).map (.shortest :: ·)
    else (lexemes (lexemeOf c).isRepetition gs).map (lexemeOf c :: ·)

/-- The lexemes of a pattern that goes on inside of a class, of which `ranges` have been read.  A
closing bracket that comes first and a hyphen that comes first or last stand for themselves. -/
def classLexemes (stage : ClassStage) (negated : Bool) (ranges : List (Char × Char)) :
    List Glyph → Except Fault (List Lexeme)
  | [] => .error .unclosedClass
  | g :: gs =>
    if isEdge g then .error (.unknownEscape g.char)
    else
      match stage with
      | .range first =>
        if g == .plain ']' then
          let ranges := ('-', '-') :: (first.char, first.char) :: ranges
          (lexemes false gs).map (.oneOf ⟨ranges, negated⟩ :: ·)
        else if g == .plain '-' then .error .nestedClass
        else if first.char ≤ g.char then
          classLexemes .items negated ((first.char, g.char) :: ranges) gs
        else .error (.reversedRange first.char g.char)
      | .item first =>
        let ranges' := (first.char, first.char) :: ranges
        if g == .plain ']' then (lexemes false gs).map (.oneOf ⟨ranges', negated⟩ :: ·)
        else if g == .plain '[' || (isSetOperator g && g == first) then .error .nestedClass
        else if g == .plain '-' then classLexemes (.range first) negated ranges gs
        else classLexemes (.item g) negated ranges' gs
      | _ =>
        if g == .plain '^' && stage == .bracket then classLexemes .hyphens true ranges gs
        else if g == .plain '-' && stage != .items then
          classLexemes .hyphens negated (('-', '-') :: ranges) gs
        else if g == .plain ']' then
          if ranges.isEmpty then classLexemes .items negated [(']', ']')] gs
          else (lexemes false gs).map (.oneOf ⟨ranges, negated⟩ :: ·)
        else if g == .plain '[' then .error .nestedClass
        else classLexemes (.item g) negated ranges gs

/-- The lexemes of a pattern that goes on inside of a repetition count, of which `body` has been
read, latest first. -/
def countLexemes (body : List Char) : List Glyph → Except Fault (List Lexeme)
  | [] => .error .unclosedCount
  | g :: gs =>
    if g == .plain '}' then
      match countBounds? body.reverse with
      | some (least, most) => (lexemes true gs).map (.repetition least most :: ·)
      | none => .error .invalidCount
    else if g == .literal g.char then .error .invalidCount
    else countLexemes (g.char :: body) gs

end

end CodeHighlight.Pattern
