import CodeHighlight.Text.WordLetter

/-!
# Pattern.Basic — patterns over characters

A `Pattern` describes texts: single characters, places in the text, one pattern after the other, a
choice of two, and a repetition with bounds.  It keeps the groups and the character classes as they
were written, since how deeply a pattern is nested is measured on them.
-/

namespace CodeHighlight

/-- A class of characters: those in one of the ranges, or all others. -/
structure Charset where
  ranges : List (Char × Char)
  negated : Bool
  deriving DecidableEq

/-- Classes are hashed by the codes at the ends of their ranges. -/
instance : Hashable Charset where
  hash set :=
    mixHash (hash (set.ranges.map fun range => (range.1.val, range.2.val))) (hash set.negated)

namespace Charset

/-- The character is in one of the ranges. -/
def covers (set : Charset) (c : Char) : Bool :=
  set.ranges.any fun range => decide (range.1 ≤ c) && decide (c ≤ range.2)

/-- The ranges cover the characters on both sides of the surrogates, but none goes across. -/
def stopsAtSurrogates (set : Charset) : Bool :=
  set.covers '\uD7FF' && set.covers '\uE000' &&
    !set.ranges.any fun range => decide (range.1 ≤ '\uD7FF') && decide ('\uE000' ≤ range.2)

/-- Membership in a class of characters.  A negated class holds the gaps between its ranges; the gap
between two ranges that stop at the surrogates consists of the characters on both sides of these. -/
def contains (set : Charset) (c : Char) : Bool :=
  if set.negated then
    !set.covers c || (set.stopsAtSurrogates && (c == '\uD7FF' || c == '\uE000'))
  else set.covers c

end Charset

/-- A place in a text: the characters on both sides of it, of which there is none at an end. -/
structure Place where
  before : Option Char
  after : Option Char

/-- A condition on a place. -/
inductive Anchor where
  /-- The start of the whole text. -/
  | start
  /-- The end of the whole text. -/
  | stop
  /-- The start of a word in any script. -/
  | wordStart
  /-- The end of a word in any script. -/
  | wordEnd
  deriving DecidableEq, Hashable

/-- The condition is met at a place. -/
def Anchor.holds (place : Place) : Anchor → Bool
  | .start => place.before.isNone
  | .stop => place.after.isNone
  | .wordStart => !place.before.any Text.isWordLetter && place.after.any Text.isWordLetter
  | .wordEnd => place.before.any Text.isWordLetter && !place.after.any Text.isWordLetter

/-- How often something is repeated: at least `least` times, at most `most` times if that is given,
and rather less often than more often if `shortest` holds. -/
structure Bounds where
  least : Nat
  most : Option Nat
  shortest : Bool
  deriving DecidableEq, Hashable

/-- A pattern over characters. -/
inductive Pattern where
  /-- The empty text. -/
  | empty
  /-- One fixed character. -/
  | char (c : Char)
  /-- Any character but a newline. -/
  | any
  /-- One character out of a class. -/
  | oneOf (set : Charset)
  /-- The empty text at a place that meets a condition. -/
  | anchor (condition : Anchor)
  /-- A pattern in parentheses, which may capture what it matches. -/
  | group (capturing : Bool) (inner : Pattern)
  /-- The first pattern and then the second. -/
  | seq (first second : Pattern)
  /-- Either pattern. -/
  | alt (first second : Pattern)
  /-- The body several times. -/
  | repeated (body : Pattern) (bounds : Bounds)
  deriving DecidableEq, Hashable

namespace Pattern

/-- Patterns one after the other. -/
def seqs : List Pattern → Pattern
  | [] => .empty
  | [p] => p
  | p :: q :: ps => .seq p (seqs (q :: ps))

/-- A choice of several patterns, of which `first` is one. -/
def alts (first : Pattern) : List Pattern → Pattern
  | [] => first
  | p :: ps => .alt first (alts p ps)

/-! ### Nesting -/

def isSeq : Pattern → Bool
  | .seq _ _ => true
  | _ => false

def isAlt : Pattern → Bool
  | .alt _ _ => true
  | _ => false

/-- How deeply a pattern is nested.  Groups, repetitions and classes count one level each, and so
does a sequence or a choice however many parts it has; a class of several items counts two. -/
def depth : Pattern → Nat
  | .empty | .char _ | .any | .anchor _ => 0
  | .oneOf set => if set.ranges.length < 2 then 1 else 2
  | .group _ p | .repeated p _ => p.depth + 1
  | .seq p q => max (p.depth + 1) (if q.isSeq then q.depth else q.depth + 1)
  | .alt p q => max (p.depth + 1) (if q.isAlt then q.depth else q.depth + 1)

end Pattern

end CodeHighlight
