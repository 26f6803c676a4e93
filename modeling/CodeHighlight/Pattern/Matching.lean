import CodeHighlight.Pattern.Basic
import Std.Data.HashSet.Basic

/-!
# Pattern.Matching — finding a pattern in a text

A text is read character by character.  After each one, `residuals` says what is left to match of a
pattern that has begun; since there are finitely many different residuals of a pattern, the work
per character is bounded.  `isMatch` holds when the pattern matches somewhere in the text.
-/

namespace CodeHighlight.Pattern

/-- The pattern matches the empty text at this place. -/
def acceptsEmpty (place : Place) : Pattern → Bool
  | .empty => true
  | .char _ | .any | .oneOf _ => false
  | .anchor condition => condition.holds place
  | .group _ p => p.acceptsEmpty place
  | .seq p q => p.acceptsEmpty place && q.acceptsEmpty place
  | .alt p q => p.acceptsEmpty place || q.acceptsEmpty place
  | .repeated p bounds => bounds.least == 0 || p.acceptsEmpty place

/-- What is left to match of a pattern that has read `c`, after the character `before`, in all
possible ways.  A repetition whose body accepts the empty text here may skip the copies that it
still needs before it reads `c` in one, so that none of them remains to be matched. -/
def residuals (before : Option Char) (c : Char) : Pattern → List Pattern
  | .empty | .anchor _ => []
  | .char d => if c == d then [.empty] else []
  | .any => if c == '\n' then [] else [.empty]
  | .oneOf set => if set.contains c then [.empty] else []
  | .group _ p => p.residuals before c
  | .seq p q =>
    (p.residuals before c).map (.seq · q) ++
      if p.acceptsEmpty ⟨before, some c⟩ then q.residuals before c else []
  | .alt p q => p.residuals before c ++ q.residuals before c
  | .repeated p bounds =>
    if bounds.most == some 0 then []
    else
      let needed := if p.acceptsEmpty ⟨before, some c⟩ then 0 else bounds.least - 1
      let rest := { bounds with least := needed, most := bounds.most.map (· - 1) }
      (p.residuals before c).map (.seq · (.repeated p rest))

/-- The patterns without repetitions, in any order.  Few patterns are compared with each other, many
are hashed. -/
def distinct (patterns : List Pattern) : List Pattern :=
  if patterns.length < 8 then patterns.eraseDups else (Std.HashSet.ofList patterns).toList

/-- One of the live patterns matches a text that begins here, after the character `before`, or the
pattern matches somewhere from here on. -/
def isMatchFrom (pattern : Pattern) : Option Char → List Pattern → List Char → Bool
  | before, live, [] => (pattern :: live).any (acceptsEmpty ⟨before, none⟩)
  | before, live, c :: cs =>
    (pattern :: live).any (acceptsEmpty ⟨before, some c⟩) ||
      pattern.isMatchFrom (some c) (distinct ((pattern :: live).flatMap (residuals before c))) cs

/-- The pattern matches somewhere in the text. -/
def isMatch (pattern : Pattern) (text : String) : Bool := pattern.isMatchFrom none [] text.toList

end CodeHighlight.Pattern
