import CodeHighlight.Pattern.Basic

/-!
# Pattern.Plan — patterns in simplified form

How large an automaton a pattern needs is measured on a simplified form of it, a `Plan`:
neighbouring characters are one literal, groups that capture nothing are dissolved, a choice of
single characters is a class, and what all branches of a choice begin with is taken out of it.  The
operations here build plans that are simplified again.
-/

namespace CodeHighlight.Pattern

/-- A pattern in simplified form.  Classes hold ranges of code points in increasing order, without
overlaps and gaps of no width. -/
inductive Plan where
  | empty
  | literal (text : List Char)
  | oneOf (ranges : List (Nat × Nat))
  | anchor (condition : Anchor)
  | capture (body : Plan)
  | repeated (body : Plan) (bounds : Bounds)
  | seq (parts : List Plan)
  | alt (branches : List Plan)

namespace Plan

/-! ### Classes -/

/-- The code point after this one, the surrogates being skipped. -/
def codeAfter (code : Nat) : Nat := if code == 0xD7FF then 0xE000 else code + 1

/-- The code point before this one, the surrogates being skipped. -/
def codeBefore (code : Nat) : Nat := if code == 0xE000 then 0xD7FF else code - 1

/-- Puts a range in front of ranges that all begin at the same code point or later. -/
def insertRange (range : Nat × Nat) : List (Nat × Nat) → List (Nat × Nat)
  | [] => [range]
  | next :: ranges =>
    if next.1 ≤ range.2 + 1 then insertRange (range.1, max range.2 next.2) ranges
    else range :: next :: ranges

/-- Ranges in increasing order, without overlaps and gaps of no width. -/
def sortedRanges (ranges : List (Nat × Nat)) : List (Nat × Nat) :=
  ranges.foldr
    (fun range sorted =>
      sorted.takeWhile (fun other => decide (other.2 + 1 < range.1)) ++
        let rest := sorted.dropWhile fun other => decide (other.2 + 1 < range.1)
        match rest with
        | [] => [range]
        | next :: _ => insertRange (min range.1 next.1, range.2) rest)
    []

/-- What lies between ranges, which are in order, from the code point `first` on.  The gap between
two ranges that stop at the surrogates consists of the code points on both sides of these. -/
def gapsFrom (first : Nat) : List (Nat × Nat) → List (Nat × Nat)
  | [] => if first ≤ 0x10FFFF then [(first, 0x10FFFF)] else []
  | range :: ranges =>
    let gaps := gapsFrom (codeAfter range.2) ranges
    if range.1 == 0 then gaps
    else (min first (codeBefore range.1), max first (codeBefore range.1)) :: gaps

/-- The plan of a class of code points.  A class of one character is a literal. -/
def ofRanges : List (Nat × Nat) → Plan
  | [(first, last)] =>
    if first == last then .literal [Char.ofNat first] else .oneOf [(first, last)]
  | ranges => .oneOf ranges

/-- The plan of a class of characters. -/
def ofCharset (set : Charset) : Plan :=
  let ranges := sortedRanges (set.ranges.map fun range => (range.1.toNat, range.2.toNat))
  ofRanges (if set.negated then gapsFrom 0 ranges else ranges)

/-! ### Properties -/

mutual

/-- The plan matches nothing but the empty text. -/
def isEmptyOnly : Plan → Bool
  | .empty | .anchor _ => true
  | .literal _ | .oneOf _ => false
  | .capture p | .repeated p _ => p.isEmptyOnly
  | .seq ps | .alt ps => allEmptyOnly ps

def allEmptyOnly : List Plan → Bool
  | [] => true
  | p :: ps => p.isEmptyOnly && allEmptyOnly ps

end

mutual

/-- A number of characters that every match has, as far as it is known: nothing is known of what a
class without characters is part of. -/
def leastLength? : Plan → Option Nat
  | .empty | .anchor _ => some 0
  | .literal text => some text.length
  | .oneOf ranges => if ranges.isEmpty then none else some 1
  | .capture p => p.leastLength?
  | .repeated p bounds => p.leastLength?.map (bounds.least * ·)
  | .seq ps => (leastLengths? ps).map List.sum
  | .alt ps => (leastLengths? ps).map fun lengths => lengths.foldl min (lengths.headD 0)

def leastLengths? : List Plan → Option (List Nat)
  | [] => some []
  | p :: ps =>
    match p.leastLength?, leastLengths? ps with
    | some length, some lengths => some (length :: lengths)
    | _, _ => none

end

/-- The plan is not known to need any character. -/
def mayBeEmpty (plan : Plan) : Bool := plan.leastLength?.getD 0 == 0

mutual

/-- Every match begins at the start of the text, or ends at its end. -/
def isAnchored (atEnd : Bool) : Plan → Bool
  | .empty | .literal _ | .oneOf _ => false
  | .anchor condition => condition == if atEnd then .stop else .start
  | .capture p => p.isAnchored atEnd
  | .repeated p bounds => bounds.least != 0 && p.isAnchored atEnd
  | .seq ps => outermostAnchored atEnd ps
  | .alt ps => allAnchored atEnd ps

/-- One of the parts is anchored and those outside of it are empty. -/
def outermostAnchored (atEnd : Bool) : List Plan → Bool
  | [] => false
  | p :: ps =>
    if atEnd then outermostAnchored atEnd ps || (allEmptyOnly ps && p.isAnchored atEnd)
    else p.isAnchored atEnd || (p.isEmptyOnly && outermostAnchored atEnd ps)

def allAnchored (atEnd : Bool) : List Plan → Bool
  | [] => true
  | p :: ps => p.isAnchored atEnd && allAnchored atEnd ps

end

mutual

/-- The plans are equal.  No two captures are: each has a number of its own. -/
def isSame : Plan → Plan → Bool
  | .empty, .empty => true
  | .literal s, .literal t => s == t
  | .oneOf r, .oneOf s => r == s
  | .anchor a, .anchor b => a == b
  | .repeated p b, .repeated q c => b == c && p.isSame q
  | .seq ps, .seq qs => allSame ps qs
  | .alt ps, .alt qs => allSame ps qs
  | _, _ => false

def allSame : List Plan → List Plan → Bool
  | [], [] => true
  | p :: ps, q :: qs => p.isSame q && allSame ps qs
  | _, _ => false

end

/-! ### Sequences -/

/-- What a plan contributes to a sequence. -/
def parts : Plan → List Plan
  | .empty => []
  | .seq ps => ps
  | p => [p]

/-- Puts a part in front of a sequence; a literal is joined with a literal after it. -/
def joinPart : Plan → List Plan → List Plan
  | .literal s, .literal t :: ps => .literal (s ++ t) :: ps
  | p, ps => p :: ps

/-- The plan of a sequence of simplified parts. -/
def ofParts : List Plan → Plan
  | [] => .empty
  | [p] => p
  | ps => .seq ps

/-- One plan and then another. -/
def followedBy (first second : Plan) : Plan := ofParts (first.parts.foldr joinPart second.parts)

/-! ### Choices -/

/-- What a plan contributes to a choice. -/
def branches : Plan → List Plan
  | .alt ps => ps
  | p => [p]

/-- The code point of a literal of one character. -/
def code? : Plan → Option Nat
  | .literal [c] => some c.toNat
  | _ => none

/-- The ranges of a class. -/
def ranges? : Plan → Option (List (Nat × Nat))
  | .oneOf ranges => some ranges
  | _ => none

/-- The parts of a sequence of several parts. -/
def sequence? : Plan → Option (List Plan)
  | .seq ps => some ps
  | _ => none

/-- How many parts two sequences have in common at the start. -/
def commonLength : List Plan → List Plan → Nat
  | p :: ps, q :: qs => if p.isSame q then commonLength ps qs + 1 else 0
  | _, _ => 0

/-- How many parts all of the sequences have in common at the start. -/
def sharedLength : List (List Plan) → Nat
  | [] => 0
  | first :: others => others.foldl (fun n ps => min n (commonLength first ps)) first.length

/-- A choice of plans; common starts are taken out at most `fuel` times. -/
def ofChoiceWithin (fuel : Nat) (plans : List Plan) : Plan :=
  match plans.mapM code?, plans.mapM ranges?, plans.mapM sequence?, fuel with
  | some codes, _, _, _ => ofRanges (sortedRanges (codes.map fun code => (code, code)))
  | none, some ranges, _, _ => ofRanges (sortedRanges ranges.flatten)
  | none, none, some sequences, fuel + 1 =>
    let shared := sharedLength sequences
    if shared == 0 then .alt plans
    else
      let tails := sequences.map fun ps => ofParts (ps.drop shared)
      ((sequences.headD []).take shared).foldr followedBy
        (ofChoiceWithin fuel (tails.flatMap branches))
  | _, _, _, _ => .alt plans

/-- A choice of plans.  Each time that a common start is taken out the branches get shorter. -/
def ofChoice : List Plan → Plan
  | [p] => p
  | plans => ofChoiceWithin (plans.flatMap parts).length (plans.flatMap branches)

/-! ### Repetitions -/

/-- A plan repeated.  What is always empty need not be repeated more than once. -/
def ofRepetition (body : Plan) (bounds : Bounds) : Plan :=
  let (least, most) :=
    if body.isEmptyOnly then (min bounds.least 1, some (min (bounds.most.getD 1) 1))
    else (bounds.least, bounds.most)
  if most == some 0 then .empty
  else if least == 1 && most == some 1 then body
  else .repeated body { bounds with least := least, most := most }

end Plan

/-- The plans of the branches of a pattern, which are several if it is a choice. -/
def branchPlans : Pattern → List Plan
  | .empty => [.empty]
  | .char c => [.literal [c]]
  | .any => [.oneOf [(0, 0x09), (0x0B, 0x10FFFF)]]
  | .oneOf set => [.ofCharset set]
  | .anchor condition => [.anchor condition]
  | .group capturing p =>
    if capturing then [.capture (.ofChoice p.branchPlans)] else [.ofChoice p.branchPlans]
  | .seq p q => [(Plan.ofChoice p.branchPlans).followedBy (.ofChoice q.branchPlans)]
  | .alt p q => .ofChoice p.branchPlans :: q.branchPlans
  | .repeated p bounds => [.ofRepetition (.ofChoice p.branchPlans) bounds]

/-- The simplified form of a pattern. -/
def plan (pattern : Pattern) : Plan := .ofChoice pattern.branchPlans

end CodeHighlight.Pattern
