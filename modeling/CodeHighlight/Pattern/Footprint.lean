import CodeHighlight.Pattern.ByteClass
import CodeHighlight.Pattern.Plan

/-!
# Pattern.Footprint — how large the automata of a pattern are

A pattern can be matched by an automaton over the bytes of a text, forwards, and by one that reads
the text backwards.  `fits` says whether neither of them takes too many bytes.  Captures count in
the forward automaton only.
-/

namespace CodeHighlight.Pattern

/-! ### Choices of literals -/

/-- How many states a tree of words takes below one of its nodes, and the bytes besides their own
size.  The node branches to one test for each run of words that are not yet at their end, and to the
end of the tree for each word that is.  Words are at most `fuel` bytes long. -/
def wordTree : Nat → List (List Nat) → Nat × Nat
  | 0, _ => (0, 0)
  | fuel + 1, words =>
    let runs := (words.splitBy fun a b => !a.isEmpty && !b.isEmpty).filter (· != [[]])
    let ends :=
      (words.take 1).countP List.isEmpty + (words.dropWhile List.isEmpty).countP List.isEmpty
    let below := runs.map fun run =>
      let bytes := (run.filterMap List.head?).eraseDups
      let trees := bytes.map fun byte =>
        let tails := (run.filter (·.head? == some byte)).map List.tail
        if tails.all List.isEmpty then (0, 0) else wordTree fuel tails
      let test := if bytes.length == 1 then 0 else bytes.length * transitionSize
      (1 + (trees.map Prod.fst).sum, test + (trees.map Prod.snd).sum)
    (1 + (below.map Prod.fst).sum,
      (runs.length + ends) * branchSize + (below.map Prod.snd).sum)

/-- The bytes of a text in the order in which an automaton reads them. -/
def readBytes (backward : Bool) (text : List Char) : List Nat :=
  let bytes := text.flatMap fun c => Text.utf8Bytes c.toNat
  if backward then bytes.reverse else bytes

/-- A choice of literals: a tree of words and the state where it ends. -/
def literalChoice (backward : Bool) (texts : List (List Char)) : Piece :=
  let words := texts.map (readBytes backward)
  let (states, extra) := wordTree ((words.map List.length).foldl max 0) words
  .states (states + 1) extra

/-- The text of a literal. -/
def Plan.text? : Plan → Option (List Char)
  | .literal text => some text
  | _ => none

/-! ### Plans -/

mutual

/-- The part of an automaton for a plan. -/
def Plan.piece (backward : Bool) : Plan → Piece
  | .empty | .anchor _ => .states 1 0
  | .literal text => .states (readBytes backward text).length 0
  | .oneOf ranges => classPiece backward ranges
  | .capture p =>
    if backward then p.piece backward
    else .chain [.states 1 0, p.piece backward, .states 1 0]
  | .repeated p bounds =>
    match bounds.most with
    | none => (p.piece backward).atLeast p.mayBeEmpty bounds.least
    | some most => (p.piece backward).between bounds.least most
  | .seq ps =>
    let pieces := Plan.pieces backward ps
    .chain (if backward then pieces.reverse else pieces)
  | .alt ps =>
    match ps.mapM Plan.text? with
    | some texts => literalChoice backward texts
    | none => .choice (Plan.pieces backward ps)

/-- The parts of an automaton for several plans. -/
def Plan.pieces (backward : Bool) : List Plan → List Piece
  | [] => []
  | p :: ps => p.piece backward :: Plan.pieces backward ps

end

/-- What comes before a plan in an automaton: where it need not match at the side of the text that
is read first, a loop over any bytes. -/
def leadPiece (anchored : Bool) : Piece :=
  if anchored then .states 1 0 else .states 3 (transitionSize + 2 * branchSize)

/-- One of the automata of a pattern, if it is not too large.  The forward one captures the whole
match. -/
def Plan.automaton? (backward : Bool) (plan : Plan) : Option Draft :=
  let whole := if backward then plan else .capture plan
  let lead := leadPiece (plan.isAnchored backward)
  (Piece.chain [lead, whole.piece backward, .states 1 0]).addTo .empty

/-- From how many literals on a choice is looked up in a table of words. -/
def wordTableSize : Nat := 3000

/-- The plan is a choice of so many literals that it is looked up in a table of words and needs no
automaton. -/
def Plan.isWordTable : Plan → Bool
  | .alt ps => wordTableSize ≤ ps.length && ps.all (·.text?.isSome)
  | _ => false

/-- The pattern needs no automaton that is too large. -/
def fits (pattern : Pattern) : Bool :=
  let plan := pattern.plan
  plan.isWordTable || ((plan.automaton? false).isSome && (plan.automaton? true).isSome)

end CodeHighlight.Pattern
