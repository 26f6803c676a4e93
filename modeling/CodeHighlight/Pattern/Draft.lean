/-!
# Pattern.Draft — automata under construction

Of an automaton that is being built only its measures matter here: a `Draft` counts states and
bytes.  A `Piece` is a part of an automaton, given by what it adds to a draft.  The states of a
piece are numbered from the number of states before it, and this number can make a difference to
what it adds, so that copies of one piece need not be equally large.

A state that branches takes `branchSize` for each link out of it.  Every piece is linked once to
what comes after it, and the link counts as part of the piece.
-/

namespace CodeHighlight.Pattern

/-- How many bytes an automaton of a pattern may take. -/
def footprintLimit : Nat := 10 * 1024 * 1024

/-- The size of a state in bytes. -/
def stateSize : Nat := 32

/-- The size of a transition out of a state that tests for several ranges of bytes. -/
def transitionSize : Nat := 8

/-- The size of a link out of a state that branches. -/
def branchSize : Nat := 4

/-! ### Drafts -/

/-- The measures of an automaton under construction. -/
structure Draft where
  states : Nat
  bytes : Nat
  deriving DecidableEq

namespace Draft

/-- No states yet. -/
def empty : Draft := ⟨0, 0⟩

/-- The draft with some more states, which take `extra` bytes besides their own size, unless this
makes it too large. -/
def grow (draft : Draft) (states extra : Nat) : Option Draft :=
  let bytes := draft.bytes + states * stateSize + extra
  if bytes ≤ footprintLimit then some ⟨draft.states + states, bytes⟩ else none

end Draft

/-! ### Pieces -/

/-- A part of an automaton.  It cannot be added where the draft would get too large. -/
structure Piece where
  addTo : Draft → Option Draft

namespace Piece

/-- So many states that take `extra` bytes besides their own size. -/
def states (count extra : Nat) : Piece := ⟨fun draft => draft.grow count extra⟩

/-- A state with two links out of it. -/
def branch : Piece := states 1 (2 * branchSize)

/-- Adds pieces one after the other. -/
def addAll : List Piece → Draft → Option Draft
  | [], draft => some draft
  | piece :: pieces, draft =>
    match piece.addTo draft with
    | none => none
    | some grown => addAll pieces grown

/-- Pieces added one after the other. -/
def chain (pieces : List Piece) : Piece := ⟨addAll pieces⟩

/-- Adds a piece so many times. -/
def addTimes (piece : Piece) : Nat → Draft → Option Draft
  | 0, draft => some draft
  | count + 1, draft =>
    match piece.addTo draft with
    | none => none
    | some grown => addTimes piece count grown

/-- A piece added so many times. -/
def times (piece : Piece) (count : Nat) : Piece := ⟨piece.addTimes count⟩

/-- A number of copies linked one to the other; without any, a state that leads on. -/
def copies (piece : Piece) (count : Nat) : Piece :=
  if count == 0 then states 1 0 else piece.times count

/-- At least so many copies.  A state after the last one branches back to it.  Where no copy is
needed this state comes first, unless the body may be empty: then another branch skips all. -/
def atLeast (piece : Piece) (mayBeEmpty : Bool) (count : Nat) : Piece :=
  if count != 0 then chain [piece.copies count, branch]
  else if mayBeEmpty then chain [piece, states 3 (4 * branchSize)]
  else chain [branch, piece]

/-- At least so many copies and so many at most, with a branch in front of each that may be left
out and one state where all these branches lead. -/
def between (piece : Piece) (least most : Nat) : Piece :=
  if least == most then piece.copies most
  else if least == 0 && most == 1 then chain [branch, piece, states 1 0]
  else chain [piece.copies least, states 1 0, (chain [branch, piece]).times (most - least)]

/-- A choice: a state that branches to every piece, and one that all of them lead to.  These two
are made as soon as there is a choice, after the second piece. -/
def choice (pieces : List Piece) : Piece :=
  chain (pieces.take 2 ++ states 2 (pieces.length * branchSize) :: pieces.drop 2)

end Piece

end CodeHighlight.Pattern
