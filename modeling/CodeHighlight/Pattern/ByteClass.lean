import CodeHighlight.Pattern.Draft
import CodeHighlight.Text.Utf8
import Std.Data.TreeMap.Basic

/-!
# Pattern.ByteClass — classes of characters in an automaton over bytes

A class is a union of boxes of byte ranges.  The automaton that reads forwards tests the bytes of
all boxes at once, one state for each byte that may follow; the one that reads backwards has a chain
of states for each box.  In both, equal states are shared as long as they are remembered: the memory
is a table with a fixed number of slots, in which a state may have to make room for another one.
-/

namespace CodeHighlight.Pattern

/-- The boxes of byte ranges that make up a class. -/
abbrev Boxes := List (List (Nat × Nat))

/-! ### Shared states -/

/-- A key as a number of 64 bits, by the hash function FNV-1a. -/
def hashOf (key : List Nat) : UInt64 :=
  key.foldl (fun hash n => (hash ^^^ UInt64.ofNat n) * 1099511628211) 14695981039346656037

/-- The slot of a key in a table with so many slots. -/
def slotOf (slots : Nat) (key : List Nat) : Nat := (hashOf key).toNat % slots

/-- The states of a class that is being added to an automaton. -/
structure ClassDraft where
  /-- The number of the next state. -/
  next : Nat
  /-- The bytes that the states take besides their own size. -/
  extra : Nat
  /-- What is remembered in each slot: what a state does, and its number. -/
  known : Std.TreeMap Nat (List Nat × Nat)

namespace ClassDraft

/-- A class of which so many states have been made, numbered from `first`. -/
def start (first made extra : Nat) : ClassDraft := ⟨first + made, extra, ∅⟩

/-- The number of a state that does what `key` says.  It is made, and takes `extra` bytes besides
its own size, unless it is remembered. -/
def state (slots : Nat) (key : List Nat) (extra : Nat) (draft : ClassDraft) : Nat × ClassDraft :=
  let slot := slotOf slots key
  match draft.known[slot]? with
  | some (other, number) => if other == key then (number, draft) else made slot
  | none => made slot
where
  /-- The state is made and takes the slot. -/
  made (slot : Nat) : Nat × ClassDraft :=
    (draft.next,
      ⟨draft.next + 1, draft.extra + extra, draft.known.insert slot (key, draft.next)⟩)

end ClassDraft

/-! ### Forwards -/

/-- How many states the forward automaton remembers in a class. -/
def forwardSlots : Nat := 10000

/-- The number of the state that tests for what is left of some boxes, which are at most `level`
bytes long.  Where nothing is left it is `target`. -/
def forwardState (target : Nat) : Nat → Boxes → ClassDraft → Nat × ClassDraft
  | 0, _, draft => (target, draft)
  | level + 1, boxes, draft =>
    if boxes == [[]] then (target, draft)
    else
      let groups := boxes.splitBy fun a b => a.head? == b.head?
      let (key, grown) := groups.foldl
        (fun (key, draft) group =>
          let range := (group.headD []).headD (0, 0)
          let (state, grown) := forwardState target level (group.map List.tail) draft
          (key ++ [range.1, range.2, state], grown))
        ([], draft)
      grown.state forwardSlots key (groups.length * transitionSize)

/-- The states of a class in the forward automaton, numbered from `first`, which is the state that
all boxes lead to. -/
def forwardClass (boxes : Boxes) (first : Nat) : ClassDraft :=
  (forwardState first 4 boxes (.start first 1 0)).2

/-! ### Backwards -/

/-- How many states the backward automaton remembers in a class. -/
def backwardSlots : Nat := 1000

/-- The states of a class in the backward automaton, numbered from `first`, which branches to every
box.  The next one is where all boxes lead; a box is added from its end of the text on. -/
def backwardClass (boxes : Boxes) (first : Nat) : ClassDraft :=
  boxes.foldl
    (fun draft box =>
      (box.foldl
        (fun (state, draft) range =>
          draft.state backwardSlots [state, range.1, range.2] 0)
        (first + 1, draft)).2)
    (.start first 2 (boxes.length * branchSize))

/-! ### Both -/

/-- A class of code points, given by ranges in increasing order. -/
def classPiece (backward : Bool) (ranges : List (Nat × Nat)) : Piece :=
  if ranges.all fun range => range.2 < 0x80 then .states 2 (ranges.length * transitionSize)
  else
    let boxes := ranges.flatMap Text.byteBoxes
    ⟨fun draft =>
      let states := (if backward then backwardClass else forwardClass) boxes draft.states
      draft.grow (states.next - draft.states) states.extra⟩

end CodeHighlight.Pattern
