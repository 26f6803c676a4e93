/-!
# Text.Utf8 — ranges of characters as ranges of bytes

A range of code points is the union of finitely many boxes of UTF-8 texts: sequences of byte
ranges, all of whose combinations are encodings of characters in the range.  `byteBoxes` lists them
in increasing order.
-/

namespace CodeHighlight.Text

/-- The bytes of a code point in UTF-8. -/
def utf8Bytes (code : Nat) : List Nat :=
  if code < 0x80 then [code]
  else if code < 0x800 then [0xC0 + code / 64, 0x80 + code % 64]
  else if code < 0x10000 then [0xE0 + code / 4096, 0x80 + code / 64 % 64, 0x80 + code % 64]
  else
    [0xF0 + code / 262144, 0x80 + code / 4096 % 64, 0x80 + code / 64 % 64, 0x80 + code % 64]

/-- The parts of a range that the given ranges cover. -/
def cutRange (range : Nat × Nat) (pieces : List (Nat × Nat)) : List (Nat × Nat) :=
  pieces.filterMap fun piece =>
    let first := max range.1 piece.1
    let last := min range.2 piece.2
    if first ≤ last then some (first, last) else none

/-- The code points by the length of their encodings, without the surrogates. -/
def lengthClasses : List (Nat × Nat) :=
  [(0, 0x7F), (0x80, 0x7FF), (0x800, 0xD7FF), (0xE000, 0xFFFF), (0x10000, 0x10FFFF)]

/-- Where a range has to be cut so that its parts are boxes in the last `level` continuation bytes,
as the last code point of the first part: a range that leaves a block of codes with a common start
has to begin and to end with a whole block.  Single bytes have no continuation. -/
def cut? (range : Nat × Nat) (level : Nat) : Option Nat :=
  let block := 1 <<< (6 * level)
  if range.2 < 0x80 || range.1 / block == range.2 / block then none
  else if range.1 % block != 0 then some (range.1 / block * block + (block - 1))
  else if range.2 % block != block - 1 then some (range.2 / block * block - 1)
  else none

/-- Cuts a range of codes with encodings of one length into boxes.  A range needs at most six cuts,
two for each continuation byte. -/
def boxesWithin : Nat → Nat × Nat → List (Nat × Nat)
  | 0, range => [range]
  | cuts + 1, range =>
    match [1, 2, 3].findSome? (cut? range) with
    | none => [range]
    | some last => boxesWithin cuts (range.1, last) ++ boxesWithin cuts (last + 1, range.2)

/-- The boxes of byte ranges that a range of code points consists of, in increasing order. -/
def byteBoxes (range : Nat × Nat) : List (List (Nat × Nat)) :=
  ((cutRange range lengthClasses).flatMap (boxesWithin 6)).map fun box =>
    (utf8Bytes box.1).zip (utf8Bytes box.2)

end CodeHighlight.Text
