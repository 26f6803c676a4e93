import CodeHighlight.Pattern.Footprint
import CodeHighlight.Pattern.Lexeme

/-!
# Pattern.Parse — reading a written pattern

`parse` builds the pattern that a text describes.  It goes over the lexemes once and keeps a frame
for each group that is open.  Patterns that are nested too deeply, or would take too much memory as
an automaton, are refused.
-/

namespace CodeHighlight.Pattern

/-- What has been read of a group: its finished branches and the items of the branch under way, both
latest first. -/
structure Frame where
  /-- The group captures what it matches. -/
  capturing : Bool
  branches : List Pattern
  items : List Pattern
  deriving DecidableEq

namespace Frame

/-- The branch under way. -/
def branch (frame : Frame) : Pattern := seqs frame.items.reverse

/-- The choice of all branches. -/
def choice (frame : Frame) : Pattern :=
  match frame.branches.reverse with
  | [] => frame.branch
  | first :: others => alts first (others ++ [frame.branch])

/-- The frame with one more item. -/
def add (frame : Frame) (item : Pattern) : Frame := { frame with items := item :: frame.items }

/-- The frame with a new branch begun. -/
def split (frame : Frame) : Frame :=
  { frame with branches := frame.branch :: frame.branches, items := [] }

end Frame

/-- What has been read of a pattern: the group under way and the groups around it, innermost
first. -/
structure Reading where
  inner : Frame
  outer : List Frame
  deriving DecidableEq

namespace Reading

/-- The reading before the first lexeme. -/
def begin : Reading := ⟨⟨false, [], []⟩, []⟩

/-- The reading with one more item. -/
def add (reading : Reading) (item : Pattern) : Reading :=
  { reading with inner := reading.inner.add item }

/-- The reading with its last item replaced by what `wrap` makes of it. -/
def wrapLast (reading : Reading) (wrap : Pattern → Pattern) : Except Fault Reading :=
  match reading.inner.items with
  | [] => .error .nothingToRepeat
  | item :: items =>
    .ok { reading with inner := { reading.inner with items := wrap item :: items } }

/-- The reading after one more lexeme. -/
def next (reading : Reading) : Lexeme → Except Fault Reading
  | .char c => .ok (reading.add (.char c))
  | .any => .ok (reading.add .any)
  | .oneOf set => .ok (reading.add (.oneOf set))
  | .anchor condition => .ok (reading.add (.anchor condition))
  | .opening capturing => .ok ⟨⟨capturing, [], []⟩, reading.inner :: reading.outer⟩
  | .closing =>
    match reading.outer with
    | [] => .error .unopenedGroup
    | frame :: outer =>
      .ok ⟨frame.add (.group reading.inner.capturing reading.inner.choice), outer⟩
  | .bar => .ok { reading with inner := reading.inner.split }
  | .repetition least most => reading.wrapLast (.repeated · ⟨least, most, false⟩)
  | .shortest => reading.wrapLast fun
    | .repeated body bounds => .repeated body { bounds with shortest := true }
    | item => item

/-- The pattern, once all is read. -/
def finish (reading : Reading) : Except Fault Pattern :=
  if reading.outer.isEmpty then .ok reading.inner.choice else .error .unclosedGroup

end Reading

/-- Reads lexemes. -/
def ofLexemes (pieces : List Lexeme) : Except Fault Pattern := do
  (← pieces.foldlM Reading.next .begin).finish

/-! ### Limits -/

/-- How deeply a pattern may be nested. -/
def depthLimit : Nat := 250

/-- Refuses a pattern that exceeds a limit. -/
def withinLimits (pattern : Pattern) : Except Fault Pattern :=
  if depthLimit < pattern.depth then .error .tooDeep
  else if !pattern.fits then .error .tooLarge
  else .ok pattern

/-- Reads the characters of a written pattern. -/
def ofChars (cs : List Char) : Except Fault Pattern := do
  withinLimits (← ofLexemes (← lexemes false (← glyphs cs)))

/-- Reads a written pattern. -/
def parse (text : String) : Except Fault Pattern := ofChars text.toList

end CodeHighlight.Pattern
