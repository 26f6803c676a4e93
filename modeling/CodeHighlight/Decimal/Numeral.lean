/-!
# Decimal.Numeral — reading a double

A numeral is an optional sign followed by `inf`, `infinity` or `nan` in any letter case, or by a
decimal: digits with an optional point among, before or after them, and an optional exponent.
`number?` reads one as the nearest double.  A value that is too large becomes infinite and one that
is too small becomes zero.
-/

namespace CodeHighlight.Decimal

/-- `digits · 10 ^ exponent`, where `places` of the digits stand after the point. -/
def scientific (digits : List Char) (places : Nat) (exponent : Int) : Float :=
  let scale := exponent - places
  Float.ofScientific (Nat.ofDigitChars 10 digits 0) (scale < 0) scale.natAbs

/-- A natural number: digits only, and at least one. -/
def natural? (cs : List Char) : Option Nat :=
  if !cs.isEmpty && cs.all Char.isDigit then some (Nat.ofDigitChars 10 cs 0) else none

/-- Splits off a sign; `true` stands for a minus. -/
def splitSign : List Char → Bool × List Char
  | '-' :: cs => (true, cs)
  | '+' :: cs => (false, cs)
  | cs => (false, cs)

/-- An integer: an optional sign and digits. -/
def integer? (cs : List Char) : Option Int :=
  let (negative, digits) := splitSign cs
  (natural? digits).map fun n => if negative then -(n : Int) else n

/-- What may follow the digits of a decimal: nothing, or `e` or `E` and an integer. -/
def exponent? : List Char → Option Int
  | [] => some 0
  | c :: cs => if c == 'e' || c == 'E' then integer? cs else none

/-- Splits off the digits after a point, if there is one. -/
def splitFraction : List Char → List Char × List Char
  | '.' :: cs => cs.span Char.isDigit
  | cs => ([], cs)

/-- A decimal without a sign. -/
def decimal? (cs : List Char) : Option Float :=
  let (whole, afterWhole) := cs.span Char.isDigit
  let (fraction, afterFraction) := splitFraction afterWhole
  if whole.isEmpty && fraction.isEmpty then none
  else (exponent? afterFraction).map (scientific (whole ++ fraction) fraction.length)

/-- The names of the values that have no digits. -/
def named? (cs : List Char) : Option Float :=
  let name := cs.map Char.toLower
  if name == ['i', 'n', 'f'] || name == ['i', 'n', 'f', 'i', 'n', 'i', 't', 'y'] then
    some (1 / 0)
  else if name == ['n', 'a', 'n'] then some (0 / 0)
  else none

/-- Reads a numeral. -/
def number? (cs : List Char) : Option Float :=
  let (negative, magnitude) := splitSign cs
  ((named? magnitude).or (decimal? magnitude)).map fun x => if negative then -x else x

end CodeHighlight.Decimal
