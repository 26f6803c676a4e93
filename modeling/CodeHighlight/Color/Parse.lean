import CodeHighlight.Color.Basic
import CodeHighlight.Decimal.Numeral
import CodeHighlight.Error
import CodeHighlight.Text.Blank
import CodeHighlight.Text.Hexadecimal

/-!
# Color.Parse — reading colors

`parse` reads `#RGB`, `#RGBA`, `#RRGGBB`, `#RRGGBBAA`, and `rgb` or `rgba` with three or four
numbers in parentheses; both names take either count.  Blanks around the whole and around each
number are skipped.
-/

namespace CodeHighlight.Color

/-! ### Hexadecimal notation -/

/-- The color of three or four bytes.  The alpha byte counts in 255ths. -/
def ofBytes? : List Nat → Option (Color Float)
  | [r, g, b] => some (ofChannels (.ofNat r) (.ofNat g) (.ofNat b))
  | [r, g, b, a] => some ⟨.ofNat r, .ofNat g, .ofNat b, .ofNat a / 255⟩
  | _ => none

/-- The bytes that digits stand for.  In a short form each digit is doubled. -/
def bytes? : List Nat → Option (List Nat)
  | [r, g, b] => some [17 * r, 17 * g, 17 * b]
  | [r, g, b, a] => some [17 * r, 17 * g, 17 * b, 17 * a]
  | [r, r', g, g', b, b'] => some [16 * r + r', 16 * g + g', 16 * b + b']
  | [r, r', g, g', b, b', a, a'] => some [16 * r + r', 16 * g + g', 16 * b + b', 16 * a + a']
  | _ => none

/-- Reads the digits after the number sign. -/
def ofHexDigits? (cs : List Char) : Option (Color Float) := do
  ofBytes? (← bytes? (← cs.mapM Text.hexValue?))

/-! ### Functional notation -/

/-- The pieces between commas, at least one. -/
def fields : List Char → List (List Char)
  | [] => [[]]
  | c :: cs =>
    if c == ',' then [] :: fields cs
    else
      match fields cs with
      | [] => [[c]]
      | field :: rest => (c :: field) :: rest

/-- Reads one argument: a number among blanks. -/
def argument? (field : List Char) : Option Float := Decimal.number? (Text.trim field)

/-- The color of three or four numbers. -/
def ofArguments? : List Float → Option (Color Float)
  | [r, g, b] => some (ofChannels r g b)
  | [r, g, b, a] => some ⟨r, g, b, a⟩
  | _ => none

/-- The text between the parentheses of a call of `rgb` or `rgba`. -/
def callBody? (cs : List Char) : Option (List Char) :=
  let afterName :=
    match cs with
    | 'r' :: 'g' :: 'b' :: '(' :: body => some body
    | 'r' :: 'g' :: 'b' :: 'a' :: '(' :: body => some body
    | _ => none
  afterName.bind fun body => if body.getLast? == some ')' then some body.dropLast else none

/-- Reads the functional notation. -/
def ofCall? (cs : List Char) : Option (Color Float) := do
  ofArguments? (← (fields (← callBody? cs)).mapM argument?)

/-! ### Both notations -/

/-- Reads a color that has no blanks around it. -/
def ofTrimmed? : List Char → Option (Color Float)
  | '#' :: digits => ofHexDigits? digits
  | cs => ofCall? cs

/-- Reads a color.  What is no color is named in the error without the blanks around it. -/
def parse (text : String) : Except Error (Color Float) :=
  let trimmed := Text.trim text.toList
  match ofTrimmed? trimmed with
  | some color => .ok color
  | none => .error (.invalidColor (String.ofList trimmed))

end CodeHighlight.Color
