import CodeHighlight.Color.Basic
import CodeHighlight.Decimal.Places
import CodeHighlight.Text.Hexadecimal

/-!
# Color.Css — colors as CSS text

An opaque color is written `#RRGGBB`, any other one as `rgba` with decimal channels and an alpha of
two decimals.  Whether a color counts as opaque is decided after its alpha has been rounded.
-/

namespace CodeHighlight.Color

/-- An alpha rounded to two decimals, a half away from zero. -/
def roundedAlpha (alpha : Float) : Float := Decimal.nearestInteger (alpha * 100) / 100

/-- The color as `#RRGGBB`, without its alpha. -/
def hexText (color : Color Float) : List Char :=
  let digits (channel : Float) := Text.hexByte (Decimal.nearestByte channel)
  '#' :: digits color.red ++ digits color.green ++ digits color.blue

/-- The color as `rgba(r,g,b,a)`, with the given alpha. -/
def functionalText (color : Color Float) (alpha : Float) : List Char :=
  let digits (channel : Float) := Nat.toDigits 10 (Decimal.nearestByte channel).toNat
  ['r', 'g', 'b', 'a', '('] ++ digits color.red ++ ',' :: digits color.green ++
    ',' :: digits color.blue ++ ',' :: Decimal.twoPlaces alpha ++ [')']

/-- The color in CSS. -/
def css (color : Color Float) : String :=
  let alpha := roundedAlpha color.alpha
  String.ofList (if alpha == 1 then color.hexText else color.functionalText alpha)

end CodeHighlight.Color
