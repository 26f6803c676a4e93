/-!
# Color.Basic — colors and alpha compositing

A color has three channels and an alpha.  `blend` lays one over another with the "over" operator.
It is stated for any type with arithmetic, so that the same definition runs on doubles and can be
read in exact rational arithmetic.
-/

namespace CodeHighlight

/-- A color with channels in `0, …, 255` and an alpha in `0, …, 1`.  Values outside of these ranges
are calculated with as they are; only what writes a color clamps. -/
structure Color (α : Type) where
  red : α
  green : α
  blue : α
  alpha : α
  deriving DecidableEq

namespace Color

variable {α : Type}

/-- An opaque color from its channels. -/
def ofChannels [OfNat α 1] (red green blue : α) : Color α := ⟨red, green, blue, 1⟩

/-- The same color with another alpha. -/
def withAlpha (color : Color α) (alpha : α) : Color α := { color with alpha }

/-- Opaque black, the default foreground. -/
def black : Color Float := ofChannels 0 0 0

/-- White with alpha zero, the default background. -/
def transparentWhite : Color Float := ⟨255, 255, 255, 0⟩

variable [Add α] [Sub α] [Mul α] [Div α] [BEq α] [OfNat α 0] [OfNat α 1]

/-- The alpha of `src` laid over `dst`.  Over an opaque color it is one whatever `src` holds. -/
def blendAlpha (dst src : Color α) : α :=
  if dst.alpha == 1 then 1 else src.alpha + dst.alpha * (1 - src.alpha)

/-- One channel of a blend whose alpha is `alpha`: the mean of both channels, weighted by what each
color contributes to the alpha. -/
def blendChannel (dst src : Color α) (alpha : α) (channel : Color α → α) : α :=
  (channel src * src.alpha + channel dst * dst.alpha * (1 - src.alpha)) / alpha

/-- Lays `src` over the background `dst`.  Where the result is fully transparent its channels are
zero. -/
def blend (dst src : Color α) : Color α :=
  let alpha := blendAlpha dst src
  if alpha == 0 then ⟨0, 0, 0, alpha⟩
  else
    ⟨blendChannel dst src alpha red, blendChannel dst src alpha green,
      blendChannel dst src alpha blue, alpha⟩

end Color

end CodeHighlight
