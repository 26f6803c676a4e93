import CodeHighlight.Category
import CodeHighlight.Color.Basic

/-!
# Style.Palette — the colors of each style group

Every group paints its tokens in the foreground color at an opacity of its own, laid over the
background, with two soft shadows in the same hue.  `StyleGroup.recipe` lists these looks and
`StyleGroup.shades` works out their colors, in any type with arithmetic.
-/

namespace CodeHighlight

/-- A text shadow: its horizontal offset and blur radius in pixels, and its alpha as a part of the
opacity of its group. -/
structure Shadow (α : Type) where
  offset : Int
  blur : Nat
  alpha : α

/-- The fixed look of a style group. -/
structure Recipe (α : Type) where
  opacity : α
  first : Shadow α
  second : Shadow α
  italic : Bool

/-- The colors of a style group: that of the text and those of its two shadows. -/
structure Shades (α : Type) where
  text : Color α
  first : Color α
  second : Color α

/-- The three colors, in the order in which a style names them. -/
def Shades.colors {α : Type} (shades : Shades α) : List (Color α) :=
  [shades.text, shades.first, shades.second]

namespace StyleGroup

variable {α : Type}

/-- The look of each group. -/
def recipe [OfScientific α] : StyleGroup → Recipe α
  | .keyword => ⟨1.0, ⟨0, 9, 0.7⟩, ⟨0, 2, 0.4⟩, false⟩
  | .punctuation => ⟨0.6, ⟨0, 7, 0.25⟩, ⟨0, 3, 0.25⟩, false⟩
  | .string => ⟨0.7, ⟨3, 5, 0.2⟩, ⟨-3, 5, 0.2⟩, false⟩
  | .comment => ⟨0.5, ⟨3, 5, 0.25⟩, ⟨-3, 5, 0.25⟩, true⟩

variable [OfScientific α] [Add α] [Sub α] [Mul α] [Div α] [BEq α] [OfNat α 0] [OfNat α 1]

/-- The foreground at the opacity of the group, over the background. -/
def textColor (group : StyleGroup) (foreground background : Color α) : Color α :=
  background.blend (foreground.withAlpha (foreground.alpha * group.recipe.opacity))

/-- The color of one of the shadows of the group. -/
def shadowColor (group : StyleGroup) (shadow : Shadow α) (foreground background : Color α) :
    Color α :=
  background.blend
    (foreground.withAlpha (foreground.alpha * shadow.alpha * group.recipe.opacity))

/-- The colors of the group for a foreground and a background. -/
def shades (group : StyleGroup) (foreground background : Color α) : Shades α where
  text := group.textColor foreground background
  first := group.shadowColor group.recipe.first foreground background
  second := group.shadowColor group.recipe.second foreground background

end StyleGroup

end CodeHighlight
