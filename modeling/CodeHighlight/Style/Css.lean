import CodeHighlight.Color.Css
import CodeHighlight.Style.Palette

/-!
# Style.Css — the styles as CSS text

A `Style` is the look of a style group for one foreground and background, ready to be written as
CSS declarations; `Styles` holds those declarations for all four groups.
-/

namespace CodeHighlight

/-- A shadow in CSS, with its color. -/
def Shadow.css (shadow : Shadow Float) (color : Color Float) : String :=
  toString shadow.offset ++ "px 0px " ++ toString shadow.blur ++ "px " ++ color.css

/-- The look of a style group for one foreground and background. -/
structure Style where
  color : String
  firstShadow : String
  secondShadow : String
  italic : Bool
  deriving DecidableEq

namespace Style

/-- The style of a group. -/
def ofColors (group : StyleGroup) (foreground background : Color Float) : Style :=
  let recipe : Recipe Float := group.recipe
  let shades := group.shades foreground background
  { color := shades.text.css
    firstShadow := recipe.first.css shades.first
    secondShadow := recipe.second.css shades.second
    italic := recipe.italic }

/-- The style as CSS declarations. -/
def css (style : Style) : String :=
  "color: " ++ style.color ++ "; text-shadow: " ++ style.firstShadow ++ ", " ++
    style.secondShadow ++ if style.italic then "; font-style: italic" else ""

end Style

/-- The CSS declarations of all style groups. -/
structure Styles where
  keyword : String
  punctuation : String
  string : String
  comment : String
  deriving DecidableEq

namespace Styles

/-- The declarations of every group for one foreground and background. -/
def ofColors (foreground background : Color Float) : Styles where
  keyword := (Style.ofColors .keyword foreground background).css
  punctuation := (Style.ofColors .punctuation foreground background).css
  string := (Style.ofColors .string foreground background).css
  comment := (Style.ofColors .comment foreground background).css

/-- The declarations of one group. -/
def get (styles : Styles) : StyleGroup → String
  | .keyword => styles.keyword
  | .punctuation => styles.punctuation
  | .string => styles.string
  | .comment => styles.comment

@[simp] theorem get_ofColors (foreground background : Color Float) (group : StyleGroup) :
    (ofColors foreground background).get group =
      (Style.ofColors group foreground background).css := by
  cases group <;> rfl

end Styles

end CodeHighlight
