import CodeHighlight.Proofs.Color.Compositing
import CodeHighlight.Proofs.Style.Form
import Mathlib

/-!
# Proofs.Style.Solid — what an opaque background makes of doubles

The formula for the alpha of a blend may be rounded off one in doubles, and it is no number where a
source holds none.  Over an opaque background it is left out and the alpha is one
(`alpha_blend_of_solid`), and an alpha of one is still one once it has been rounded
(`css_of_solid`).  So whatever is laid over an opaque color, what comes out is opaque and is written
in hexadecimal digits, and so are all colors of the styles on an opaque background
(`alpha_stays_one`).
-/

namespace CodeHighlight

/-- The two notations of colors do not overlap. -/
theorem IsHexText.not_isFunctionalText {text : String} (h : IsHexText text) :
    ¬ IsFunctionalText text := by
  rintro ⟨red, green, blue, alpha, -, -, -, -, hcall⟩
  obtain ⟨digits, -, -, hhex⟩ := h
  have hhead := congrArg (fun text : String => text.toList.head?) (hhex.symm.trans hcall)
  simp at hhead

namespace Color

variable {dst color : Color Float}

/-- Over an opaque color a blend has an alpha of one, even if `src` holds no numbers at all. -/
theorem alpha_blend_of_solid (h : dst.alpha = 1) (src : Color Float) :
    (dst.blend src).alpha = 1 := by
  have hone : ((1 : Float) == 1) = true := by decide +kernel
  have hzero : ((1 : Float) == 0) = false := by decide +kernel
  have halpha : blendAlpha dst src = 1 := by rw [blendAlpha, h, hone, if_pos rfl]
  rw [blend, halpha, hzero]
  rfl

theorem css_of_solid (h : color.alpha = 1) : color.css = String.ofList color.hexText := by
  have hone : (roundedAlpha 1 == 1) = true := by decide +kernel
  rw [css, h, hone]
  rfl

theorem isHexText_of_solid (h : color.alpha = 1) : IsHexText color.css := by
  rw [css_of_solid h]
  exact isHexText_hexText color

theorem alpha_of_mem_shades {foreground background : Color Float} (h : background.alpha = 1)
    (group : StyleGroup) :
    ∀ color ∈ (group.shades foreground background).colors, color.alpha = 1 := by
  simp only [Shades.colors, List.forall_mem_cons]
  exact ⟨alpha_blend_of_solid h _, alpha_blend_of_solid h _, alpha_blend_of_solid h _,
    List.forall_mem_nil _⟩

/-- **Once opaque, always opaque**: whatever doubles the sources hold that are laid one after
another over a background whose alpha is one, all that comes out has an alpha of one and is written
as `#RRGGBB`.  So each style on such a background is made up of three colors in this notation, and
of none in the other one. -/
theorem alpha_stays_one :
    (∀ (dst : Color Float) (sources : List (Color Float)), dst.alpha = 1 →
      ∀ color ∈ sources.scanl blend dst, color.alpha = 1 ∧ IsHexText color.css) ∧
    ∀ (foreground background : Color Float) (group : StyleGroup), background.alpha = 1 →
      let recipe : Recipe Float := group.recipe
      let shades := group.shades foreground background
      (Styles.ofColors foreground background).get group =
        "color: " ++ shades.text.css ++ "; text-shadow: " ++ recipe.first.css shades.first ++
          ", " ++ recipe.second.css shades.second ++
          (if recipe.italic then "; font-style: italic" else "") ∧
      ∀ color ∈ shades.colors, IsHexText color.css ∧ ¬ IsFunctionalText color.css := by
  refine ⟨fun dst sources h color hmem => ?_, fun foreground background group h => ⟨?_, ?_⟩⟩
  · have halpha : color.alpha = 1 :=
      forall_mem_scanl_blend (P := fun color => color.alpha = 1) (Q := fun _ => True)
        (fun hdst _ => alpha_blend_of_solid hdst _) h (fun _ _ => trivial) color hmem
    exact ⟨halpha, isHexText_of_solid halpha⟩
  · exact Styles.get_ofColors foreground background group
  · intro color hmem
    have hhex := isHexText_of_solid (alpha_of_mem_shades h group color hmem)
    exact ⟨hhex, hhex.not_isFunctionalText⟩

/-- Black stays opaque under channels and alphas that are no numbers or infinite. -/
theorem alpha_stays_one_over_black :
    ∀ color ∈ [⟨0 / 0, 1 / 0, -(1 / 0), 0 / 0⟩, ⟨0, 0, 0, 1 / 0⟩].scanl blend black,
      color.alpha = 1 ∧ IsHexText color.css :=
  alpha_stays_one.1 black _ rfl

end Color

end CodeHighlight
