import CodeHighlight.Color.Basic
import Mathlib

/-!
# Proofs.Color.Compositing — colors laid over one another

Read in exact rational arithmetic, laying colors over one another is a monoid (`blend_monoid`).
What shines through a blend is the product of what shines through its colors
(`one_sub_alpha_blend`), so that alphas stay between zero and one.  For colors whose channels have
been multiplied by their alpha a blend needs no division (`premultiply_blend`) and is easily seen to
be associative (`lay_assoc`).  The multiplication loses nothing but the channels of clear colors,
and these a blend sets to zero (`isNormal_blend`, `IsNormal.eq_of_premultiply_eq`).
-/

namespace CodeHighlight.Color

/-! ## Rows of sources -/

/-- What every blend keeps, all colors keep that come out while sources are laid over a background
one after another. -/
theorem forall_mem_scanl_blend {α : Type} [Add α] [Sub α] [Mul α] [Div α] [BEq α] [OfNat α 0]
    [OfNat α 1] {P Q : Color α → Prop} (hblend : ∀ {dst src}, P dst → Q src → P (dst.blend src))
    {dst : Color α} {sources : List (Color α)} (hdst : P dst) (hsources : ∀ src ∈ sources, Q src) :
    ∀ color ∈ sources.scanl blend dst, P color := by
  induction sources generalizing dst with
  | nil =>
    rw [List.scanl_nil, List.forall_mem_singleton]
    exact hdst
  | cons src sources ih =>
    obtain ⟨hsrc, hsources⟩ := List.forall_mem_cons.mp hsources
    rw [List.scanl_cons, List.forall_mem_cons]
    exact ⟨hdst, ih (hblend hdst hsrc) hsources⟩

variable {dst src x y z color clear : Color ℚ}

/-! ## The alpha of a blend -/

/-- The special case of an opaque background is no exception in exact arithmetic. -/
theorem blendAlpha_eq (dst src : Color ℚ) :
    blendAlpha dst src = src.alpha + dst.alpha * (1 - src.alpha) := by
  unfold blendAlpha
  split
  · rename_i hone
    rw [eq_of_beq hone]
    ring
  · rfl

theorem blend_of_alpha_eq_zero (h : src.alpha + dst.alpha * (1 - src.alpha) = 0) :
    dst.blend src = ⟨0, 0, 0, 0⟩ := by
  have hzero : (blendAlpha dst src == 0) = true := by rw [blendAlpha_eq, h]; rfl
  rw [blend, hzero, blendAlpha_eq, h]
  rfl

theorem blend_of_alpha_ne_zero (h : src.alpha + dst.alpha * (1 - src.alpha) ≠ 0) :
    let alpha := src.alpha + dst.alpha * (1 - src.alpha)
    dst.blend src = ⟨blendChannel dst src alpha red, blendChannel dst src alpha green,
      blendChannel dst src alpha blue, alpha⟩ := by
  have hzero : (blendAlpha dst src == 0) = false := by rw [blendAlpha_eq]; exact beq_false_of_ne h
  rw [blend, hzero, blendAlpha_eq]
  rfl

@[simp] theorem alpha_blend (dst src : Color ℚ) :
    (dst.blend src).alpha = src.alpha + dst.alpha * (1 - src.alpha) := by
  by_cases h : src.alpha + dst.alpha * (1 - src.alpha) = 0
  · rw [blend_of_alpha_eq_zero h, h]
  · rw [blend_of_alpha_ne_zero h]

/-- What shines through a blend is what shines through both of its colors. -/
theorem one_sub_alpha_blend (dst src : Color ℚ) :
    1 - (dst.blend src).alpha = (1 - dst.alpha) * (1 - src.alpha) := by
  rw [alpha_blend]
  ring

theorem max_le_alpha_blend (hdst : dst.alpha ∈ Set.Icc 0 1) (hsrc : src.alpha ∈ Set.Icc 0 1) :
    max dst.alpha src.alpha ≤ (dst.blend src).alpha := by
  have hsplit := one_sub_alpha_blend dst src
  have hle : (1 - dst.alpha) * (1 - src.alpha) ≤ 1 - dst.alpha :=
    mul_le_of_le_one_right (sub_nonneg.mpr hdst.2) (sub_le_self 1 hsrc.1)
  have hle' : (1 - dst.alpha) * (1 - src.alpha) ≤ 1 - src.alpha :=
    mul_le_of_le_one_left (sub_nonneg.mpr hsrc.2) (sub_le_self 1 hdst.1)
  exact max_le (by linarith) (by linarith)

theorem alpha_blend_le_one (hdst : dst.alpha ∈ Set.Icc 0 1) (hsrc : src.alpha ∈ Set.Icc 0 1) :
    (dst.blend src).alpha ≤ 1 := by
  have hthrough : 0 ≤ (1 - dst.alpha) * (1 - src.alpha) :=
    mul_nonneg (sub_nonneg.mpr hdst.2) (sub_nonneg.mpr hsrc.2)
  rw [← one_sub_alpha_blend] at hthrough
  exact sub_nonneg.mp hthrough

theorem alpha_blend_mem (hdst : dst.alpha ∈ Set.Icc 0 1) (hsrc : src.alpha ∈ Set.Icc 0 1) :
    (dst.blend src).alpha ∈ Set.Icc 0 1 :=
  ⟨hdst.1.trans ((le_max_left _ _).trans (max_le_alpha_blend hdst hsrc)),
    alpha_blend_le_one hdst hsrc⟩

/-- Only clear colors have a clear blend. -/
theorem alpha_eq_zero_of_blend (hdst : dst.alpha ∈ Set.Icc 0 1) (hsrc : src.alpha ∈ Set.Icc 0 1)
    (h : (dst.blend src).alpha = 0) : dst.alpha = 0 ∧ src.alpha = 0 := by
  obtain ⟨hdst', hsrc'⟩ := max_le_iff.mp (h ▸ max_le_alpha_blend hdst hsrc)
  exact ⟨le_antisymm hdst' hdst.1, le_antisymm hsrc' hsrc.1⟩

/-! ## Premultiplied colors -/

/-- The color with its channels multiplied by its alpha. -/
def premultiply (color : Color ℚ) : Color ℚ :=
  ⟨color.red * color.alpha, color.green * color.alpha, color.blue * color.alpha, color.alpha⟩

/-- Lays `src` over `dst` where both are premultiplied: the background counts as far as it shines
through. -/
def lay (dst src : Color ℚ) : Color ℚ :=
  let through := 1 - src.alpha
  ⟨src.red + dst.red * through, src.green + dst.green * through, src.blue + dst.blue * through,
    src.alpha + dst.alpha * through⟩

theorem lay_assoc (x y z : Color ℚ) : lay (lay x y) z = lay x (lay y z) := by
  simp only [lay, mk.injEq]
  refine ⟨?_, ?_, ?_, ?_⟩ <;> ring

theorem premultiply_of_alpha_eq_zero (h : color.alpha = 0) : premultiply color = ⟨0, 0, 0, 0⟩ := by
  simp only [premultiply, h, mul_zero]

theorem lay_zero (color : Color ℚ) : lay color ⟨0, 0, 0, 0⟩ = color := by
  simp only [lay, sub_zero, mul_one, zero_add]

theorem zero_lay (color : Color ℚ) : lay ⟨0, 0, 0, 0⟩ color = color := by
  simp only [lay, zero_mul, add_zero]

theorem lay_of_alpha_eq_one (dst : Color ℚ) (h : color.alpha = 1) : lay dst color = color := by
  simp only [lay, h, sub_self, mul_zero, add_zero]
  rw [← h]

theorem blendChannel_mul {alpha : ℚ} (h : alpha ≠ 0) (channel : Color ℚ → ℚ) :
    blendChannel dst src alpha channel * alpha =
      channel src * src.alpha + channel dst * dst.alpha * (1 - src.alpha) :=
  div_mul_cancel₀ _ h

/-- Laying colors over one another commutes with premultiplying them. -/
theorem premultiply_blend (hdst : dst.alpha ∈ Set.Icc 0 1) (hsrc : src.alpha ∈ Set.Icc 0 1) :
    premultiply (dst.blend src) = lay (premultiply dst) (premultiply src) := by
  by_cases h : src.alpha + dst.alpha * (1 - src.alpha) = 0
  · -- both colors are clear, so that nothing is left of them
    obtain ⟨hdst', hsrc'⟩ := alpha_eq_zero_of_blend hdst hsrc (by rw [alpha_blend, h])
    rw [premultiply_of_alpha_eq_zero hdst', premultiply_of_alpha_eq_zero hsrc', lay_zero,
      premultiply_of_alpha_eq_zero (by rw [alpha_blend, h])]
  · rw [blend_of_alpha_ne_zero h]
    simp only [premultiply, lay, blendChannel_mul h]

/-! ## Clear colors -/

/-- Where the color is clear its channels are zero. -/
def IsNormal (color : Color ℚ) : Prop := color.alpha = 0 → color = ⟨0, 0, 0, 0⟩

theorem isNormal_blend (dst src : Color ℚ) : (dst.blend src).IsNormal := by
  intro h
  rw [alpha_blend] at h
  exact blend_of_alpha_eq_zero h

/-- A color is known by what it is premultiplied, but for the channels of a clear one. -/
theorem IsNormal.eq_of_premultiply_eq (hx : x.IsNormal) (hy : y.IsNormal)
    (h : premultiply x = premultiply y) : x = y := by
  simp only [premultiply, mk.injEq] at h
  obtain ⟨hred, hgreen, hblue, halpha⟩ := h
  by_cases hzero : x.alpha = 0
  · rw [hx hzero, hy (halpha ▸ hzero)]
  · rw [← halpha] at hred hgreen hblue
    cases x
    cases y
    simp only [mk.injEq]
    exact ⟨mul_right_cancel₀ hzero hred, mul_right_cancel₀ hzero hgreen,
      mul_right_cancel₀ hzero hblue, halpha⟩

/-! ## The laws of a monoid -/

theorem blend_assoc (hx : x.alpha ∈ Set.Icc 0 1) (hy : y.alpha ∈ Set.Icc 0 1)
    (hz : z.alpha ∈ Set.Icc 0 1) : (x.blend y).blend z = x.blend (y.blend z) := by
  refine (isNormal_blend _ _).eq_of_premultiply_eq (isNormal_blend _ _) ?_
  rw [premultiply_blend (alpha_blend_mem hx hy) hz, premultiply_blend hx hy,
    premultiply_blend hx (alpha_blend_mem hy hz), premultiply_blend hy hz, lay_assoc]

/-- Sources that are laid one after another over a background can be laid over one another first. -/
theorem foldl_blend {background first : Color ℚ} {others : List (Color ℚ)}
    (hbackground : background.alpha ∈ Set.Icc 0 1) (hfirst : first.alpha ∈ Set.Icc 0 1)
    (hothers : ∀ src ∈ others, src.alpha ∈ Set.Icc (0 : ℚ) 1) :
    (first :: others).foldl blend background = background.blend (others.foldl blend first) := by
  induction others generalizing first with
  | nil => rfl
  | cons second others ih =>
    -- the first two sources are laid over one another and take the place of the first one
    obtain ⟨hsecond, hothers⟩ := List.forall_mem_cons.mp hothers
    rw [List.foldl_cons, List.foldl_cons, blend_assoc hbackground hfirst hsecond]
    exact ih (alpha_blend_mem hfirst hsecond) hothers

theorem blend_clear (hcolor : color.alpha ∈ Set.Icc 0 1) (hnormal : color.IsNormal)
    (hclear : clear.alpha = 0) : color.blend clear = color := by
  refine (isNormal_blend _ _).eq_of_premultiply_eq hnormal ?_
  rw [premultiply_blend hcolor (by simp [hclear]), premultiply_of_alpha_eq_zero hclear, lay_zero]

theorem clear_blend (hcolor : color.alpha ∈ Set.Icc 0 1) (hnormal : color.IsNormal)
    (hclear : clear.alpha = 0) : clear.blend color = color := by
  refine (isNormal_blend _ _).eq_of_premultiply_eq hnormal ?_
  rw [premultiply_blend (by simp [hclear]) hcolor, premultiply_of_alpha_eq_zero hclear, zero_lay]

/-- Nothing shines through an opaque color. -/
theorem blend_of_alpha_eq_one (hdst : dst.alpha ∈ Set.Icc 0 1) (hone : color.alpha = 1) :
    dst.blend color = color := by
  have hnormal : color.IsNormal := fun h => absurd (hone.symm.trans h) one_ne_zero
  refine (isNormal_blend _ _).eq_of_premultiply_eq hnormal ?_
  rw [premultiply_blend hdst (by simp [hone])]
  exact lay_of_alpha_eq_one _ hone

/-- **Compositing is a monoid**: in exact arithmetic and for alphas between zero and one it does not
matter how a row of colors is grouped when they are laid over one another, so that a list of sources
over a background gives what their composite over it gives.  A color that is not clear, or clear
with all channels zero, is left alone by every clear color over it or below it, and an opaque one by
everything below it. -/
theorem blend_monoid :
    (∀ x y z : Color ℚ, x.alpha ∈ Set.Icc 0 1 → y.alpha ∈ Set.Icc 0 1 → z.alpha ∈ Set.Icc 0 1 →
      (x.blend y).blend z = x.blend (y.blend z)) ∧
    (∀ (background first : Color ℚ) (others : List (Color ℚ)), background.alpha ∈ Set.Icc 0 1 →
      first.alpha ∈ Set.Icc 0 1 → (∀ src ∈ others, src.alpha ∈ Set.Icc (0 : ℚ) 1) →
      (first :: others).foldl blend background = background.blend (others.foldl blend first)) ∧
    (∀ color clear : Color ℚ, color.alpha ∈ Set.Ioc 0 1 ∨ color = ⟨0, 0, 0, 0⟩ → clear.alpha = 0 →
      color.blend clear = color ∧ clear.blend color = color) ∧
    (∀ color dst : Color ℚ, color.alpha = 1 → dst.alpha ∈ Set.Icc 0 1 →
      dst.blend color = color) := by
  refine ⟨fun x y z => blend_assoc, fun background first others => foldl_blend,
    fun color clear hcolor hclear => ?_, fun color dst hone hdst => blend_of_alpha_eq_one hdst hone⟩
  have hmem : color.alpha ∈ Set.Icc 0 1 := by
    rcases hcolor with hcolor | rfl
    · exact Set.Ioc_subset_Icc_self hcolor
    · exact Set.left_mem_Icc.mpr zero_le_one
  have hnormal : color.IsNormal := by
    rcases hcolor with hcolor | rfl
    · exact fun hzero => absurd hzero (ne_of_gt hcolor.1)
    · exact fun _ => rfl
  exact ⟨blend_clear hmem hnormal hclear, clear_blend hmem hnormal hclear⟩

/-- The channels of a clear color do not come back where two clear colors are passed through. -/
theorem blend_monoid_of_clear :
    ((⟨255, 255, 255, 0⟩ : Color ℚ).blend ⟨10, 20, 30, 0⟩).blend ⟨100, 0, 50, 1 / 2⟩ =
      blend ⟨255, 255, 255, 0⟩ (blend ⟨10, 20, 30, 0⟩ ⟨100, 0, 50, 1 / 2⟩) :=
  blend_monoid.1 _ _ _ (by norm_num) (by norm_num) (by norm_num)

end CodeHighlight.Color
