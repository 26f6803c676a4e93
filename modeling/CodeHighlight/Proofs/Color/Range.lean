import CodeHighlight.Proofs.Color.Compositing
import CodeHighlight.Style.Palette
import Mathlib

/-!
# Proofs.Color.Range — blends stay between their colors

In exact rational arithmetic a blend is a mean of its two colors, weighted by what each contributes
to the alpha, so it lies between them (`channel_blend_mem`) and leaves no range that both of them
keep to (`InRange.blend`).  This holds of the colors of all styles as well, because their opacities
lie between zero and one (`InRange.of_mem_shades`).  `Guarded` is arithmetic in which a quotient by
zero has no value; a blend has the same value in it, so it never divides by zero
(`blend_map_value`).
-/

namespace CodeHighlight

/-! ## Division -/

/-- A rational number, or nothing where a number has been divided by zero. -/
inductive Guarded where
  | value (q : ℚ)
  | undefined
  deriving DecidableEq

namespace Guarded

/-- What is calculated from something undefined is undefined. -/
def calculate (f : ℚ → ℚ → Guarded) : Guarded → Guarded → Guarded
  | value p, value q => f p q
  | _, _ => undefined

instance : Add Guarded := ⟨calculate fun p q => value (p + q)⟩

instance : Sub Guarded := ⟨calculate fun p q => value (p - q)⟩

instance : Mul Guarded := ⟨calculate fun p q => value (p * q)⟩

instance : Div Guarded := ⟨calculate fun p q => if q = 0 then undefined else value (p / q)⟩

instance : OfNat Guarded 0 := ⟨value 0⟩

instance : OfNat Guarded 1 := ⟨value 1⟩

theorem value_div (p : ℚ) {q : ℚ} (h : q ≠ 0) : value p / value q = value (p / q) := if_neg h

theorem value_beq (p q : ℚ) : (value p == value q) = (p == q) := by
  rw [Bool.eq_iff_iff, beq_iff_eq, beq_iff_eq, value.injEq]

end Guarded

namespace Color

open Guarded (value)

/-- The color with another number for each of its numbers. -/
def map {α β : Type} (f : α → β) (color : Color α) : Color β :=
  ⟨f color.red, f color.green, f color.blue, f color.alpha⟩

theorem blendAlpha_map_value (dst src : Color ℚ) :
    blendAlpha (dst.map value) (src.map value) = value (blendAlpha dst src) := by
  have hbeq : ((dst.map value).alpha == 1) = (dst.alpha == 1) := Guarded.value_beq _ _
  unfold blendAlpha
  rw [hbeq]
  cases dst.alpha == 1 <;> rfl

theorem blendChannel_map_value (dst src : Color ℚ) {alpha : ℚ} (h : alpha ≠ 0)
    (channel : Color ℚ → ℚ) {channel' : Color Guarded → Guarded}
    (hchannel : ∀ color, channel' (color.map value) = value (channel color)) :
    blendChannel (dst.map value) (src.map value) (value alpha) channel' =
      value (blendChannel dst src alpha channel) := by
  unfold blendChannel
  rw [hchannel, hchannel]
  exact Guarded.value_div _ h

/-- A blend has the same value where quotients by zero have none. -/
theorem blend_map_value (dst src : Color ℚ) :
    (dst.map value).blend (src.map value) = (dst.blend src).map value := by
  have hbeq : (value (blendAlpha dst src) == 0) = (blendAlpha dst src == 0) :=
    Guarded.value_beq _ _
  unfold blend
  dsimp only
  rw [blendAlpha_map_value, hbeq]
  cases hzero : blendAlpha dst src == 0 with
  | true => rfl
  | false =>
    have hne := ne_of_beq_false hzero
    rw [blendChannel_map_value dst src hne red fun _ => rfl,
      blendChannel_map_value dst src hne green fun _ => rfl,
      blendChannel_map_value dst src hne blue fun _ => rfl]
    rfl

/-! ## Means -/

variable {dst src color : Color ℚ}

theorem mean_mem_uIcc {p q : ℚ} (hp : 0 ≤ p) (hq : 0 ≤ q) (h : p + q ≠ 0) (x y : ℚ) :
    (x * p + y * q) / (p + q) ∈ Set.uIcc y x := by
  have hpos : 0 < p + q := lt_of_le_of_ne (add_nonneg hp hq) h.symm
  constructor
  · rw [le_div_iff₀ hpos, mul_add]
    exact add_le_add (mul_le_mul_of_nonneg_right inf_le_right hp)
      (mul_le_mul_of_nonneg_right inf_le_left hq)
  · rw [div_le_iff₀ hpos, mul_add]
    exact add_le_add (mul_le_mul_of_nonneg_right le_sup_right hp)
      (mul_le_mul_of_nonneg_right le_sup_left hq)

/-- The three channels of a color. -/
def channels : List (Color ℚ → ℚ) := [red, green, blue]

theorem forall_mem_channels {p : (Color ℚ → ℚ) → Prop} :
    (∀ channel ∈ channels, p channel) ↔ p red ∧ p green ∧ p blue := by
  simp only [channels, List.forall_mem_cons, List.not_mem_nil, false_implies, implies_true,
    and_true]

theorem channel_blend (h : (dst.blend src).alpha ≠ 0) : ∀ channel ∈ channels,
    channel (dst.blend src) =
      blendChannel dst src (src.alpha + dst.alpha * (1 - src.alpha)) channel := by
  rw [alpha_blend] at h
  rw [blend_of_alpha_ne_zero h, forall_mem_channels]
  exact ⟨rfl, rfl, rfl⟩

/-- A blend that is not clear lies between its colors. -/
theorem channel_blend_mem (hdst : dst.alpha ∈ Set.Icc 0 1) (hsrc : src.alpha ∈ Set.Icc 0 1)
    (h : (dst.blend src).alpha ≠ 0) {channel : Color ℚ → ℚ} (hchannel : channel ∈ channels) :
    channel (dst.blend src) ∈ Set.uIcc (channel dst) (channel src) := by
  have hweight : 0 ≤ dst.alpha * (1 - src.alpha) :=
    mul_nonneg hdst.1 (sub_nonneg.mpr hsrc.2)
  rw [channel_blend h channel hchannel, blendChannel, mul_assoc]
  exact mean_mem_uIcc hsrc.1 hweight (by rwa [alpha_blend] at h) _ _

/-- A blend is opaque exactly if one of its colors is. -/
theorem alpha_blend_eq_one_iff (dst src : Color ℚ) :
    (dst.blend src).alpha = 1 ↔ dst.alpha = 1 ∨ src.alpha = 1 := by
  have hone (a : ℚ) : a = 1 ↔ 1 - a = 0 := by rw [sub_eq_zero, eq_comm]
  rw [hone, hone dst.alpha, hone src.alpha, one_sub_alpha_blend, mul_eq_zero]

/-! ## Ranges -/

/-- The channels and the alpha are where those of a color should be. -/
structure InRange (color : Color ℚ) : Prop where
  channel : ∀ channel ∈ channels, channel color ∈ Set.Icc 0 255
  alpha : color.alpha ∈ Set.Icc 0 1

theorem InRange.blend (hdst : dst.InRange) (hsrc : src.InRange) : (dst.blend src).InRange := by
  refine ⟨fun channel hchannel => ?_, alpha_blend_mem hdst.alpha hsrc.alpha⟩
  by_cases h : (dst.blend src).alpha = 0
  · have hzero : ∀ channel ∈ channels, channel ⟨0, 0, 0, 0⟩ ∈ Set.Icc (0 : ℚ) 255 :=
      forall_mem_channels.mpr (by norm_num)
    rw [isNormal_blend dst src h]
    exact hzero channel hchannel
  · exact Set.uIcc_subset_Icc (hdst.channel channel hchannel) (hsrc.channel channel hchannel)
      (channel_blend_mem hdst.alpha hsrc.alpha h hchannel)

theorem InRange.withAlpha (h : color.InRange) {opacity : ℚ} (hopacity : opacity ∈ Set.Icc 0 1) :
    (color.withAlpha (color.alpha * opacity)).InRange where
  channel := forall_mem_channels.mpr (forall_mem_channels.mp h.channel)
  alpha := ⟨mul_nonneg h.alpha.1 hopacity.1, mul_le_one₀ h.alpha.2 hopacity.1 hopacity.2⟩

/-- Every recipe takes a part of the foreground, never more than all of it. -/
theorem recipe_mem (group : StyleGroup) :
    let recipe : Recipe ℚ := group.recipe
    recipe.opacity ∈ Set.Icc 0 1 ∧ recipe.first.alpha ∈ Set.Icc 0 1 ∧
      recipe.second.alpha ∈ Set.Icc 0 1 := by
  cases group <;> norm_num [StyleGroup.recipe]

theorem InRange.of_mem_shades {foreground background : Color ℚ} (hforeground : foreground.InRange)
    (hbackground : background.InRange) (group : StyleGroup) :
    ∀ color ∈ (group.shades foreground background).colors, color.InRange := by
  obtain ⟨hopacity, hfirst, hsecond⟩ := recipe_mem group
  have hshadow {shadow : Shadow ℚ} (h : shadow.alpha ∈ Set.Icc 0 1) :
      (group.shadowColor shadow foreground background).InRange := by
    refine hbackground.blend ?_
    rw [mul_assoc]
    exact hforeground.withAlpha ⟨mul_nonneg h.1 hopacity.1, mul_le_one₀ h.2 hopacity.1 hopacity.2⟩
  simp only [Shades.colors, List.forall_mem_cons]
  exact ⟨hbackground.blend (hforeground.withAlpha hopacity), hshadow hfirst, hshadow hsecond,
    List.forall_mem_nil _⟩

/-- **Blends stay in range**: in exact arithmetic and for alphas between zero and one a blend never
divides by zero.  Its alpha is at least as large as both of the alphas and at most one; it is zero
only if both are, and one exactly if one of them is.  A blend that is not clear lies between its
colors in every channel.  So nothing that comes out of sources laid over a background one after
another leaves the ranges of channels and alphas, and no color of a style does. -/
theorem blend_between :
    (∀ dst src : Color ℚ, dst.alpha ∈ Set.Icc 0 1 → src.alpha ∈ Set.Icc 0 1 →
      (dst.map value).blend (src.map value) = (dst.blend src).map value ∧
      max dst.alpha src.alpha ≤ (dst.blend src).alpha ∧ (dst.blend src).alpha ≤ 1 ∧
      ((dst.blend src).alpha = 0 → dst.alpha = 0 ∧ src.alpha = 0) ∧
      ((dst.blend src).alpha = 1 ↔ dst.alpha = 1 ∨ src.alpha = 1) ∧
      ((dst.blend src).alpha ≠ 0 → ∀ channel ∈ channels,
        channel (dst.blend src) ∈ Set.uIcc (channel dst) (channel src))) ∧
    (∀ (dst : Color ℚ) (sources : List (Color ℚ)), dst.InRange → (∀ src ∈ sources, src.InRange) →
      ∀ color ∈ sources.scanl blend dst, color.InRange) ∧
    (∀ foreground background : Color ℚ, foreground.InRange → background.InRange →
      ∀ group : StyleGroup, ∀ color ∈ (group.shades foreground background).colors,
        color.InRange) := by
  refine ⟨fun dst src hdst hsrc => ?_, fun dst sources hdst hsources => ?_,
    fun foreground background hforeground hbackground =>
      hforeground.of_mem_shades hbackground⟩
  · exact ⟨blend_map_value dst src, max_le_alpha_blend hdst hsrc, alpha_blend_le_one hdst hsrc,
      alpha_eq_zero_of_blend hdst hsrc, alpha_blend_eq_one_iff dst src,
      fun h _ hchannel => channel_blend_mem hdst hsrc h hchannel⟩
  · exact forall_mem_scanl_blend InRange.blend hdst hsources

/-- Half a red over a quarter of blue is neither redder nor bluer than they are. -/
theorem blend_between_red_and_blue :
    max (1 / 4) (1 / 2) ≤ (blend ⟨0, 0, 255, 1 / 4⟩ ⟨255, 0, 0, 1 / 2⟩ : Color ℚ).alpha ∧
      ∀ channel ∈ channels, channel (blend ⟨0, 0, 255, 1 / 4⟩ ⟨255, 0, 0, 1 / 2⟩) ∈
        Set.uIcc (channel ⟨0, 0, 255, 1 / 4⟩) (channel ⟨255, 0, 0, 1 / 2⟩) := by
  obtain ⟨-, hmax, -, -, -, hchannels⟩ :=
    blend_between.1 ⟨0, 0, 255, 1 / 4⟩ ⟨255, 0, 0, 1 / 2⟩ (by norm_num) (by norm_num)
  exact ⟨hmax, hchannels (by norm_num)⟩

end Color

end CodeHighlight
