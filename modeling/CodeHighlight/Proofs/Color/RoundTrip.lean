import CodeHighlight.Color.Css
import CodeHighlight.Proofs.Color.Grammar
import CodeHighlight.Proofs.Decimal.Double
import CodeHighlight.Proofs.Decimal.Written
import CodeHighlight.Proofs.Style.Form
import Mathlib

/-!
# Proofs.Color.RoundTrip — colors that have been written are read back

Whatever its channels and its alpha are, a color is written as a text that is read as a color
(`parse_css`).  The channels are read as the whole numbers that stand for them, and the alpha as the
number that is written.  Writing what has been read gives the same text, unless the alpha is written
as a number that is no alpha.
-/

namespace CodeHighlight.Color

open Decimal (Written hundredthsText nearestByte nearestInteger roundDiv roundScaled signed signText
  twoPlaces)
open Float.Model (UnpackedFloat)
open Float.Model.UnpackedFloat (Sign)

/-! ## Channels -/

/-- The number is what a channel is written as: its value, clamped to `0, …, 255` and rounded to a
whole number, a half upwards.  What is not a number counts as zero. -/
def IsChannelValue (channel : Float) (n : Nat) : Prop :=
  match channel.toModel.unpack with
  | .notANumber => n = 0
  | .infinity .negative => n = 0
  | .infinity .positive => n = 255
  | .zero _ => n = 0
  | .finite sign m e _ => n = ⌊max 0 (min 255 ((sign.apply m : ℚ) * 2 ^ e)) + 1 / 2⌋₊

theorem roundDiv_away (num : Nat) {den : Nat} (hden : 0 < den) :
    roundDiv .away num den = (2 * num + den) / (2 * den) := by
  have hsplit := Nat.div_add_mod' num den
  have hmod := Nat.mod_lt num hden
  have hquot {q : Nat} (hlow : 2 * den * q ≤ 2 * num + den)
      (hhigh : 2 * num + den < 2 * den * (q + 1)) : (2 * num + den) / (2 * den) = q :=
    Nat.div_eq_of_lt_le (by rwa [Nat.mul_comm q]) (by rwa [Nat.mul_comm (q + 1)])
  have hprod : 2 * den * (num / den) = 2 * (num / den * den) := by ring
  unfold roundDiv
  dsimp only
  split
  all_goals
    rename_i hcmp htie
    simp only [Nat.compare_eq_lt, Nat.compare_eq_gt, Nat.compare_eq_eq, reduceCtorEq] at hcmp htie
  · exact (hquot (by omega) (by rw [Nat.mul_add]; omega)).symm
  · exact (hquot (by rw [Nat.mul_add]; omega) (by rw [Nat.mul_add, Nat.mul_add]; omega)).symm
  · exact (hquot (by rw [Nat.mul_add]; omega) (by rw [Nat.mul_add, Nat.mul_add]; omega)).symm

/-- The integer nearest to a value, a half being rounded up. -/
theorem roundScaled_away (m : Nat) (e : Int) :
    roundScaled .away 1 m e = ⌊(m : ℚ) * 2 ^ e + 1 / 2⌋₊ := by
  have hpos : 0 < 1 <<< (-e).toNat := by
    rw [Nat.shiftLeft_eq, Nat.one_mul]
    exact Nat.two_pow_pos _
  have hvalue : (m : ℚ) * (2 : ℚ) ^ e + (1 / 2 : ℚ) =
      ((2 * (1 * (m <<< e.toNat)) + 1 <<< (-e).toNat : Nat) : ℚ) /
        ((2 * (1 <<< (-e).toNat) : Nat) : ℚ) := by
    have hden : (2 : ℚ) ^ (-e).toNat ≠ 0 := by positivity
    simp only [Nat.shiftLeft_eq, one_mul]
    push_cast
    rw [← Decimal.two_zpow_mul_two_pow]
    field_simp
  rw [roundScaled, roundDiv_away _ hpos, hvalue, Nat.floor_div_eq_div]

theorem isChannelValue_nearestByte (channel : Float) :
    IsChannelValue channel (nearestByte channel).toNat := by
  unfold IsChannelValue nearestByte
  cases channel.toModel.unpack with
  | notANumber => rfl
  | infinity sign => cases sign <;> rfl
  | zero sign => cases sign <;> rfl
  | finite sign m e hpos =>
    have hvalue : (0 : ℚ) ≤ (m : ℚ) * 2 ^ e := by positivity
    cases sign with
    | negative =>
      have hclamped : max 0 (min 255 ((Sign.negative.apply m : ℚ) * 2 ^ e)) = 0 := by
        refine max_eq_left (min_le_of_right_le ?_)
        simp only [Sign.apply, Int.cast_neg, Int.cast_natCast, neg_mul]
        linarith
      have hhalf : ⌊(0 : ℚ) + 1 / 2⌋₊ = 0 := by norm_num
      dsimp only
      rw [hclamped, hhalf]
      rfl
    | positive =>
      have hmono : Monotone fun x : ℚ => ⌊x + 1 / 2⌋₊ := fun x y hxy =>
        Nat.floor_mono (by linarith)
      have hclamped : max 0 (min 255 ((Sign.positive.apply m : ℚ) * 2 ^ e)) =
          min 255 ((m : ℚ) * 2 ^ e) := max_eq_right (le_min (by norm_num) hvalue)
      have hmin : ⌊min 255 ((m : ℚ) * 2 ^ e) + 1 / 2⌋₊ =
          min ⌊(255 : ℚ) + 1 / 2⌋₊ ⌊(m : ℚ) * 2 ^ e + 1 / 2⌋₊ := hmono.map_min
      have hbound : ⌊(255 : ℚ) + 1 / 2⌋₊ = 255 := by norm_num
      dsimp only
      rw [hclamped, hmin, hbound, ← roundScaled_away]
      exact Nat.mod_eq_of_lt (by omega)

/-! ## Alphas -/

theorem hundredthsText_hundred : hundredthsText 100 = ['1', '.', '0', '0'] := by decide

/-- What equals one is written as one. -/
theorem twoPlaces_of_beq_one {x : Float} (h : (x == 1) = true) :
    twoPlaces x = hundredthsText 100 := by
  have hone : x = 1 := by
    rcases (Float.beq_iff_ne_nan_and_eq.mp h).2.2 with hone | ⟨-, hzero⟩ | ⟨-, hzero⟩
    · exact hone
    all_goals exact absurd hzero (by decide +kernel)
  rw [hone]
  decide +kernel

/-- A whole number of hundredths that is written as one is one. -/
theorem div_hundred_beq_one {sign : Sign} {n : Nat}
    (h : twoPlaces (signed sign (Float.ofNat n) / 100) = hundredthsText 100) :
    (signed sign (Float.ofNat n) / 100 == 1) = true := by
  rcases Nat.eq_zero_or_pos n with rfl | hpos
  · cases sign <;> exact absurd h (by decide +kernel)
  rcases Decimal.twoPlaces_signed_div_hundred sign hpos with hinf | ⟨r, hr, hdigits⟩
  · rw [hundredthsText_hundred, hinf] at h
    cases sign <;> simp [signText] at h
  rw [hdigits] at h
  cases sign with
  | negative =>
    rw [hundredthsText_hundred] at h
    simp [signText] at h
  | positive =>
    obtain rfl : r = 100 := Decimal.hundredthsText_inj h
    obtain ⟨hlow, hhigh⟩ := abs_le.mp hr
    have hgt : (99 : ℚ) < n := by push_cast at hhigh; linarith
    have hlt : (n : ℚ) < 101 := by push_cast at hlow; linarith
    obtain rfl : n = 100 := by
      have hgt : 99 < n := by exact_mod_cast hgt
      have hlt : n < 101 := by exact_mod_cast hlt
      omega
    decide +kernel

/-- An alpha that is written as one has been rounded to one. -/
theorem roundedAlpha_beq_one {alpha : Float}
    (h : twoPlaces (roundedAlpha alpha) = hundredthsText 100) :
    (roundedAlpha alpha == 1) = true := by
  rw [roundedAlpha] at h ⊢
  generalize alpha * 100 = x at h ⊢
  have hdiv (x : Float) : (x / 100).toModel.unpack = (Float.Model.pack (.div .binary64
    x.toModel.unpack (100 : Float).toModel.unpack)).unpack := rfl
  cases hx : x.toModel.unpack with
  | finite sign m e hpos =>
    have hround : nearestInteger x = signed sign (Float.ofNat (roundScaled .away 1 m e)) := by
      rw [nearestInteger, hx]
    rw [hround] at h ⊢
    exact div_hundred_beq_one h
  -- what is not finite, or zero, is left as it is and not written as one
  | notANumber =>
    have hround : nearestInteger x = x := by rw [nearestInteger, hx]
    rw [hround, twoPlaces, hdiv, hx] at h
    exact absurd h (by decide +kernel)
  | infinity sign =>
    have hround : nearestInteger x = x := by rw [nearestInteger, hx]
    rw [hround, twoPlaces, hdiv, hx] at h
    cases sign <;> exact absurd h (by decide +kernel)
  | zero sign =>
    have hround : nearestInteger x = x := by rw [nearestInteger, hx]
    rw [hround, twoPlaces, hdiv, hx] at h
    cases sign <;> exact absurd h (by decide +kernel)

/-- A proportion that has been written is rounded to what is written the same way. -/
theorem roundedAlpha_value {alpha : Float} {text : Written}
    (hne : (roundedAlpha alpha == 1) = false)
    (htext : twoPlaces (roundedAlpha alpha) = text.chars) (hprop : text.IsProportion) :
    (roundedAlpha text.value == 1) = false ∧ twoPlaces (roundedAlpha text.value) = text.chars := by
  have hbeq {n : Nat} (hn : n ≠ 100) {x : Float} (hx : twoPlaces x = hundredthsText n) :
      (x == 1) = false := by
    rw [Bool.eq_false_iff]
    intro hone
    exact hn (Decimal.hundredthsText_inj (hx.symm.trans (twoPlaces_of_beq_one hone)))
  cases text with
  | hundredths sign n =>
    obtain ⟨hlow, hhigh⟩ := hprop
    cases sign with
    | negative =>
      obtain rfl : n = 0 := by simp only [Sign.apply] at hlow; omega
      decide +kernel
    | positive =>
      have hle : n ≤ 100 := by simp only [Sign.apply] at hhigh; omega
      have hlt : n < 100 := by
        refine Nat.lt_of_le_of_ne hle fun hn => ?_
        rw [hn] at htext
        rw [roundedAlpha_beq_one htext] at hne
        cases hne
      have hrounded : roundedAlpha (Float.ofScientific n true 2) = Float.ofNat n / 100 := by
        rw [roundedAlpha, Decimal.nearestInteger_mul_hundred (by omega)]
      have hsame : twoPlaces (roundedAlpha (Float.ofScientific n true 2)) = hundredthsText n := by
        rw [hrounded, Decimal.twoPlaces_div_hundred (by omega)]
      exact ⟨hbeq (Nat.ne_of_lt hlt) hsame, hsame⟩
  | infinity sign => exact hprop.elim
  | notANumber => exact hprop.elim

/-! ## Colors -/

theorem isHexDigit_hexDigit {n : Nat} (h : n < 16) : IsHexDigit (Text.hexDigit n) n :=
  hexValue?_eq_some_iff.mp (Text.hexValue?_hexDigit h)

/-- The color that is read where this one has been written with this alpha. -/
def readBack (color : Color Float) (alpha : Float) : Color Float :=
  let whole (channel : Float) := Float.ofNat (nearestByte channel).toNat
  ⟨whole color.red, whole color.green, whole color.blue, alpha⟩

theorem spells_hexText (color : Color Float) : Spells color.hexText (color.readBack 1) := by
  have hhigh (byte : UInt8) := isHexDigit_hexDigit (n := byte.toNat / 16)
    (by have := byte.toNat_lt; omega)
  have hlow (byte : UInt8) := isHexDigit_hexDigit (n := byte.toNat % 16) (by omega)
  have hspells := Spells.pairs (hhigh (nearestByte color.red)) (hlow (nearestByte color.red))
    (hhigh (nearestByte color.green)) (hlow (nearestByte color.green))
    (hhigh (nearestByte color.blue)) (hlow (nearestByte color.blue))
  simp only [Nat.div_add_mod] at hspells
  exact hspells

theorem IsField.of_number? {cs : List Char} {x : Float} (h : Decimal.number? cs = some x) :
    IsField cs x := by
  have hblank {c : Char} (hc : c ∈ cs) : Text.isBlank c = false :=
    (Decimal.isNumeralChar_of_number? h c hc).isBlank
  have htrim : Text.trim cs = cs :=
    Text.trim_eq_self (fun c hc => hblank (List.mem_of_head? hc))
      (fun c hc => hblank (List.mem_of_getLast? hc))
  exact argument?_eq_some_iff.mp (by rw [argument?, htrim, h])

theorem spells_functionalText (color : Color Float) {alpha : Float} {text : Written}
    (h : twoPlaces alpha = text.chars) :
    Spells (color.functionalText alpha) (color.readBack text.value) := by
  have hchannel (channel : Float) := IsField.of_number?
    (Decimal.number?_toDigits (nearestByte channel).toNat)
  have hspells := Spells.callAlpha (.inr rfl) (hchannel color.red) (hchannel color.green)
    (hchannel color.blue) (IsField.of_number? (Decimal.number?_written text))
  simpa [functionalText, readBack, h] using hspells

theorem trim_hexText (color : Color Float) : Text.trim color.hexText = color.hexText := by
  refine Text.trim_eq_self (fun c hc => ?_) (fun c hc => ?_)
  · obtain rfl : '#' = c := Option.some.inj hc
    decide
  · have hdigit : ∀ n < 16, Text.isBlank (Text.hexDigit n) = false := by decide
    obtain rfl : Text.hexDigit ((nearestByte color.blue).toNat % 16) = c := Option.some.inj hc
    exact hdigit _ (by omega)

theorem trim_functionalText (color : Color Float) (alpha : Float) :
    Text.trim (color.functionalText alpha) = color.functionalText alpha := by
  refine Text.trim_eq_self (fun c hc => ?_) (fun c hc => ?_)
  · obtain rfl : 'r' = c := Option.some.inj hc
    decide
  · rw [functionalText, List.getLast?_concat] at hc
    obtain rfl : ')' = c := Option.some.inj hc
    decide

/-- Writing a color that has been read back gives the same digits. -/
theorem hexText_readBack (color : Color Float) (alpha : Float) :
    (color.readBack alpha).hexText = color.hexText := by
  simp only [hexText, readBack, Decimal.nearestByte_ofNat]

theorem functionalText_readBack (color : Color Float) (alpha : Float) {x y : Float}
    (h : twoPlaces x = twoPlaces y) :
    (color.readBack alpha).functionalText x = color.functionalText y := by
  simp only [functionalText, readBack, Decimal.nearestByte_ofNat, h]

/-- **Colors are read back**: whatever its channels and its alpha are, a color is written as a text
that is read as a color with the channels it is written with.  In digits it is read as opaque and
written the same way again.  Otherwise its alpha is read as the number that is written, and the
color is written the same way again if this number lies between zero and one. -/
theorem parse_css (color : Color Float) :
    ∃ r g b : Nat,
      IsChannelValue color.red r ∧ IsChannelValue color.green g ∧ IsChannelValue color.blue b ∧
      ((IsHexText color.css ∧ parse color.css = .ok ⟨.ofNat r, .ofNat g, .ofNat b, 1⟩ ∧
          css ⟨.ofNat r, .ofNat g, .ofNat b, 1⟩ = color.css) ∨
        ∃ alpha : Written,
          color.css = "rgba(" ++ r.repr ++ "," ++ g.repr ++ "," ++ b.repr ++ "," ++
            String.ofList alpha.chars ++ ")" ∧
          parse color.css = .ok ⟨.ofNat r, .ofNat g, .ofNat b, alpha.value⟩ ∧
          (alpha.IsProportion → css ⟨.ofNat r, .ofNat g, .ofNat b, alpha.value⟩ = color.css)) := by
  refine ⟨_, _, _, isChannelValue_nearestByte color.red, isChannelValue_nearestByte color.green,
    isChannelValue_nearestByte color.blue, ?_⟩
  cases hopaque : roundedAlpha color.alpha == 1 with
  | true =>
    have hcss : color.css = String.ofList color.hexText := by rw [css, hopaque]; rfl
    refine .inl ⟨hcss ▸ isHexText_hexText color, parse_eq_ok_iff.mpr ?_, ?_⟩
    · rw [hcss, String.toList_ofList, trim_hexText]
      exact spells_hexText color
    · have hone : (roundedAlpha 1 == 1) = true := by decide +kernel
      change css (color.readBack 1) = color.css
      rw [hcss, css, readBack, hone, ← hexText_readBack color 1]
      rfl
  | false =>
    obtain ⟨alpha, halpha⟩ := Decimal.exists_twoPlaces_eq (roundedAlpha color.alpha)
    have hcss : color.css = String.ofList (color.functionalText (roundedAlpha color.alpha)) := by
      rw [css, hopaque]
      rfl
    refine .inr ⟨alpha, ?_, parse_eq_ok_iff.mpr ?_, fun hprop => ?_⟩
    · rw [hcss, ← String.toList_inj]
      simp [functionalText, Nat.toList_repr, halpha]
    · rw [hcss, String.toList_ofList, trim_functionalText]
      exact spells_functionalText color halpha
    · obtain ⟨hne, hsame⟩ := roundedAlpha_value hopaque halpha hprop
      change css (color.readBack alpha.value) = color.css
      rw [hcss, css, readBack, hne, ← functionalText_readBack color alpha.value
        (hsame.trans halpha.symm)]
      rfl

end CodeHighlight.Color
