import CodeHighlight.Decimal.Places
import Mathlib

/-!
# Proofs.Decimal.Double — how far a double is off

Hundredths are no doubles, so what is calculated with is a number nearby.  `IsNear q a sign` holds
of the doubles that are `q` with this sign, but for a relative error of `a` units in the last place.
Each operation that alphas and channels go through is followed with it: rounding, storing, whole
numbers, and products and quotients with a hundred.  Whole numbers of hundredths below `2 ^ 47` come
out unharmed (`twoPlaces_div_hundred`, `nearestInteger_mul_hundred`).
-/

namespace CodeHighlight.Decimal

open Float.Model (UnpackedFloat Format totalExponent)
open Float.Model.UnpackedFloat

/-- The double is finite, has its leading bit where normal doubles have it, and is `q` with this
sign but for a relative error of `a` units in the last place; or it is infinite, and `q` is very
large. -/
inductive IsNear (q : ℚ) (a : ℕ) (sign : Sign) : UnpackedFloat → Prop
  | infinity : 2 ^ 200 ≤ 2 ^ a * q → IsNear q a sign (.infinity sign)
  | finite {m : Nat} {e : Int} (hpos : 0 < m) :
      m.log2 = 52 → |(m : ℚ) * 2 ^ e - q| ≤ a * q / 2 ^ 52 → IsNear q a sign (.finite sign m e hpos)

variable {q : ℚ} {a : ℕ} {sign : Sign} {m : Nat} {e : Int}

theorem IsNear.mono {b : ℕ} {x : UnpackedFloat} (h : IsNear q a sign x) (hq : 0 < q) (hab : a ≤ b) :
    IsNear q b sign x := by
  cases h with
  | infinity hinf =>
    refine .infinity (hinf.trans ?_)
    have : (2 : ℚ) ^ a ≤ 2 ^ b := pow_le_pow_right₀ (by norm_num) hab
    exact mul_le_mul_of_nonneg_right this hq.le
  | finite hpos hm hnear =>
    have : (a : ℚ) ≤ b := by exact_mod_cast hab
    exact .finite hpos hm (hnear.trans (by gcongr))

/-! ### Rounding -/

theorem mantissa_shiftRight (em : ExtendedMantissa) (n : Nat) :
    (em >>> n).mantissa = em.mantissa / 2 ^ n := by
  induction n with
  | zero => exact (Nat.div_one _).symm
  | succ n ih =>
    change (em >>> n).mantissa / 2 = _
    rw [ih, Nat.div_div_eq_div_mul, Nat.pow_succ]

theorem roundedMantissa_eq (em : ExtendedMantissa) :
    em.roundedMantissa = em.mantissa ∨ em.roundedMantissa = em.mantissa + 1 := by
  obtain ⟨m, _ | _, _ | _⟩ := em
  · exact .inl rfl
  · exact .inl rfl
  · rcases Nat.mod_two_eq_zero_or_one m with h | h
    · exact .inl (by simp [ExtendedMantissa.roundedMantissa, ExtendedMantissa.accuracy,
        Accuracy.roundToNearestEven, h])
    · exact .inr (by simp [ExtendedMantissa.roundedMantissa, ExtendedMantissa.accuracy,
        Accuracy.roundToNearestEven, h])
  · exact .inr rfl

/-- A mantissa that is long enough is cut to 53 bits. -/
theorem shiftToTargetExponent_eq (hm : 52 ≤ m.log2) (he : -1074 ≤ e) (acc : Accuracy) :
    (shiftToTargetExponent .binary64 m e acc).1.mantissa = m / 2 ^ (m.log2 - 52) ∧
      (shiftToTargetExponent .binary64 m e acc).2 = e + (m.log2 - 52 : Nat) := by
  have htarget : Format.binary64.targetExponent (totalExponent m e) = e + (m.log2 - 52 : Nat) := by
    simp only [Format.targetExponent, totalExponent, Format.mantissaBits, Format.minExponent]
    omega
  have hshift : (e + (m.log2 - 52 : Nat) - e).toNat = m.log2 - 52 := by omega
  have hstart : (ExtendedMantissa.ofMantissaAndAccuracy m acc).mantissa = m := by
    rcases acc with _ | _ | _ | _ <;> rfl
  rw [shiftToTargetExponent, htarget]
  simp only [shiftToExponent, hshift, mantissa_shiftRight, hstart, and_self]

/-- The bits of a mantissa that are kept. -/
theorem two_pow_le_div (hm : 52 ≤ m.log2) :
    2 ^ 52 ≤ m / 2 ^ (m.log2 - 52) ∧ m / 2 ^ (m.log2 - 52) < 2 ^ 53 := by
  have hne : m ≠ 0 := by
    rintro rfl
    simp at hm
  constructor
  · rw [Nat.le_div_iff_mul_le (Nat.two_pow_pos _), ← Nat.pow_add, Nat.add_sub_cancel' hm]
    exact Nat.log2_self_le hne
  · rw [Nat.div_lt_iff_lt_mul (Nat.two_pow_pos _), ← Nat.pow_add,
      show 53 + (m.log2 - 52) = m.log2 + 1 by omega]
    exact Nat.lt_log2_self

/-- Rounding keeps the leading 53 bits of a mantissa or adds one in the last place. -/
theorem exists_roundWithAccuracy_eq (sign : Sign) (acc : Accuracy) (hm : 52 ≤ m.log2)
    (he : -1074 ≤ e) :
    ∃ (m' j : Nat) (hpos : 0 < m'),
      roundWithAccuracy .binary64 sign m e acc =
        .finite sign m' (e + (m.log2 - 52 : Nat) + j) hpos ∧
      m'.log2 = 52 ∧
      (m' * 2 ^ j = m / 2 ^ (m.log2 - 52) ∨ m' * 2 ^ j = m / 2 ^ (m.log2 - 52) + 1) := by
  obtain ⟨hlow, hhigh⟩ := two_pow_le_div hm
  obtain ⟨hm₁, he₁⟩ := shiftToTargetExponent_eq hm he acc
  unfold roundWithAccuracy
  generalize shiftToTargetExponent .binary64 m e acc = first at hm₁ he₁
  obtain ⟨em, e₁⟩ := first
  dsimp only at hm₁ he₁ ⊢
  have hround := roundedMantissa_eq em
  rw [hm₁] at hround
  generalize em.roundedMantissa = r at hround
  -- what has been rounded has 53 bits, or it is `2 ^ 53` and its last bit is cut off
  have hcases : 2 ^ 52 ≤ r ∧ r < 2 ^ 53 ∨ r = 2 ^ 53 := by omega
  rcases hcases with ⟨hr, hr'⟩ | hr
  · have hlog : r.log2 = 52 := (Nat.log2_eq_iff (by omega)).mpr ⟨hr, hr'⟩
    obtain ⟨hm₂, he₂⟩ := shiftToTargetExponent_eq (m := r) (e := e₁) (by omega) (by omega) .exact
    rw [hlog] at hm₂ he₂
    generalize shiftToTargetExponent .binary64 r e₁ .exact = second at hm₂ he₂
    have hsame : second.1.mantissa = r := by simpa using hm₂
    refine ⟨second.1.mantissa, 0, by omega, ?_, by rw [hsame, hlog], by simpa [hsame] using hround⟩
    rw [dif_neg (by omega)]
    congr 1
    simpa [he₁] using he₂
  · have hlog : r.log2 = 53 := by rw [hr, Nat.log2_two_pow]
    obtain ⟨hm₂, he₂⟩ := shiftToTargetExponent_eq (m := r) (e := e₁) (by omega) (by omega) .exact
    rw [hlog] at hm₂ he₂
    generalize shiftToTargetExponent .binary64 r e₁ .exact = second at hm₂ he₂
    have hhalf : second.1.mantissa = 2 ^ 52 := by rw [hm₂, hr]; rfl
    refine ⟨second.1.mantissa, 1, by omega, ?_, by rw [hhalf, Nat.log2_two_pow], ?_⟩
    · rw [dif_neg (by omega)]
      congr 1
      simpa [he₁] using he₂
    · rw [hhalf]
      omega

/-- Cutting a mantissa to 53 bits, upwards or downwards, changes it by a unit in the last place at
most. -/
theorem abs_kept_sub_le {r : Nat} (hm : 52 ≤ m.log2)
    (hr : r = m / 2 ^ (m.log2 - 52) ∨ r = m / 2 ^ (m.log2 - 52) + 1) :
    |(r : ℚ) * 2 ^ (m.log2 - 52) - m| ≤ m / 2 ^ 52 := by
  have hkept := (two_pow_le_div hm).1
  generalize m.log2 - 52 = d at hr hkept ⊢
  have hsplit := Nat.div_add_mod' m (2 ^ d)
  have hmod := Nat.mod_lt m (Nat.two_pow_pos d)
  have hadd : (m / 2 ^ d + 1) * 2 ^ d = m / 2 ^ d * 2 ^ d + 2 ^ d := by ring
  have hupper : r * 2 ^ d ≤ m + 2 ^ d := by rcases hr with h | h <;> rw [h] <;> omega
  have hlower : m ≤ r * 2 ^ d + 2 ^ d := by rcases hr with h | h <;> rw [h] <;> omega
  have hunit : (2 : ℚ) ^ d ≤ m / 2 ^ 52 := by
    have : 2 ^ d * 2 ^ 52 ≤ m := (Nat.mul_le_mul_left _ hkept).trans (Nat.mul_div_le m (2 ^ d))
    rw [le_div_iff₀ (by positivity)]
    exact_mod_cast this
  have hupper : (r : ℚ) * 2 ^ d ≤ m + 2 ^ d := by exact_mod_cast hupper
  have hlower : (m : ℚ) ≤ r * 2 ^ d + 2 ^ d := by exact_mod_cast hlower
  rw [abs_le]
  constructor <;> linarith

/-- What is near a number is at least half of it and at most twice as large. -/
theorem bounds_of_near {v : ℚ} (hq : 0 < q) (ha : a ≤ 2 ^ 50) (hnear : |v - q| ≤ a * q / 2 ^ 52) :
    q ≤ 2 * v ∧ v ≤ 2 * q := by
  have ha' : (a : ℚ) ≤ 2 ^ 50 := by exact_mod_cast ha
  have hquarter : a * q / 2 ^ 52 ≤ q / 4 :=
    calc a * q / 2 ^ 52 ≤ 2 ^ 50 * q / 2 ^ 52 := by gcongr
      _ = q / 4 := by ring
  obtain ⟨hlow, hhigh⟩ := abs_le.mp (hnear.trans hquarter)
  constructor <;> linarith

/-- Rounding adds at most two units to the error. -/
theorem isNear_roundWithAccuracy (sign : Sign) (acc : Accuracy) (hm : 52 ≤ m.log2) (he : -1074 ≤ e)
    (hq : 0 < q) (ha : a ≤ 2 ^ 50) (hnear : |(m : ℚ) * 2 ^ e - q| ≤ a * q / 2 ^ 52) :
    IsNear q (a + 2) sign (roundWithAccuracy .binary64 sign m e acc) := by
  obtain ⟨m', j, hpos, hround, hlog, hkept⟩ := exists_roundWithAccuracy_eq sign acc hm he
  have hcut := abs_kept_sub_le hm hkept
  rw [hround]
  refine .finite hpos hlog ?_
  generalize m.log2 - 52 = d at hcut ⊢
  have hpow : (0 : ℚ) < 2 ^ e := by positivity
  have hvalue : (m' : ℚ) * 2 ^ (e + d + j) = (m' * 2 ^ j : ℕ) * 2 ^ d * 2 ^ e := by
    rw [zpow_add₀ two_ne_zero, zpow_add₀ two_ne_zero, zpow_natCast, zpow_natCast]
    push_cast
    ring
  have htwice := (bounds_of_near hq ha hnear).2
  have herror : |(m' : ℚ) * 2 ^ (e + d + j) - m * 2 ^ e| ≤ 2 * q / 2 ^ 52 :=
    calc |(m' : ℚ) * 2 ^ (e + d + j) - m * 2 ^ e|
        = |((m' * 2 ^ j : ℕ) : ℚ) * 2 ^ d - m| * 2 ^ e := by
          rw [hvalue, ← sub_mul, abs_mul, abs_of_pos hpow]
      _ ≤ m / 2 ^ 52 * 2 ^ e := by gcongr
      _ = m * 2 ^ e / 2 ^ 52 := by ring
      _ ≤ 2 * q / 2 ^ 52 := by gcongr
  calc |(m' : ℚ) * 2 ^ (e + d + j) - q|
      ≤ |(m' : ℚ) * 2 ^ (e + d + j) - m * 2 ^ e| + |m * 2 ^ e - q| := abs_sub_le ..
    _ ≤ 2 * q / 2 ^ 52 + a * q / 2 ^ 52 := by gcongr
    _ = (a + 2 : ℕ) * q / 2 ^ 52 := by push_cast; ring

/-! ### Storing -/

theorem unpack_packedInfinity (sign : Sign) :
    unpack .binary64 (packedInfinity .binary64 sign) = .infinity sign := by
  cases sign <;> rfl

/-- The exponent of a number from a hundredth upwards; a very large exponent means a very large
number. -/
theorem exponent_bounds (hq : 1 / 100 ≤ q) (ha : a ≤ 2 ^ 50) (hm : m.log2 = 52)
    (hnear : |(m : ℚ) * 2 ^ e - q| ≤ a * q / 2 ^ 52) :
    -61 ≤ e ∧ (972 ≤ e → 2 ^ 200 ≤ q) := by
  obtain ⟨hlow, hhigh⟩ := bounds_of_near (by linarith) ha hnear
  obtain ⟨hm₁, hm₂⟩ := (Nat.log2_eq_iff (by rintro rfl; simp at hm)).mp hm
  constructor
  · have hpow : (2 : ℚ) ^ (-7 : ℤ) < 2 ^ (54 + e) :=
      calc (2 : ℚ) ^ (-7 : ℤ) ≤ q := le_trans (by norm_num) hq
        _ ≤ 2 * (m * 2 ^ e) := hlow
        _ < 2 * (2 ^ 53 * 2 ^ e) := by gcongr; exact_mod_cast hm₂
        _ = 2 ^ (54 + e) := by rw [zpow_add₀ two_ne_zero]; norm_num; ring
    have := (zpow_lt_zpow_iff_right₀ (by norm_num)).mp hpow
    omega
  · intro he
    have hpow : (2 : ℚ) ^ 200 ≤ 2 ^ e := by
      rw [← zpow_natCast]
      exact zpow_le_zpow_right₀ (by norm_num) (by omega)
    have hm₁ : (2 : ℚ) ^ 52 ≤ m := by exact_mod_cast hm₁
    have hvalue : (2 : ℚ) ^ 52 * 2 ^ 200 ≤ m * 2 ^ e := by gcongr
    linarith

/-- A normal double is stored as it is, unless its exponent is too large for that. -/
theorem unpack_pack_finite (sign : Sign) (hpos : 0 < m) (hm : m.log2 = 52) (he : -1074 ≤ e) :
    unpack .binary64 (pack .binary64 (.finite sign m e hpos)) =
      if e < 972 then .finite sign m e hpos else .infinity sign := by
  obtain ⟨hm₁, hm₂⟩ := (Nat.log2_eq_iff (Nat.ne_of_gt hpos)).mp hm
  rw [pack]
  generalize hbiased : (e + (Format.binary64.exponentBias : Int) +
    (Format.binary64.mantissaBitsWithoutImplicit : Int)).toNat = biased
  replace hbiased : (e + 1023 + 52).toNat = biased := hbiased
  split
  · rename_i hover
    replace hover : 2 ^ 11 ≤ biased + 1 := hover
    rw [unpack_packedInfinity, if_neg (by omega)]
  · rename_i hfits
    replace hfits : ¬ 2 ^ 11 ≤ biased + 1 := hfits
    rw [if_pos (by rw [hm]; rfl), if_pos (by omega)]
    have hbias : (Format.binary64.exponentBias +
      Format.binary64.mantissaBitsWithoutImplicit : Int) = 1075 := rfl
    have hexp : (BitVec.ofNat 11 biased).toNat = biased := by
      rw [BitVec.toNat_ofNat, Nat.mod_eq_of_lt (by omega)]
    have hones : BitVec.ofNat 11 biased ≠ -1#11 := fun h => by
      have hnat := congrArg BitVec.toNat h
      rw [hexp, show (-1#11 : BitVec 11).toNat = 2047 from rfl] at hnat
      omega
    have hzero : BitVec.ofNat 11 biased ≠ 0#11 := fun h => by
      have hnat := congrArg BitVec.toNat h
      rw [hexp, show (0#11 : BitVec 11).toNat = 0 from rfl] at hnat
      omega
    -- the bit that is not stored is the leading one
    have hbit : (1#1 ++ BitVec.ofNat 52 m).toNat = m := by
      rw [BitVec.toNat_append, ← Nat.shiftLeft_add_eq_or_of_lt (BitVec.isLt _),
        BitVec.toNat_ofNat]
      change 2 ^ 52 + m % 2 ^ 52 = m
      omega
    have hback : (biased : Int) - 1075 = e := by omega
    unfold unpack
    simp only [unpackMantissa_packComponents, unpackExponent_packComponents,
      unpackSign_packComponents, Sign.ofBitVec_toBitVec, if_neg hones, if_neg hzero, hexp, hbias,
      hbit, hback]

/-- A double that is near a number stays what it is when it is stored, or becomes infinite. -/
theorem IsNear.unpack_pack {x : UnpackedFloat} (h : IsNear q a sign x) (hq : 1 / 100 ≤ q)
    (ha : a ≤ 2 ^ 50) : IsNear q a sign (Float.Model.pack x).unpack := by
  change IsNear q a sign (unpack .binary64 (pack .binary64 x))
  cases h with
  | infinity hinf =>
    rw [pack, unpack_packedInfinity]
    exact .infinity hinf
  | @finite m e hpos hm hnear =>
    obtain ⟨hlow, hhigh⟩ := exponent_bounds hq ha hm hnear
    rw [unpack_pack_finite sign hpos hm (by omega)]
    split
    · exact .finite hpos hm hnear
    · have hone : (1 : ℚ) ≤ 2 ^ a := one_le_pow₀ (by norm_num)
      exact .infinity ((hhigh (by omega)).trans (le_mul_of_one_le_left (by linarith) hone))

/-- A double that is near a number, with another sign. -/
theorem IsNear.signed {x : Float} (h : IsNear q a .positive x.toModel.unpack) (sign : Sign)
    (hq : 1 / 100 ≤ q) (ha : a ≤ 2 ^ 50) : IsNear q a sign (signed sign x).toModel.unpack := by
  cases sign with
  | positive => exact h
  | negative =>
    have hneg : IsNear q a .negative x.toModel.unpack.neg := by
      generalize x.toModel.unpack = y at h
      cases h with
      | infinity hinf => exact .infinity hinf
      | finite hpos hm hnear => exact .finite hpos hm hnear
    exact hneg.unpack_pack hq ha

/-! ### Products and quotients -/

theorem mul_positive (sign : Sign) : sign * .positive = sign := by cases sign <;> rfl

theorem div_positive (sign : Sign) : sign / .positive = sign := by cases sign <;> rfl

/-- A product with a number from one upwards. -/
theorem IsNear.mul {x : UnpackedFloat} {c : Nat} {k : Int} (h : IsNear q a sign x) (hc : 0 < c)
    (hq : 1 / 100 ≤ q) (ha : a ≤ 2 ^ 50) (hk : -1000 ≤ k) (hone : 1 ≤ (c : ℚ) * 2 ^ k) :
    IsNear (q * (c * 2 ^ k)) (a + 2) sign (x.mul .binary64 (.finite .positive c k hc)) := by
  have hmono : q ≤ q * (c * 2 ^ k) := le_mul_of_one_le_right (by linarith) hone
  cases h with
  | infinity hinf =>
    have hpow : (2 : ℚ) ^ a ≤ 2 ^ (a + 2) := pow_le_pow_right₀ (by norm_num) (by omega)
    change IsNear _ _ sign (.infinity (sign * .positive))
    rw [mul_positive]
    exact .infinity (hinf.trans (mul_le_mul hpow hmono (by linarith) (by positivity)))
  | @finite m e hpos hm hnear =>
    have hlow := (exponent_bounds hq ha hm hnear).1
    have hlog : 52 ≤ (m * c).log2 :=
      (Nat.le_log2 (Nat.mul_ne_zero (by omega) (by omega))).mpr
        (((Nat.log2_eq_iff (by omega)).mp hm).1.trans (Nat.le_mul_of_pos_right m hc))
    have hvalue : ((m * c : ℕ) : ℚ) * 2 ^ (e + k) - q * (c * 2 ^ k) =
        (m * 2 ^ e - q) * (c * 2 ^ k) := by
      rw [zpow_add₀ two_ne_zero]
      push_cast
      ring
    rw [UnpackedFloat.mul, mul_positive]
    refine isNear_roundWithAccuracy sign .exact hlog (by omega) (by linarith) ha ?_
    rw [hvalue, abs_mul, abs_of_nonneg (by linarith : (0 : ℚ) ≤ c * 2 ^ k)]
    calc |(m : ℚ) * 2 ^ e - q| * (c * 2 ^ k) ≤ a * q / 2 ^ 52 * (c * 2 ^ k) := by gcongr
      _ = a * (q * (c * 2 ^ k)) / 2 ^ 52 := by ring

theorem unpack_hundred :
    (100 : Float).toModel.unpack = .finite .positive (100 * 2 ^ 46) (-46) (by decide) := rfl

/-- A hundred times a double. -/
theorem IsNear.mul_hundred {x : Float} (h : IsNear q a sign x.toModel.unpack) (hq : 1 / 100 ≤ q)
    (ha : a ≤ 2 ^ 20) : IsNear (q * 100) (a + 2) sign (x * 100).toModel.unpack := by
  have hmul := h.mul (c := 100 * 2 ^ 46) (k := -46) (by decide) hq (by omega) (by omega)
    (by norm_num)
  rw [← unpack_hundred, show q * ((100 * 2 ^ 46 : ℕ) * 2 ^ (-46 : ℤ)) = q * 100 by norm_num] at hmul
  exact hmul.unpack_pack (by linarith) (by omega)

/-- The exponent and the shift with which a normal double is divided by a hundred. -/
theorem divCore_hundred (hm : m.log2 = 52) (he : -1067 ≤ e) :
    divCore .binary64 m e (100 * 2 ^ 46) (-46) =
      (m <<< 53 / (100 * 2 ^ 46), e - 7,
        accuracyOfFraction (m <<< 53 % (100 * 2 ^ 46)) (100 * 2 ^ 46)) := by
  have hlog : (100 * 2 ^ 46).log2 = 52 := by decide
  have htarget : min (e - -46) (Format.binary64.targetExponent
      (totalExponent m e - totalExponent (100 * 2 ^ 46) (-46))) = e - 7 := by
    simp only [Format.targetExponent, totalExponent, Format.mantissaBits, Format.minExponent, hm,
      hlog]
    omega
  have hshift : (e - -46 - (e - 7)).toNat = 53 := by omega
  rw [divCore, htarget, hshift]

/-- What is cut off from the quotient is less than a unit in the last place. -/
theorem abs_quot_sub_le {quot rest : Nat} (hm : 2 ^ 52 ≤ m) (hrest : rest < 100 * 2 ^ 46)
    (hfloor : quot * (100 * 2 ^ 46) + rest = m * 2 ^ 53) (e : Int) :
    |(quot : ℚ) * 2 ^ (e - 7) - m * 2 ^ e / 100| ≤ m * 2 ^ e / 100 / 2 ^ 52 := by
  have hsum : (rest : ℚ) = m * 2 ^ 53 - quot * (100 * 2 ^ 46) := by
    rw [eq_sub_iff_add_eq']
    exact_mod_cast hfloor
  have hpow : (0 : ℚ) < 2 ^ e := by positivity
  have hrest : (rest : ℚ) ≤ 100 * 2 ^ 46 := by exact_mod_cast hrest.le
  have hm : (2 : ℚ) ^ 52 ≤ m := by exact_mod_cast hm
  have hdiff : (quot : ℚ) * 2 ^ (e - 7) - m * 2 ^ e / 100 =
      -(rest * (2 ^ e / (100 * 2 ^ 53))) := by
    rw [zpow_sub₀ two_ne_zero, hsum]
    norm_num
    ring
  rw [hdiff, abs_neg, abs_of_nonneg (by positivity)]
  calc (rest : ℚ) * (2 ^ e / (100 * 2 ^ 53))
      ≤ 100 * 2 ^ 46 * (2 ^ e / (100 * 2 ^ 53)) := by gcongr
    _ ≤ 2 ^ 52 * 2 ^ e / 100 / 2 ^ 52 := by norm_num; linarith
    _ ≤ m * 2 ^ e / 100 / 2 ^ 52 := by gcongr

/-- A hundredth of a double. -/
theorem IsNear.div_hundred {x : Float} (h : IsNear q a sign x.toModel.unpack) (hq : 1 ≤ q)
    (ha : a ≤ 2 ^ 20) : IsNear (q / 100) (a + 8) sign (x / 100).toModel.unpack := by
  refine IsNear.unpack_pack (x := UnpackedFloat.div .binary64 x.toModel.unpack
    (100 : Float).toModel.unpack) ?_ (by linarith) (by omega)
  rw [unpack_hundred]
  generalize x.toModel.unpack = y at h
  cases h with
  | infinity hinf =>
    change IsNear _ _ sign (.infinity (sign / .positive))
    rw [div_positive]
    refine .infinity (hinf.trans ?_)
    calc 2 ^ a * q ≤ 2 ^ a * (256 / 100 * q) := by gcongr; linarith
      _ = 2 ^ (a + 8) * (q / 100) := by ring
  | @finite m e hpos hm hnear =>
    have hlow := (exponent_bounds (by linarith) (by omega) hm hnear).1
    have hbound := ((Nat.log2_eq_iff (Nat.ne_of_gt hpos)).mp hm).1
    rw [UnpackedFloat.div, divCore_hundred hm (by omega), div_positive]
    dsimp only
    have hfloor := Nat.div_add_mod' (m <<< 53) (100 * 2 ^ 46)
    have hrest := Nat.mod_lt (m <<< 53) (y := 100 * 2 ^ 46) (by decide)
    generalize m <<< 53 / (100 * 2 ^ 46) = quot, m <<< 53 % (100 * 2 ^ 46) = rest at hfloor hrest ⊢
    rw [Nat.shiftLeft_eq] at hfloor
    have hquot : 52 ≤ quot.log2 := (Nat.le_log2 (by omega)).mpr (by omega)
    -- the quotient is cut off to a whole number, and then rounded
    have hcut := abs_quot_sub_le hbound hrest hfloor e
    have htwice := (bounds_of_near (by linarith) (by omega) hnear).2
    have hnear' : |(quot : ℚ) * 2 ^ (e - 7) - q / 100| ≤ (a + 2 : ℕ) * (q / 100) / 2 ^ 52 :=
      calc |(quot : ℚ) * 2 ^ (e - 7) - q / 100|
          ≤ |(quot : ℚ) * 2 ^ (e - 7) - m * 2 ^ e / 100| + |m * 2 ^ e / 100 - q / 100| :=
            abs_sub_le ..
        _ ≤ 2 * q / 100 / 2 ^ 52 + a * q / 2 ^ 52 / 100 := by
            rw [← sub_div, abs_div, abs_of_pos (by norm_num : (0 : ℚ) < 100)]
            gcongr
            exact hcut.trans (by gcongr)
        _ = (a + 2 : ℕ) * (q / 100) / 2 ^ 52 := by push_cast; ring
    exact (isNear_roundWithAccuracy sign _ hquot (by omega) (by linarith) (by omega) hnear').mono
      (by linarith) (by omega)

/-! ### Whole numbers and hundredths -/

/-- A whole number, before it is stored. -/
theorem isNear_round {n : Nat} (sign : Sign) (hn : 0 < n) :
    IsNear n 2 sign (UnpackedFloat.round .binary64 sign n 0) := by
  have htarget : Format.binary64.targetExponent (totalExponent n 0) = n.log2 - 52 := by
    simp only [Format.targetExponent, totalExponent, Format.mantissaBits, Format.minExponent]
    omega
  rw [UnpackedFloat.round, htarget, decreaseExponent]
  generalize hshift : (0 - ((n.log2 : Int) - 52)).toNat = shift
  have hlog : 52 ≤ (n <<< shift).log2 := by
    rw [Nat.shiftLeft_eq, Nat.le_log2 (Nat.mul_ne_zero (by omega) (Nat.two_pow_pos _).ne')]
    calc 2 ^ 52 ≤ 2 ^ (n.log2 + shift) := Nat.pow_le_pow_right (by decide) (by omega)
      _ = 2 ^ n.log2 * 2 ^ shift := Nat.pow_add ..
      _ ≤ n * 2 ^ shift := Nat.mul_le_mul_right _ (Nat.log2_self_le (by omega))
  refine isNear_roundWithAccuracy (a := 0) sign .exact hlog (by omega) (by exact_mod_cast hn)
    (by decide) ?_
  have hvalue : ((n <<< shift : ℕ) : ℚ) * 2 ^ (0 - (shift : ℤ)) = n := by
    rw [Nat.shiftLeft_eq, zero_sub, zpow_neg, zpow_natCast]
    push_cast
    field_simp
  rw [hvalue]
  simp

theorem isNear_toFloat {n : Nat} (hn : 0 < n) (hsmall : n < 2 ^ 53) :
    IsNear n 2 .positive n.toUInt64.toFloat.toModel.unpack := by
  have hnat : n.toUInt64.toNat = n := Nat.mod_eq_of_lt (by omega)
  have hone : (1 : ℚ) ≤ n := by exact_mod_cast hn
  refine IsNear.unpack_pack (x := UnpackedFloat.ofUInt64 .binary64 n.toUInt64) ?_ (by linarith)
    (by decide)
  unfold UnpackedFloat.ofUInt64 UnpackedFloat.ofNat UnpackedFloat.ofInt UnpackedFloat.normalize
  rw [hnat, Int.compare_eq_gt.mpr (by omega)]
  exact isNear_round _ hn

/-- A natural number as a double. -/
theorem isNear_ofNat {n : Nat} (hn : 0 < n) :
    IsNear n 4 .positive (Float.ofNat n).toModel.unpack := by
  have hone : (1 : ℚ) ≤ n := by exact_mod_cast hn
  change IsNear n 4 .positive (Float.ofScientific n false 0).toModel.unpack
  unfold Float.ofScientific
  split
  · -- up to `2 ^ 53` it is converted as it is and multiplied by one
    rename_i hsmall
    have hunit : (Float.ofBits 0x3FF0000000000000).toModel.unpack =
      .finite .positive (2 ^ 52) (-52) (by decide) := rfl
    have hmul := (isNear_toFloat hn hsmall.1).mul (c := 2 ^ 52) (k := -52) (by decide)
      (by linarith) (by decide) (by omega) (by norm_num)
    rw [← hunit, show (n : ℚ) * ((2 ^ 52 : ℕ) * 2 ^ (-52 : ℤ)) = n by norm_num] at hmul
    exact hmul.unpack_pack (by linarith) (by decide)
  · refine IsNear.unpack_pack (x := UnpackedFloat.ofScientific .binary64 n 0) ?_ (by linarith)
      (by decide)
    have hsmall : ¬ (0 : Int) < -((2 ^ 11 : Int) + n.log2) := by omega
    rw [UnpackedFloat.ofScientific, dif_neg (by omega), if_neg (by decide), if_neg hsmall,
      if_pos (by decide), UnpackedFloat.mul, mul_positive]
    change IsNear n 4 .positive
      (roundWithAccuracy .binary64 .positive (n <<< 53 * 10 ^ 0) (-53 + 0) .exact)
    rw [Nat.pow_zero, Nat.mul_one, add_zero, Nat.shiftLeft_eq]
    have hlog : 52 ≤ (n * 2 ^ 53).log2 := (Nat.le_log2 (by omega)).mpr (by omega)
    have hvalue : ((n * 2 ^ 53 : ℕ) : ℚ) * 2 ^ (-53 : ℤ) = n := by
      rw [zpow_neg]
      push_cast
      exact mul_inv_cancel_right₀ (by norm_num) _
    refine (isNear_roundWithAccuracy (a := 0) .positive .exact hlog (by decide) (by linarith)
      (by decide) ?_).mono (by linarith) (by decide)
    rw [hvalue]
    simp

/-- A whole number of hundredths below `2 ^ 53` as a double. -/
theorem isNear_ofScientific {n : Nat} (hn : 0 < n) (hsmall : n < 2 ^ 53) :
    IsNear (n / 100) 10 .positive (Float.ofScientific n true 2).toModel.unpack := by
  have hdiv : Float.ofScientific n true 2 = n.toUInt64.toFloat / 100 := by
    unfold Float.ofScientific
    rw [dif_pos ⟨hsmall, by decide⟩]
    rfl
  rw [hdiv]
  exact (isNear_toFloat hn hsmall).div_hundred (by exact_mod_cast hn) (by decide)

theorem two_zpow_mul_two_pow (e : Int) : (2 : ℚ) ^ e * 2 ^ (-e).toNat = 2 ^ e.toNat := by
  rw [← zpow_natCast, ← zpow_natCast, ← zpow_add₀ two_ne_zero]
  congr 1
  omega

/-- The nearest integer is at most a half off. -/
theorem abs_roundScaled_sub_le (tie : Tie) (scale m : Nat) (e : Int) :
    |(roundScaled tie scale m e : ℚ) - scale * (m * 2 ^ e)| ≤ 1 / 2 := by
  have hupper := two_mul_roundDiv_mul_le tie (scale * m <<< e.toNat) (1 <<< (-e).toNat)
  have hlower := le_two_mul_roundDiv_mul tie (scale * m <<< e.toNat) (1 <<< (-e).toNat)
    (by rw [Nat.shiftLeft_eq, Nat.one_mul]; exact Nat.two_pow_pos _)
  rw [roundScaled]
  generalize roundDiv tie (scale * m <<< e.toNat) (1 <<< (-e).toNat) = r at hupper hlower ⊢
  simp only [Nat.shiftLeft_eq, Nat.one_mul] at hupper hlower
  have hexp := two_zpow_mul_two_pow e
  generalize (-e).toNat = k at hupper hlower hexp
  have hden : (0 : ℚ) < 2 ^ k := by positivity
  have hscaled : |((r : ℚ) - scale * (m * 2 ^ e)) * 2 ^ k| ≤ 1 / 2 * 2 ^ k := by
    have hnum : ((r : ℚ) - scale * (m * 2 ^ e)) * 2 ^ k =
        r * 2 ^ k - scale * (m * 2 ^ e.toNat) := by
      rw [← hexp]
      ring
    have hupper : 2 * ((r : ℚ) * 2 ^ k) ≤ 2 * (scale * (m * 2 ^ e.toNat)) + 2 ^ k := by
      exact_mod_cast hupper
    have hlower : 2 * ((scale : ℚ) * (m * 2 ^ e.toNat)) ≤ 2 * (r * 2 ^ k) + 2 ^ k := by
      exact_mod_cast hlower
    rw [hnum, abs_le]
    constructor <;> linarith
  rw [abs_mul, abs_of_pos hden] at hscaled
  exact le_of_mul_le_mul_right hscaled hden

/-- How far the nearest integer is from the number itself. -/
theorem abs_roundScaled_sub_le_of_near (hnear : |(m : ℚ) * 2 ^ e - q| ≤ a * q / 2 ^ 52) (tie : Tie)
    (scale : Nat) :
    |(roundScaled tie scale m e : ℚ) - scale * q| ≤ 1 / 2 + a * (scale * q) / 2 ^ 52 := by
  have hscaled : |scale * ((m : ℚ) * 2 ^ e) - scale * q| ≤ a * (scale * q) / 2 ^ 52 :=
    calc |scale * ((m : ℚ) * 2 ^ e) - scale * q| = scale * |(m : ℚ) * 2 ^ e - q| := by
          rw [← mul_sub, abs_mul, Nat.abs_cast]
      _ ≤ scale * (a * q / 2 ^ 52) := by gcongr
      _ = a * (scale * q) / 2 ^ 52 := by ring
  calc |(roundScaled tie scale m e : ℚ) - scale * q|
      ≤ |(roundScaled tie scale m e : ℚ) - scale * (m * 2 ^ e)| +
          |scale * ((m : ℚ) * 2 ^ e) - scale * q| := abs_sub_le ..
    _ ≤ 1 / 2 + a * (scale * q) / 2 ^ 52 := by
      gcongr
      exact abs_roundScaled_sub_le tie scale m e

/-- What is near a whole number of parts is rounded to it, if there are not too many of them. -/
theorem IsNear.exists_roundScaled_eq {x : UnpackedFloat} {n : Nat} (h : IsNear q a sign x)
    (scale : Nat) (hn : scale * q = n) (hscale : 0 < scale) (ha : a ≤ 16) (hsmall : n < 2 ^ 47) :
    ∃ (m : Nat) (e : Int) (hpos : 0 < m), x = .finite sign m e hpos ∧
      ∀ tie, roundScaled tie scale m e = n := by
  have ha' : (a : ℚ) ≤ 16 := by exact_mod_cast ha
  have hn' : (n : ℚ) < 2 ^ 47 := by exact_mod_cast hsmall
  cases h with
  | infinity hinf =>
    exfalso
    have hpow : (2 : ℚ) ^ a ≤ 2 ^ 16 := pow_le_pow_right₀ (by norm_num) ha
    have hone : (1 : ℚ) ≤ scale := by exact_mod_cast hscale
    have hq : 0 < q := by
      by_contra hq
      have : (2 : ℚ) ^ a * q ≤ 0 := mul_nonpos_of_nonneg_of_nonpos (by positivity) (not_lt.mp hq)
      linarith
    have hqn : q ≤ n := by rw [← hn]; exact le_mul_of_one_le_left hq.le hone
    have : (2 : ℚ) ^ 200 ≤ 2 ^ 16 * 2 ^ 47 :=
      hinf.trans (mul_le_mul hpow (hqn.trans hn'.le) hq.le (by positivity))
    norm_num at this
  | @finite m e hpos hm hnear =>
    refine ⟨m, e, hpos, rfl, fun tie => ?_⟩
    have hround := abs_roundScaled_sub_le_of_near hnear tie scale
    have herror : a * (scale * q) / 2 ^ 52 < 1 / 2 :=
      calc a * (scale * q) / 2 ^ 52 ≤ 16 * n / 2 ^ 52 := by rw [hn]; gcongr
        _ < 16 * 2 ^ 47 / 2 ^ 52 := by gcongr
        _ = 1 / 2 := by norm_num
    rw [hn] at hround herror
    have hlt : |((roundScaled tie scale m e : ℤ) : ℚ) - (n : ℤ)| < 1 := by
      push_cast
      linarith
    have hsame : (roundScaled tie scale m e : ℤ) - n = 0 :=
      Int.abs_lt_one_iff.mp (by exact_mod_cast hlt)
    omega

/-- The bytes are among the doubles. -/
theorem nearestByte_ofNat (byte : UInt8) : nearestByte (Float.ofNat byte.toNat) = byte := by
  have hlt := byte.toNat_lt
  rcases Nat.eq_zero_or_pos byte.toNat with hzero | hpos
  · rw [← UInt8.toNat_inj, hzero]
    decide +kernel
  · obtain ⟨m, e, _, hvalue, hround⟩ := (isNear_ofNat hpos).exists_roundScaled_eq
      (n := byte.toNat) 1 (by simp) (by decide) (by decide) (by omega)
    rw [nearestByte, hvalue]
    dsimp only
    rw [hround, Nat.min_eq_right (by omega), UInt8.ofNat_toNat]

/-- A number of hundredths is written out unharmed. -/
theorem twoPlaces_div_hundred {n : Nat} (hn : n < 2 ^ 47) :
    twoPlaces (Float.ofNat n / 100) = hundredthsText n := by
  rcases Nat.eq_zero_or_pos n with rfl | hpos
  · decide +kernel
  · have hone : (1 : ℚ) ≤ n := by exact_mod_cast hpos
    obtain ⟨m, e, _, hvalue, hround⟩ := ((isNear_ofNat hpos).div_hundred hone
      (by decide)).exists_roundScaled_eq (n := n) 100 (by push_cast; ring) (by decide)
      (by decide) hn
    rw [twoPlaces, hvalue]
    dsimp only
    rw [hround]
    rfl

/-- A number of hundredths is read unharmed. -/
theorem nearestInteger_mul_hundred {n : Nat} (hn : n < 2 ^ 47) :
    nearestInteger (Float.ofScientific n true 2 * 100) = Float.ofNat n := by
  rcases Nat.eq_zero_or_pos n with rfl | hpos
  · decide +kernel
  · have hone : (1 : ℚ) ≤ n := by exact_mod_cast hpos
    obtain ⟨m, e, _, hvalue, hround⟩ := ((isNear_ofScientific hpos (by omega)).mul_hundred
      (by linarith) (by decide)).exists_roundScaled_eq (n := n) 1 (by push_cast; ring) (by decide)
      (by decide) hn
    rw [nearestInteger, hvalue]
    dsimp only
    rw [hround]
    rfl

/-- A number of hundredths with a sign, where it is written with digits. -/
theorem twoPlaces_signed_div_hundred (sign : Sign) {n : Nat} (hn : 0 < n) :
    twoPlaces (signed sign (Float.ofNat n) / 100) = signText sign ++ ['i', 'n', 'f'] ∨
      ∃ r : Nat, |(r : ℚ) - n| ≤ 1 / 2 + 12 * n / 2 ^ 52 ∧
        twoPlaces (signed sign (Float.ofNat n) / 100) = signText sign ++ hundredthsText r := by
  have hone : (1 : ℚ) ≤ n := by exact_mod_cast hn
  have hnear := ((isNear_ofNat hn).signed sign (by linarith) (by decide)).div_hundred hone
    (by decide)
  unfold twoPlaces
  generalize (signed sign (Float.ofNat n) / 100).toModel.unpack = y at hnear
  cases hnear with
  | infinity => exact .inl rfl
  | @finite m e hpos hm hnear =>
    refine .inr ⟨_, ?_, rfl⟩
    have hround := abs_roundScaled_sub_le_of_near hnear .toEven 100
    rwa [show ((100 : ℕ) : ℚ) * (n / 100) = n by push_cast; ring] at hround

end CodeHighlight.Decimal
