/-!
# Decimal.Rounding — rounding the exact value of a double

A finite double is `± m · 2 ^ e` with natural `m`.  Everything here works on that exact value:
`roundDiv` rounds a quotient of natural numbers to the nearest integer, with a rule for ties, and
the rest applies it to doubles.  The laws of `roundDiv` are that it is at most half a unit off
(`two_mul_roundDiv_mul_le`, `le_two_mul_roundDiv_mul`) and that it leaves integers alone
(`roundDiv_mul_left`).
-/

namespace CodeHighlight.Decimal

open Float.Model (UnpackedFloat)

/-! ### Quotients -/

/-- What becomes of a value halfway between two integers. -/
inductive Tie where
  /-- It is rounded up, which is away from zero. -/
  | away
  /-- It is rounded to the even one. -/
  | toEven
  deriving DecidableEq

/-- The integer nearest to `num / den`. -/
def roundDiv (tie : Tie) (num den : Nat) : Nat :=
  let floor := num / den
  match compare (2 * (num % den)) den, tie with
  | .lt, _ => floor
  | .gt, _ => floor + 1
  | .eq, .away => floor + 1
  | .eq, .toEven => floor + floor % 2

theorem roundDiv_eq (tie : Tie) (num den : Nat) :
    roundDiv tie num den = num / den ∧ 2 * (num % den) ≤ den ∨
      roundDiv tie num den = num / den + 1 ∧ den ≤ 2 * (num % den) := by
  unfold roundDiv
  dsimp only
  have hbit := Nat.mod_two_eq_zero_or_one (num / den)
  split <;> rename_i h <;> simp only [Nat.compare_eq_lt, Nat.compare_eq_gt, Nat.compare_eq_eq] at h
    <;> omega

/-- The rounded quotient is at most half a unit too large. -/
theorem two_mul_roundDiv_mul_le (tie : Tie) (num den : Nat) :
    2 * (roundDiv tie num den * den) ≤ 2 * num + den := by
  have hdiv := Nat.div_add_mod' num den
  rcases roundDiv_eq tie num den with ⟨h, _⟩ | ⟨h, _⟩ <;> rw [h]
  · omega
  · rw [Nat.add_mul]; omega

/-- The rounded quotient is at most half a unit too small. -/
theorem le_two_mul_roundDiv_mul (tie : Tie) (num den : Nat) (hden : 0 < den) :
    2 * num ≤ 2 * (roundDiv tie num den * den) + den := by
  have hdiv := Nat.div_add_mod' num den
  have hmod := Nat.mod_lt num hden
  rcases roundDiv_eq tie num den with ⟨h, _⟩ | ⟨h, _⟩ <;> rw [h]
  · omega
  · rw [Nat.add_mul]; omega

/-- An integer is its own nearest integer. -/
theorem roundDiv_mul_left (tie : Tie) (n : Nat) {den : Nat} (hden : 0 < den) :
    roundDiv tie (den * n) den = n := by
  have hcmp : compare (2 * 0) den = .lt := Nat.compare_eq_lt.mpr hden
  unfold roundDiv
  rw [Nat.mul_mod_right, hcmp, Nat.mul_div_cancel_left n hden]

/-! ### Doubles -/

/-- The integer nearest to `scale · m · 2 ^ e`. -/
def roundScaled (tie : Tie) (scale m : Nat) (e : Int) : Nat :=
  roundDiv tie (scale * (m <<< e.toNat)) (1 <<< (-e).toNat)

/-- The double with this sign and the magnitude of the other one. -/
def signed : UnpackedFloat.Sign → Float → Float
  | .negative, x => -x
  | .positive, x => x

/-- The integer nearest to a double, as a double.  A half is rounded away from zero, a zero keeps
its sign, and what is not finite stays as it is. -/
def nearestInteger (x : Float) : Float :=
  match x.toModel.unpack with
  | .finite sign m e _ => signed sign (Float.ofNat (roundScaled .away 1 m e))
  | _ => x

/-- The integer of `0, …, 255` nearest to a double, a half being rounded up.  What is not a number
counts as zero. -/
def nearestByte (x : Float) : UInt8 :=
  match x.toModel.unpack with
  | .finite .positive m e _ => UInt8.ofNat (min 255 (roundScaled .away 1 m e))
  | .infinity .positive => 255
  | _ => 0

end CodeHighlight.Decimal
