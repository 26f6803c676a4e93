import CodeHighlight.Decimal.Places
import CodeHighlight.Proofs.Decimal.Numeral

/-!
# Proofs.Decimal.Written — numbers that have been written are read back

`Written` lists what a double is written as: a signed number of hundredths, an infinity or no number
at all.  Whatever `twoPlaces` writes is one of these (`exists_twoPlaces_eq`), and each of them is a
numeral for the double nearest to what it denotes (`number?_written`).
-/

namespace CodeHighlight.Decimal

open Float.Model.UnpackedFloat (Sign)

/-- What a double is written as. -/
inductive Written where
  | hundredths (sign : Sign) (n : Nat)
  | infinity (sign : Sign)
  | notANumber

namespace Written

/-- The text. -/
def chars : Written → List Char
  | .hundredths sign n => signText sign ++ hundredthsText n
  | .infinity sign => signText sign ++ ['i', 'n', 'f']
  | .notANumber => ['N', 'a', 'N']

/-- The double that is nearest to what the text denotes. -/
def value : Written → Float
  | .hundredths sign n => signed sign (Float.ofScientific n true 2)
  | .infinity sign => signed sign (1 / 0)
  | .notANumber => 0 / 0

/-- The text denotes a number from zero to one. -/
def IsProportion : Written → Prop
  | .hundredths sign n => 0 ≤ sign.apply n ∧ sign.apply n ≤ 100
  | .infinity _ | .notANumber => False

end Written

theorem exists_twoPlaces_eq (x : Float) : ∃ written : Written, twoPlaces x = written.chars := by
  unfold twoPlaces
  cases x.toModel.unpack with
  | notANumber => exact ⟨.notANumber, rfl⟩
  | infinity sign => exact ⟨.infinity sign, rfl⟩
  | zero sign => exact ⟨.hundredths sign 0, rfl⟩
  | finite sign m e _ => exact ⟨.hundredths sign _, rfl⟩

/-! ### Digits -/

theorem exists_toDigits_eq_cons (n : Nat) :
    ∃ c cs, Nat.toDigits 10 n = c :: cs ∧ c.isDigit = true ∧ ∀ d ∈ cs, d.isDigit = true := by
  obtain ⟨c, cs, h⟩ := List.exists_cons_of_ne_nil (List.ne_nil_of_length_pos
    (Nat.length_toDigits_pos (b := 10) (n := n)))
  have hall : ∀ d ∈ Nat.toDigits 10 n, d.isDigit = true := fun d hd =>
    Nat.isDigit_of_mem_toDigits (by decide) (by decide) hd
  rw [h] at hall
  exact ⟨c, cs, h, hall c List.mem_cons_self, fun d hd => hall d (List.mem_cons_of_mem _ hd)⟩

theorem named?_of_isDigit {c : Char} (h : c.isDigit = true) (cs : List Char) :
    named? (c :: cs) = none := by
  have hlower : c.toLower.isDigit = true := by
    rw [Char.toLower, dif_neg]
    · exact h
    · simp only [Char.isDigit, Bool.and_eq_true, decide_eq_true_eq] at h
      intro hupper
      exact absurd (UInt32.le_trans hupper.1 h.2) (by decide)
  have hne {d : Char} (hd : d.isDigit = false) : c.toLower ≠ d := by
    rintro rfl
    rw [hlower] at hd
    cases hd
  simp [named?, hne (d := 'i') rfl, hne (d := 'n') rfl]

/-- A decimal with digits before the point, and as many after it. -/
theorem decimal?_point {whole fraction : List Char} (hne : whole ≠ [])
    (hwhole : ∀ c ∈ whole, c.isDigit = true) (hfraction : ∀ c ∈ fraction, c.isDigit = true) :
    decimal? (whole ++ '.' :: fraction) =
      some (scientific (whole ++ fraction) fraction.length 0) := by
  have hfirst : (whole ++ '.' :: fraction).span Char.isDigit = (whole, '.' :: fraction) := by
    rw [List.span_eq_takeWhile_dropWhile, List.takeWhile_append_of_pos hwhole,
      List.dropWhile_append_of_pos hwhole]
    simp
  have hsecond : splitFraction ('.' :: fraction) = (fraction, []) := by
    rw [splitFraction, List.span_eq_takeWhile_dropWhile, List.takeWhile_eq_self_iff.mpr hfraction,
      List.dropWhile_eq_nil_iff.mpr hfraction]
  rw [decimal?, hfirst]
  simp [hsecond, hne, exponent?]

/-- A decimal of digits alone. -/
theorem decimal?_digits {whole : List Char} (hne : whole ≠ [])
    (hwhole : ∀ c ∈ whole, c.isDigit = true) : decimal? whole = some (scientific whole 0 0) := by
  have hspan : whole.span Char.isDigit = (whole, []) := by
    rw [List.span_eq_takeWhile_dropWhile, List.takeWhile_eq_self_iff.mpr hwhole,
      List.dropWhile_eq_nil_iff.mpr hwhole]
  rw [decimal?, hspan]
  simp [splitFraction, hne, exponent?]

/-! ### Numerals -/

/-- A sign before digits or a name counts for the whole. -/
theorem number?_signText (sign : Sign) {c : Char} (cs : List Char) (hminus : c ≠ '-')
    (hplus : c ≠ '+') :
    number? (signText sign ++ c :: cs) =
      ((named? (c :: cs)).or (decimal? (c :: cs))).map (signed sign) := by
  cases sign with
  | negative => rfl
  | positive =>
    have hsplit : splitSign (c :: cs) = (false, c :: cs) := by
      unfold splitSign
      split
      · rename_i h
        exact absurd (List.cons.inj h).1 hminus
      · rename_i h
        exact absurd (List.cons.inj h).1 hplus
      · rfl
    rw [signText, List.nil_append, number?, hsplit]
    rfl

theorem number?_signText_of_isDigit (sign : Sign) {c : Char} (h : c.isDigit = true)
    (cs : List Char) :
    number? (signText sign ++ c :: cs) = (decimal? (c :: cs)).map (signed sign) := by
  rw [number?_signText sign cs (by rintro rfl; cases h) (by rintro rfl; cases h),
    named?_of_isDigit h, Option.none_or]

/-- The digits of a natural number are a numeral for it. -/
theorem number?_toDigits (n : Nat) : number? (Nat.toDigits 10 n) = some (Float.ofNat n) := by
  obtain ⟨c, cs, hdigits, hc, hcs⟩ := exists_toDigits_eq_cons n
  have hread := number?_signText_of_isDigit .positive hc cs
  rw [decimal?_digits (List.cons_ne_nil c cs) (List.forall_mem_cons.mpr ⟨hc, hcs⟩), ← hdigits,
    scientific, Nat.ofDigitChars_ten_toDigits] at hread
  exact hread

/-- The digits of a number of hundredths, without the point. -/
theorem ofDigitChars_hundredths (n : Nat) :
    Nat.ofDigitChars 10 (Nat.toDigits 10 (n / 100) ++
      [Nat.digitChar (n / 10 % 10), Nat.digitChar (n % 10)]) 0 = n := by
  rw [Nat.ofDigitChars_append, Nat.ofDigitChars_ten_toDigits,
    Nat.ofDigitChars_cons_digitChar_of_lt_ten (by omega),
    Nat.ofDigitChars_cons_digitChar_of_lt_ten (by omega), Nat.ofDigitChars_nil]
  omega

theorem hundredthsText_inj {n k : Nat} (h : hundredthsText n = hundredthsText k) : n = k := by
  obtain ⟨hwhole, hplaces⟩ := List.append_inj' h rfl
  obtain ⟨htenths, hlast⟩ := List.cons.inj (List.cons.inj hplaces).2
  rw [← ofDigitChars_hundredths n, hwhole, htenths, (List.cons.inj hlast).1,
    ofDigitChars_hundredths]

/-- A number of hundredths in decimal notation is a numeral for it. -/
theorem decimal?_hundredthsText (n : Nat) :
    decimal? (hundredthsText n) = some (Float.ofScientific n true 2) := by
  obtain ⟨c, cs, hdigits, hc, hcs⟩ := exists_toDigits_eq_cons (n / 100)
  have hplaces : ∀ d ∈ [Nat.digitChar (n / 10 % 10), Nat.digitChar (n % 10)],
      d.isDigit = true := by
    simp only [List.forall_mem_cons, Nat.isDigit_digitChar, decide_eq_true_eq]
    exact ⟨by omega, by omega, fun _ h => nomatch h⟩
  rw [hundredthsText, decimal?_point (by rw [hdigits]; exact List.cons_ne_nil c cs)
    (by rw [hdigits]; exact List.forall_mem_cons.mpr ⟨hc, hcs⟩) hplaces, scientific,
    ofDigitChars_hundredths]
  rfl

/-- What a double is written as is a numeral for what it denotes. -/
theorem number?_written (written : Written) : number? written.chars = some written.value := by
  cases written with
  | hundredths sign n =>
    obtain ⟨c, cs, hdigits, hc, -⟩ := exists_toDigits_eq_cons (n / 100)
    have hdecimal := decimal?_hundredthsText n
    rw [Written.chars, Written.value]
    rw [hundredthsText, hdigits, List.cons_append] at hdecimal ⊢
    rw [number?_signText_of_isDigit sign hc, hdecimal]
    rfl
  | infinity sign => exact number?_signText sign _ (by decide) (by decide)
  | notANumber => rfl

end CodeHighlight.Decimal
