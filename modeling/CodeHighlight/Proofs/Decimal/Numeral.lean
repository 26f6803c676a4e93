import CodeHighlight.Decimal.Numeral
import CodeHighlight.Text.Blank
import Mathlib

/-!
# Proofs.Decimal.Numeral — what numerals are made of

A numeral holds letters, digits, signs and points only (`isNumeralChar_of_number?`), so it holds
neither blanks nor commas nor parentheses.
-/

namespace CodeHighlight.Decimal

/-- The characters that a numeral can hold. -/
def IsNumeralChar (c : Char) : Prop := c.isAlphanum = true ∨ c = '.' ∨ c = '+' ∨ c = '-'

theorem isBlank_eq_false_of_isAlphanum {c : Char} (h : c.isAlphanum = true) :
    Text.isBlank c = false := by
  simp only [Char.isAlphanum, Char.isAlpha, Char.isUpper, Char.isLower, Char.isDigit,
    Bool.or_eq_true, Bool.and_eq_true, decide_eq_true_eq, UInt32.le_iff_toNat_le] at h
  change (((65 ≤ c.toNat ∧ c.toNat ≤ 90) ∨ (97 ≤ c.toNat ∧ c.toNat ≤ 122)) ∨
    (48 ≤ c.toNat ∧ c.toNat ≤ 57)) at h
  simp only [Text.isBlank, Text.inRanges, Text.blankRanges, List.any_cons, List.any_nil,
    Bool.or_eq_false_iff, Bool.and_eq_false_iff, decide_eq_false_iff_not, and_true]
  omega

theorem IsNumeralChar.isBlank {c : Char} (h : IsNumeralChar c) : Text.isBlank c = false := by
  rcases h with h | rfl | rfl | rfl
  · exact isBlank_eq_false_of_isAlphanum h
  all_goals decide

theorem IsNumeralChar.ne_of {c d : Char} (h : IsNumeralChar c) (hd : d = ',' ∨ d = ')') :
    c ≠ d := by
  rintro rfl
  rcases hd with rfl | rfl <;> exact absurd h (by unfold IsNumeralChar; decide)

theorem isAlphanum_of_toLower {c : Char} (h : c.toLower.isAlphanum = true) :
    c.isAlphanum = true := by
  by_cases hupper : c.isUpper = true
  · simp [Char.isAlphanum, Char.isAlpha, hupper]
  · have hsame : c.toLower = c := by
      simp only [Char.isUpper, decide_eq_true_eq] at hupper
      exact dif_neg hupper
    rwa [hsame] at h

theorem mem_splitSign {cs : List Char} {c : Char} (h : c ∈ cs) :
    c ∈ (splitSign cs).2 ∨ c = '+' ∨ c = '-' := by
  unfold splitSign
  split
  · rcases List.mem_cons.mp h with rfl | h
    · exact .inr (.inr rfl)
    · exact .inl h
  · rcases List.mem_cons.mp h with rfl | h
    · exact .inr (.inl rfl)
    · exact .inl h
  · exact .inl h

theorem isNumeralChar_of_isDigit {c : Char} (h : c.isDigit = true) : IsNumeralChar c :=
  .inl (by simp [Char.isAlphanum, h])

theorem isNumeralChar_of_natural? {cs : List Char} {n : Nat} (h : natural? cs = some n) :
    ∀ c ∈ cs, IsNumeralChar c := by
  unfold natural? at h
  split at h
  · rename_i hdigits
    rw [Bool.and_eq_true, List.all_eq_true] at hdigits
    exact fun c hc => isNumeralChar_of_isDigit (hdigits.2 c hc)
  · cases h

theorem isNumeralChar_of_integer? {cs : List Char} {n : Int} (h : integer? cs = some n) :
    ∀ c ∈ cs, IsNumeralChar c := by
  rw [integer?] at h
  obtain ⟨_, hm, -⟩ := Option.map_eq_some_iff.mp h
  obtain ⟨m, hm, -⟩ := Option.bind_eq_some_iff.mp hm
  intro c hc
  rcases mem_splitSign hc with hc | rfl | rfl
  · exact isNumeralChar_of_natural? hm c hc
  · exact .inr (.inr (.inl rfl))
  · exact .inr (.inr (.inr rfl))

theorem isNumeralChar_of_exponent? {cs : List Char} {n : Int} (h : exponent? cs = some n) :
    ∀ c ∈ cs, IsNumeralChar c := by
  cases cs with
  | nil => simp
  | cons d cs =>
    rw [exponent?] at h
    split at h
    · rename_i he
      rw [Bool.or_eq_true, beq_iff_eq, beq_iff_eq] at he
      intro c hc
      rcases List.mem_cons.mp hc with rfl | hc
      · exact .inl (by rcases he with rfl | rfl <;> rfl)
      · exact isNumeralChar_of_integer? h c hc
    · cases h

theorem isNumeralChar_of_decimal? {cs : List Char} {x : Float} (h : decimal? cs = some x) :
    ∀ c ∈ cs, IsNumeralChar c := by
  rw [decimal?, List.span_eq_takeWhile_dropWhile] at h
  dsimp only at h
  split at h
  · cases h
  obtain ⟨n, hn, -⟩ := Option.map_eq_some_iff.mp h
  intro c hc
  rw [← List.takeWhile_append_dropWhile (p := Char.isDigit) (l := cs), List.mem_append] at hc
  rcases hc with hc | hc
  · exact isNumeralChar_of_isDigit (List.mem_takeWhile_imp hc)
  · -- after the digits there may be a point with digits, and then the exponent
    generalize cs.dropWhile Char.isDigit = after at hn hc
    unfold splitFraction at hn
    split at hn
    · rename_i after
      rw [List.span_eq_takeWhile_dropWhile] at hn
      rcases List.mem_cons.mp hc with rfl | hc
      · exact .inr (.inl rfl)
      · rw [← List.takeWhile_append_dropWhile (p := Char.isDigit) (l := after),
          List.mem_append] at hc
        rcases hc with hc | hc
        · exact isNumeralChar_of_isDigit (List.mem_takeWhile_imp hc)
        · exact isNumeralChar_of_exponent? hn c hc
    · exact isNumeralChar_of_exponent? hn c hc

theorem isNumeralChar_of_named? {cs : List Char} {x : Float} (h : named? cs = some x) :
    ∀ c ∈ cs, IsNumeralChar c := by
  have hletters {name : List Char} (hname : cs.map Char.toLower = name)
      (hall : name.all Char.isAlphanum = true) : ∀ c ∈ cs, IsNumeralChar c := by
    intro c hc
    have hmem : c.toLower ∈ name := hname ▸ List.mem_map_of_mem hc
    exact .inl (isAlphanum_of_toLower (List.all_eq_true.mp hall _ hmem))
  simp only [named?, Bool.or_eq_true, beq_iff_eq] at h
  split at h
  · rename_i hname
    rcases hname with hname | hname
    · exact hletters hname (by decide)
    · exact hletters hname (by decide)
  · split at h
    · rename_i hname
      exact hletters hname (by decide)
    · cases h

/-- A numeral holds letters, digits, signs and points only. -/
theorem isNumeralChar_of_number? {cs : List Char} {x : Float} (h : number? cs = some x) :
    ∀ c ∈ cs, IsNumeralChar c := by
  rw [number?] at h
  obtain ⟨y, hy, -⟩ := Option.map_eq_some_iff.mp h
  intro c hc
  rcases mem_splitSign hc with hc | rfl | rfl
  · rcases Option.or_eq_some_iff.mp hy with hnamed | ⟨-, hdecimal⟩
    · exact isNumeralChar_of_named? hnamed c hc
    · exact isNumeralChar_of_decimal? hdecimal c hc
  · exact .inr (.inr (.inl rfl))
  · exact .inr (.inr (.inr rfl))

end CodeHighlight.Decimal
