import CodeHighlight.Window

/-!
# Proofs.Scan.Beginning — what tokens begin with

`Begins` lists what a window shows where a token of each category begins, and
`Category.begins_startingAt` says that it lists all.  Everything but a plain token begins with a
visible ASCII character, and no blank is one; so a blank begins a plain token wherever it stands
(`Category.startingAt_of_isSpace`).
-/

namespace CodeHighlight

/-! ## Visible characters and blanks -/

/-- The visible ASCII characters, from `!` to `~`. -/
def isVisible (c : Char) : Bool := 33 ≤ c.toNat && c.toNat ≤ 126

theorem isVisible_of_isWordChar {c : Char} (h : isWordChar c = true) : isVisible c = true := by
  have hranges : isWordChar c = (decide ('A'.val ≤ c.val ∧ c.val ≤ 'Z'.val) ||
      ('a'.val ≤ c.val && c.val ≤ 'z'.val) || ('0'.val ≤ c.val && c.val ≤ '9'.val) ||
      c == '_' || c == '$') := rfl
  rw [hranges] at h
  simp only [Bool.or_eq_true, Bool.and_eq_true, decide_eq_true_eq, beq_iff_eq,
    UInt32.le_iff_toNat_le] at h
  have hval : c.toNat = c.val.toNat := rfl
  rcases h with (((h | h) | h) | rfl) | rfl
  · simp [isVisible] at h ⊢
    omega
  · simp [isVisible] at h ⊢
    omega
  · simp [isVisible] at h ⊢
    omega
  · decide
  · decide

theorem isVisible_of_isOperator {c : Char} (h : isOperator c = true) : isVisible c = true := by
  have hall : operators.all isVisible = true := by decide
  exact List.all_eq_true.mp hall c (by simpa [isOperator] using h)

theorem isVisible_of_isClosingBrace {c : Char} (h : isClosingBrace c = true) :
    isVisible c = true := by
  simp only [isClosingBrace, Bool.or_eq_true, beq_iff_eq] at h
  rcases h with rfl | rfl <;> decide

theorem isVisible_eq_false_of_isSpace {c : Char} (h : isSpace c = true) : isVisible c = false := by
  simp [isSpace, Text.isBlank, Text.inRanges, Text.blankRanges] at h
  rcases h with ⟨h, -⟩ | rfl
  · rw [isVisible, Bool.and_eq_false_iff, decide_eq_false_iff_not, decide_eq_false_iff_not]
    omega
  · decide

/-- No blank is in a class of visible characters. -/
theorem eq_false_of_isSpace {c : Char} {p : Char → Bool}
    (hvisible : ∀ {c}, p c = true → isVisible c = true) (h : isSpace c = true) : p c = false := by
  refine Bool.eq_false_iff.mpr fun hp => ?_
  have htrue := hvisible hp
  rw [isVisible_eq_false_of_isSpace h] at htrue
  cases htrue

/-! ## The first character of a token -/

/-- What is seen where a token of a category begins: its first character is `c`, and no rule that
comes before the one for its category applies. -/
inductive Begins (window : Window) (significant : Option Category) (c : Char) : Category → Prop
  | hashComment : c = '#' → Begins window significant c .hashComment
  | slashComment : c = '/' → window.ahead 1 = some '/' → Begins window significant c .slashComment
  | blockComment : c = '/' → window.ahead 1 = some '*' → Begins window significant c .blockComment
  | xmlComment : window.reads 0 ['<', '!', '-', '-'] = true →
      Begins window significant c .xmlComment
  | singleQuoted : c = '\'' → Begins window significant c .singleQuoted
  | doubleQuoted : c = '"' → Begins window significant c .doubleQuoted
  | regex : c = '/' → window.ahead 1 ≠ some '/' → window.ahead 1 ≠ some '*' →
      Category.slashOpensRegex window significant = true → Begins window significant c .regex
  | word : isWordChar c = true → Begins window significant c .word
  | closingBrace : isClosingBrace c = true → Begins window significant c .closingBrace
  | operator : isOperator c = true → window.reads 0 ['<', '!', '-', '-'] = false →
      (c = '/' → window.ahead 1 ≠ some '/' ∧ window.ahead 1 ≠ some '*' ∧
        Category.slashOpensRegex window significant = false) →
      Begins window significant c .operator
  | plain : c ≠ '#' → c ≠ '\'' → c ≠ '"' → isWordChar c = false → isClosingBrace c = false →
      isOperator c = false → Begins window significant c .plain

namespace Category

variable {window : Window} {c : Char}

theorem begins_startingAt (hc : window.current = some c) (significant : Option Category) :
    Begins window significant c (startingAt window significant) := by
  unfold startingAt
  rw [hc]
  dsimp only
  -- the tests in their order
  by_cases hhash : (c == '#') = true
  · rw [if_pos hhash]
    exact .hashComment (eq_of_beq hhash)
  rw [if_neg hhash]
  by_cases hslash : (c == '/' && window.ahead 1 == some '/') = true
  · rw [if_pos hslash]
    obtain ⟨h₀, h₁⟩ := Bool.and_eq_true_iff.mp hslash
    exact .slashComment (eq_of_beq h₀) (eq_of_beq h₁)
  rw [if_neg hslash]
  by_cases hblock : (c == '/' && window.ahead 1 == some '*') = true
  · rw [if_pos hblock]
    obtain ⟨h₀, h₁⟩ := Bool.and_eq_true_iff.mp hblock
    exact .blockComment (eq_of_beq h₀) (eq_of_beq h₁)
  rw [if_neg hblock]
  by_cases hxml : window.reads 0 ['<', '!', '-', '-'] = true
  · rw [if_pos hxml]
    exact .xmlComment hxml
  rw [if_neg hxml]
  by_cases hsingle : (c == '\'') = true
  · rw [if_pos hsingle]
    exact .singleQuoted (eq_of_beq hsingle)
  rw [if_neg hsingle]
  by_cases hdouble : (c == '"') = true
  · rw [if_pos hdouble]
    exact .doubleQuoted (eq_of_beq hdouble)
  rw [if_neg hdouble]
  simp only [Bool.and_eq_true, beq_iff_eq, not_and] at hhash hslash hblock hsingle hdouble
  by_cases hregex : (c == '/' && slashOpensRegex window significant) = true
  · rw [if_pos hregex]
    obtain ⟨h₀, h₁⟩ := Bool.and_eq_true_iff.mp hregex
    have hc := eq_of_beq h₀
    exact .regex hc (hslash hc) (hblock hc) h₁
  rw [if_neg hregex]
  by_cases hword : isWordChar c = true
  · rw [if_pos hword]
    exact .word hword
  rw [if_neg hword]
  by_cases hbrace : isClosingBrace c = true
  · rw [if_pos hbrace]
    exact .closingBrace hbrace
  rw [if_neg hbrace]
  simp only [Bool.and_eq_true, beq_iff_eq, not_and, Bool.not_eq_true] at hregex hword hbrace hxml
  by_cases hop : isOperator c = true
  · rw [if_pos hop]
    exact .operator hop hxml fun h => ⟨hslash h, hblock h, hregex h⟩
  · rw [if_neg hop]
    exact .plain hhash hsingle hdouble hword hbrace (Bool.not_eq_true _ ▸ hop)

theorem current_of_reads {d : Char} {cs : List Char} (hahead : window.ahead 0 = some c)
    (h : window.reads 0 (d :: cs) = true) : c = d := by
  have h₀ := eq_of_beq (Bool.and_eq_true_iff.mp h).1
  rwa [hahead, Option.some.injEq] at h₀

/-- Every token that is not plain begins with a visible character. -/
theorem isVisible_of_begins {significant : Option Category} {category : Category}
    (hahead : window.ahead 0 = some c) (h : Begins window significant c category)
    (hne : category ≠ .plain) : isVisible c = true := by
  cases h with
  | hashComment hc => rw [hc]; decide
  | slashComment hc => rw [hc]; decide
  | blockComment hc => rw [hc]; decide
  | xmlComment hreads => rw [current_of_reads hahead hreads]; decide
  | singleQuoted hc => rw [hc]; decide
  | doubleQuoted hc => rw [hc]; decide
  | regex hc => rw [hc]; decide
  | word hword => exact isVisible_of_isWordChar hword
  | closingBrace hbrace => exact isVisible_of_isClosingBrace hbrace
  | operator hop => exact isVisible_of_isOperator hop
  | plain => exact absurd rfl hne

/-- Two windows tell the same category if they agree on what its tests look at.  The second
character counts only after a slash, and the latest significant category only where it lets a slash
open a regex literal. -/
theorem startingAt_congr {window window' : Window} {significant significant' : Option Category}
    (hc : window.current = window'.current)
    (hnext : window.current = some '/' → window.ahead 1 = window'.ahead 1)
    (hxml : window.reads 0 ['<', '!', '-', '-'] = window'.reads 0 ['<', '!', '-', '-'])
    (hregex : slashOpensRegex window significant = slashOpensRegex window' significant') :
    startingAt window significant = startingAt window' significant' := by
  unfold startingAt
  rw [hxml, hregex, ← hc]
  cases hcurrent : window.current with
  | none => rfl
  | some c =>
    by_cases hslash : c = '/'
    · rw [hnext (by rw [hcurrent, hslash])]
    · simp [hslash]

/-- A blank begins a plain token, whatever is around it. -/
theorem startingAt_of_isSpace (hc : window.current = some c) (hahead : window.ahead 0 = some c)
    (hspace : isSpace c = true) (significant : Option Category) :
    startingAt window significant = .plain := by
  by_cases hne : startingAt window significant = .plain
  · exact hne
  · have hvisible := isVisible_of_begins hahead (begins_startingAt hc significant) hne
    rw [isVisible_eq_false_of_isSpace hspace] at hvisible
    cases hvisible

end Category

end CodeHighlight
