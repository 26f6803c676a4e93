import CodeHighlight.Text.Blank
import Mathlib.Data.List.TakeWhile

/-!
# Proofs.Text.Trim — what is left of a text without the blanks at its ends

`IsTrimmed` says what it is to be a text without the blanks at its ends, and `trim` finds it
(`isTrimmed_trim`).  Blanks around a word without blanks are trimmed away whole (`trim_append`).
-/

namespace CodeHighlight.Text

/-- `inner` is what is left of `cs` without the blanks at either end. -/
structure IsTrimmed (cs inner : List Char) : Prop where
  split : ∃ front back, cs = front ++ inner ++ back ∧ (∀ c ∈ front, isBlank c = true) ∧
    ∀ c ∈ back, isBlank c = true
  first : ∀ c ∈ inner.head?, isBlank c = false
  last : ∀ c ∈ inner.getLast?, isBlank c = false

theorem exists_trimStart (cs : List Char) :
    ∃ front, cs = front ++ trimStart cs ∧ ∀ c ∈ front, isBlank c = true :=
  ⟨cs.takeWhile isBlank, List.takeWhile_append_dropWhile.symm,
    fun _ hc => List.mem_takeWhile_imp hc⟩

theorem exists_trimEnd (cs : List Char) :
    ∃ back, cs = trimEnd cs ++ back ∧ ∀ c ∈ back, isBlank c = true := by
  obtain ⟨front, hsplit, hfront⟩ := exists_trimStart cs.reverse
  refine ⟨front.reverse, ?_, fun c hc => hfront c (List.mem_reverse.mp hc)⟩
  rw [trimEnd, ← List.reverse_append, ← hsplit, List.reverse_reverse]

theorem isBlank_head_trimStart (cs : List Char) :
    ∀ c ∈ (trimStart cs).head?, isBlank c = false := by
  intro c hc
  have hnot := List.head?_dropWhile_not isBlank cs
  rw [trimStart] at hc
  rw [hc] at hnot
  simpa using hnot

theorem trimStart_eq_self {cs : List Char} (h : ∀ c ∈ cs.head?, isBlank c = false) :
    trimStart cs = cs := by
  cases cs with
  | nil => rfl
  | cons c cs => exact List.dropWhile_cons_of_neg (by simp [h c rfl])

theorem trimEnd_eq_self {cs : List Char} (h : ∀ c ∈ cs.getLast?, isBlank c = false) :
    trimEnd cs = cs := by
  rw [trimEnd, trimStart_eq_self (by rwa [List.head?_reverse]), List.reverse_reverse]

/-- What is trimmed at the end still begins as before, unless nothing is left. -/
theorem head_trimEnd {cs : List Char} {c : Char} (h : c ∈ (trimEnd cs).head?) : c ∈ cs.head? := by
  obtain ⟨back, hsplit, -⟩ := exists_trimEnd cs
  rw [hsplit, List.head?_append, Option.mem_def.mp h]
  rfl

/-- Trimming a text gives what is left of it without the blanks at its ends. -/
theorem isTrimmed_trim (cs : List Char) : IsTrimmed cs (trim cs) := by
  obtain ⟨front, hfront, hblank⟩ := exists_trimStart cs
  obtain ⟨back, hback, hblank'⟩ := exists_trimEnd (trimStart cs)
  refine ⟨⟨front, back, ?_, hblank, hblank'⟩, fun c hc => ?_, fun c hc => ?_⟩
  · rw [trim, List.append_assoc, ← hback, ← hfront]
  · exact isBlank_head_trimStart cs c (head_trimEnd hc)
  · rw [trim, trimEnd, List.getLast?_reverse] at hc
    exact isBlank_head_trimStart _ c hc

theorem trimStart_append {front : List Char} (h : ∀ c ∈ front, isBlank c = true) (cs : List Char) :
    trimStart (front ++ cs) = trimStart cs := List.dropWhile_append_of_pos h

theorem trimEnd_append {back : List Char} (h : ∀ c ∈ back, isBlank c = true) (cs : List Char) :
    trimEnd (cs ++ back) = trimEnd cs := by
  rw [trimEnd, trimEnd, List.reverse_append,
    trimStart_append fun c hc => h c (List.mem_reverse.mp hc)]

theorem trim_eq_self {cs : List Char} (hfirst : ∀ c ∈ cs.head?, isBlank c = false)
    (hlast : ∀ c ∈ cs.getLast?, isBlank c = false) : trim cs = cs := by
  rw [trim, trimStart_eq_self hfirst, trimEnd_eq_self hlast]

/-- Blanks around a word without blanks are trimmed away. -/
theorem trim_append {front word back : List Char} (hfront : ∀ c ∈ front, isBlank c = true)
    (hback : ∀ c ∈ back, isBlank c = true) (hword : ∀ c ∈ word, isBlank c = false) :
    trim (front ++ word ++ back) = word := by
  by_cases hne : word = []
  · rw [hne, List.append_nil, trim, trimStart_append hfront,
      trimStart, List.dropWhile_eq_nil_iff.mpr hback]
    rfl
  · have hstart : trimStart (word ++ back) = word ++ back := by
      refine trimStart_eq_self fun c hc => ?_
      obtain ⟨d, ds, rfl⟩ := List.exists_cons_of_ne_nil hne
      obtain rfl : d = c := Option.some.inj hc
      exact hword d List.mem_cons_self
    rw [trim, List.append_assoc, trimStart_append hfront, hstart, trimEnd_append hback,
      trimEnd_eq_self fun c hc => hword c (List.mem_of_getLast? hc)]

end CodeHighlight.Text
