import CodeHighlight.Proofs.Scan.Extent
import Mathlib.Data.List.Induction
import Mathlib.Logic.Basic

/-!
# Proofs.Scan.History — what a scan remembers of the text behind it

Beside the token under way a scan carries two facts from one token to the next: the character before
its cursor, hidden if a backslash escapes it, and the latest significant category.  Both are tied
here to the text and to the tokens given back.  Outside of comments a character is hidden exactly if
an odd number of backslashes stands before it in the text (`Reaches.window_prev_of_escapable`), with
the newline after a line comment as the only exception, because backslashes mean nothing in the
comment itself; and the category is that of the last token given back that is neither blank nor a
comment (`Reaches.lastSignificant_eq`).
-/

namespace CodeHighlight

/-! ## Escapes -/

/-- The number of backslashes that characters end with. -/
def trailingBackslashes (cs : List Char) : Nat := (cs.reverse.takeWhile (· == '\\')).length

@[simp] theorem trailingBackslashes_concat (cs : List Char) (c : Char) :
    trailingBackslashes (cs ++ [c]) = if c = '\\' then trailingBackslashes cs + 1 else 0 := by
  by_cases hc : c = '\\' <;> simp [trailingBackslashes, hc]

/-- Backslashes before another character do not count. -/
theorem trailingBackslashes_append_cons {c : Char} (hc : c ≠ '\\') (before cs : List Char) :
    trailingBackslashes (before ++ c :: cs) = trailingBackslashes (c :: cs) := by
  induction cs using List.reverseRecOn with
  | nil => simp [trailingBackslashes, hc]
  | append_singleton cs d ih =>
    rw [← List.cons_append, ← List.append_assoc, trailingBackslashes_concat,
      trailingBackslashes_concat, ih]

/-- One more character keeps the count of backslashes and the mask in step. -/
theorem masked_iff_odd {front : List Char} {prev : Option Char}
    (hprev : prev = some '\\' ↔ trailingBackslashes front % 2 = 1) (c : Char) :
    (if prev = some '\\' then none else some c) = some '\\' ↔
      trailingBackslashes (front ++ [c]) % 2 = 1 := by
  rw [trailingBackslashes_concat]
  by_cases hc : c = '\\'
  · by_cases hp : prev = some '\\'
    · have hodd := hprev.mp hp
      simp only [hp, hc, if_true, reduceCtorEq, false_iff]
      omega
    · have heven := mt hprev.mpr hp
      simp only [hp, hc, if_true, if_false, true_iff]
      omega
  · simp [hc]

/-- The character at this index is escaped: the number of backslashes directly before it is odd. -/
def EscapedAt (cs : List Char) (i : Nat) : Prop := trailingBackslashes (cs.take i) % 2 = 1

instance (cs : List Char) (i : Nat) : Decidable (EscapedAt cs i) :=
  inferInstanceAs (Decidable (_ = 1))

/-- The text ends with this character, and an even number of backslashes stands before it. -/
def EndsUnescaped (d : Char) (cs : List Char) : Prop :=
  cs.getLast? = some d ∧ ¬ EscapedAt cs (cs.length - 1)

instance (d : Char) (cs : List Char) : Decidable (EndsUnescaped d cs) :=
  inferInstanceAs (Decidable (_ ∧ ¬ trailingBackslashes _ % 2 = 1))

@[simp] theorem not_endsUnescaped_nil (d : Char) : ¬ EndsUnescaped d [] := by
  rintro ⟨hlast, -⟩
  cases hlast

@[simp] theorem endsUnescaped_concat {d : Char} {cs : List Char} {last : Char} :
    EndsUnescaped d (cs ++ [last]) ↔ last = d ∧ ¬ trailingBackslashes cs % 2 = 1 := by
  simp [EndsUnescaped, EscapedAt]

/-! ## Significance -/

/-- The category of the last token that is neither plain nor a comment. -/
def latestSignificant (tokens : List Token) : Option Category :=
  (tokens.filter (·.category.isSignificant)).getLast?.map (·.category)

@[simp] theorem latestSignificant_concat (tokens : List Token) (token : Token) :
    latestSignificant (tokens ++ [token]) =
      if token.category.isSignificant then some token.category else latestSignificant tokens := by
  by_cases hsig : token.category.isSignificant = true <;> simp [latestSignificant, hsig]

theorem Category.isEscapable_eq_true_iff {category : Category} :
    category.isEscapable = true ↔ category.isComment = false := by
  simp [isEscapable]

namespace Scanner

variable {text : String} {yielded : List Token} {s : Scanner} {c d : Char} {cs : List Char}

/-! ## The token under way -/

theorem category_begun (hu : s.unread = []) : s.begun.category = .plain := by
  have hc : s.window.current = none := by rw [window_current, hu, List.head?_nil]
  show Category.startingAt s.window s.significantAfter = .plain
  rw [Category.startingAt, hc]

/-- While no token is under way the category is that of blanks. -/
theorem Reaches.category_of_pending_empty (h : Reaches text yielded s) (hp : s.pending = "") :
    s.category = .plain := by
  cases h with
  | start => rfl
  | grown => exact absurd hp (pending_grown_ne_empty _ _)
  | opened => exact absurd hp (pending_opened_ne_empty _ _)
  | finished _ _ hu => exact category_begun hu

/-! ## The masked character -/

/-- A step that lets `c` join the token under way hides it if a backslash was seen before it. -/
theorem window_prev_of_grown (h : s.unread = c :: cs) :
    (s.grown c).window.prev =
      if s.category.isEscapable && s.window.prev == some '\\' then none else some c := by
  rw [← window_current_of_unread h]
  rfl

/-- The next step hides a character that follows a backslash which is not hidden itself. -/
theorem window_prev_grown (h : s.unread = c :: cs) (he : s.category.isEscapable = true) :
    (s.grown c).window.prev = if s.window.prev = some '\\' then none else some c := by
  rw [window_prev_of_grown h, he, Bool.true_and]
  simp only [beq_iff_eq]

theorem window_prev_opened (h : s.unread = c :: cs) :
    (s.opened c).window.prev =
      if (s.opened c).category.isEscapable && s.window.prev == some '\\' then none
      else some c := by
  rw [← window_current_of_unread h]
  rfl

/-- A test sees nothing before the cursor but the last character of the token under way. -/
theorem Reaches.getLast?_pending (h : Reaches text yielded s) (hprev : s.window.prev = some d) :
    s.pending.toList.getLast? = some d := by
  rw [h.getLast?_pending_eq]
  have hmask : (if s.category.isEscapable && s.prev == some '\\' then none else s.current) =
      some d := hprev
  split at hmask
  · cases hmask
  · exact hmask

/-- Nothing is hidden inside a comment. -/
theorem Reaches.window_prev_of_isComment (h : Reaches text yielded s)
    (hcomment : s.category.isComment = true) : s.window.prev = s.pending.toList.getLast? := by
  rw [h.getLast?_pending_eq]
  simp [window, Category.isEscapable, hcomment]

/-- A comment ends before a newline or after one of its closing characters. -/
theorem Reaches.ended_comment (h : Reaches text yielded s) (hcomment : s.category.isComment = true)
    (hu : s.unread = c :: cs) (he : s.endsHere = true) :
    ((s.category = .slashComment ∨ s.category = .hashComment) ∧ c = '\n') ∨
      ∃ front last, (last = '/' ∨ last = '>') ∧ s.pending.toList = front ++ [last] ∧
        s.window.prev = some last := by
  have hclosed {last : Char} (hprev : s.window.prev = some last) (hlast : last = '/' ∨ last = '>') :
      ∃ front last, (last = '/' ∨ last = '>') ∧ s.pending.toList = front ++ [last] ∧
        s.window.prev = some last := by
    obtain ⟨front, hfront⟩ := List.getLast?_eq_some_iff.mp (h.getLast?_pending hprev)
    exact ⟨front, last, hlast, hfront, hprev⟩
  have hc := window_current_of_unread hu
  unfold endsHere Category.endsBefore at he
  rw [hc] at he
  cases hcat : s.category with
  | xmlComment =>
    simp only [hcat, Bool.and_eq_true, beq_iff_eq] at he
    exact .inr (hclosed he.2 (.inr rfl))
  | blockComment =>
    simp only [hcat, Bool.and_eq_true, beq_iff_eq] at he
    exact .inr (hclosed he.2 (.inl rfl))
  | slashComment =>
    simp only [hcat, beq_iff_eq] at he
    exact .inl ⟨.inl rfl, he⟩
  | hashComment =>
    simp only [hcat, beq_iff_eq] at he
    exact .inl ⟨.inr rfl, he⟩
  | _ =>
    rw [hcat] at hcomment
    cases hcomment

/-- The character that a comment ends with is no backslash. -/
theorem closed_iff_odd {front : List Char} {last : Char} (hlast : last = '/' ∨ last = '>')
    (before : List Char) :
    some last = some '\\' ↔ trailingBackslashes (before ++ (front ++ [last])) % 2 = 1 := by
  have hne : last ≠ '\\' := by rcases hlast with rfl | rfl <;> decide
  rw [← List.append_assoc, trailingBackslashes_concat]
  simp [hne]

/-- Where a comment ends, no backslash does: only a newline may follow backslashes that mean
nothing. -/
theorem Reaches.backslash_iff_odd_of_ended (h : Reaches text yielded s) (hu : s.unread = c :: cs)
    (he : s.endsHere = true)
    (hcode : s.category.isComment = false → (s.window.prev = some '\\' ↔
      trailingBackslashes (spell yielded ++ s.pending.toList) % 2 = 1)) :
    ((s.category = .slashComment ∨ s.category = .hashComment) ∧ c = '\n') ∨
      (s.window.prev = some '\\' ↔
        trailingBackslashes (spell yielded ++ s.pending.toList) % 2 = 1) := by
  by_cases hcomment : s.category.isComment = true
  · refine (h.ended_comment hcomment hu he).imp_right ?_
    rintro ⟨front, last, hlast, hp, hprev⟩
    rw [hprev, hp]
    exact closed_iff_odd hlast (spell yielded)
  · exact .inr (hcode (Bool.not_eq_true _ ▸ hcomment))

/-- Outside of comments a test takes the character before the cursor for a backslash exactly if that
ends an odd number of backslashes of the text. -/
theorem Reaches.window_prev_eq_backslash_iff_odd (h : Reaches text yielded s)
    (hd : s.isDone = false) (hcat : s.category.isComment = false) :
    s.window.prev = some '\\' ↔
      trailingBackslashes (spell yielded ++ s.pending.toList) % 2 = 1 := by
  induction h with
  | start => simp [ofString, window, trailingBackslashes]
  | @grown yielded s c cs h hu _ ih =>
    have hcat' : s.category.isEscapable = true := Category.isEscapable_eq_true_iff.mpr hcat
    rw [window_prev_grown hu hcat', toList_pending_grown, ← List.append_assoc]
    exact masked_iff_odd (ih (isDone_of_unread hu) hcat) c
  | @opened yielded s c cs h hu he ih =>
    have hcat' := Category.isEscapable_eq_true_iff.mpr hcat
    rw [window_prev_opened hu, hcat', Bool.true_and, toList_pending_opened, spell_append,
      spell_pendingToken]
    simp only [beq_iff_eq]
    rcases h.backslash_iff_odd_of_ended hu he (ih (isDone_of_unread hu)) with ⟨-, rfl⟩ | hodd
    · rw [trailingBackslashes_concat]
      simp
    · exact masked_iff_odd hodd c
  | finished _ _ hu =>
    rw [isDone_begun hu] at hd
    cases hd

/-- **Escapes are backslash parity**: outside of comments a test sees the character before the
cursor unless an odd number of backslashes stands before that, wherever these stand in the text.
Only the newline after a line comment may follow backslashes that mean nothing. -/
theorem Reaches.window_prev_of_escapable (h : Reaches text yielded s)
    (hcat : s.category.isComment = false) (hp : s.pending ≠ "") {front : List Char} {last : Char}
    (hread : spell yielded ++ s.pending.toList = front ++ [last])
    (hline : s.pending = "\n" → ∀ token ∈ yielded.getLast?,
      token.category ≠ .slashComment ∧ token.category ≠ .hashComment) :
    s.window.prev = if trailingBackslashes front % 2 = 1 then none else some last := by
  cases h with
  | start => exact absurd rfl hp
  | @grown _ s c _ h hu =>
    have hcat' : s.category.isEscapable = true := Category.isEscapable_eq_true_iff.mpr hcat
    rw [toList_pending_grown, ← List.append_assoc] at hread
    obtain ⟨rfl, hlast⟩ := List.append_inj' hread rfl
    obtain ⟨rfl, -⟩ := List.cons_eq_cons.mp hlast
    rw [window_prev_grown hu hcat']
    exact if_congr (h.window_prev_eq_backslash_iff_odd (isDone_of_unread hu) hcat) rfl rfl
  | @opened yielded s c _ h hu he =>
    have hcat' := Category.isEscapable_eq_true_iff.mpr hcat
    rw [toList_pending_opened, spell_append, spell_pendingToken] at hread
    obtain ⟨rfl, hlast⟩ := List.append_inj' hread rfl
    obtain ⟨rfl, -⟩ := List.cons_eq_cons.mp hlast
    rw [window_prev_opened hu, hcat', Bool.true_and]
    simp only [beq_iff_eq]
    rcases h.backslash_iff_odd_of_ended hu he
      (h.window_prev_eq_backslash_iff_odd (isDone_of_unread hu)) with ⟨hcategory, rfl⟩ | hodd
    · have hne : s.pending ≠ "" := by
        intro hempty
        have hplain := h.category_of_pending_empty hempty
        rcases hcategory with hcategory | hcategory <;> rw [hplain] at hcategory <;> cases hcategory
      have hnot := hline rfl ⟨s.pending, s.category⟩ (by simp [pendingToken_of_ne_empty hne])
      exact absurd hcategory (not_or.mpr hnot)
    · exact if_congr hodd rfl rfl
  | finished => exact absurd rfl hp

/-- Where a token begins, a test sees the unescaped character that the text ends with there.  The
characters that comments end with and newlines are left out, because a comment hides nothing. -/
theorem Reaches.window_prev_eq_some_iff (h : Reaches text yielded s) (hu : s.unread = c :: cs)
    (he : s.endsHere = true) (hc : c ≠ '\n') (hd : d ∉ ['/', '>', '\n']) :
    s.window.prev = some d ↔ EndsUnescaped d (spell yielded ++ s.pending.toList) := by
  simp only [List.mem_cons, List.not_mem_nil, or_false, not_or] at hd
  obtain ⟨hslash, hgt, hnewline⟩ := hd
  by_cases hp : s.pending = ""
  · obtain ⟨rfl, rfl⟩ := h.eq_start hp hu
    simp [ofString, window]
  by_cases hcomment : s.category.isComment = true
  · rcases h.ended_comment hcomment hu he with ⟨-, rfl⟩ | ⟨front, last, hlast, hp, hprev⟩
    · exact absurd rfl hc
    · have hne : last ≠ d := by
        rintro rfl
        exact hlast.elim hslash hgt
      rw [hprev, hp, ← List.append_assoc, endsUnescaped_concat]
      simp [hne]
  obtain ⟨front, last, hlist⟩ := pending_eq_concat hp
  rw [hlist, ← List.append_assoc, endsUnescaped_concat]
  by_cases hlast : last = d
  · have hnewline' : s.pending ≠ "\n" := by
      intro hpending
      have hend : s.pending.toList.getLast? = some last := by rw [hlist, List.getLast?_concat]
      rw [hpending, hlast] at hend
      exact hnewline (Option.some.inj hend).symm
    rw [h.window_prev_of_escapable (Bool.not_eq_true _ ▸ hcomment) hp
      (by rw [hlist, List.append_assoc]) (fun hpending => absurd hpending hnewline')]
    by_cases hodd : trailingBackslashes (spell yielded ++ front) % 2 = 1 <;> simp [hodd, hlast]
  · refine iff_of_false (fun hprev => hlast ?_) (fun hand => hlast hand.1)
    have hd := h.getLast?_pending hprev
    simpa [hlist] using hd

/-! ## The latest significant category -/

theorem significantAfter_eq_latestSignificant (h : Reaches text yielded s)
    (hs : s.lastSignificant = latestSignificant yielded) :
    s.significantAfter = latestSignificant (yielded ++ s.pendingToken.toList) := by
  rw [significantAfter]
  by_cases hp : s.pending = ""
  · rw [h.category_of_pending_empty hp, pendingToken_of_empty hp, Option.toList_none,
      List.append_nil, hs]
    rfl
  · rw [pendingToken_of_ne_empty hp, Option.toList_some, latestSignificant_concat, hs]

/-- A scan holds the category of the last token given back that is neither plain nor a comment; the
token under way does not count. -/
theorem Reaches.lastSignificant_eq (h : Reaches text yielded s) :
    s.lastSignificant = latestSignificant yielded := by
  induction h with
  | start => rfl
  | grown _ _ _ ih => exact ih
  | opened h _ _ ih => exact significantAfter_eq_latestSignificant h ih
  | finished h _ _ ih => exact significantAfter_eq_latestSignificant h ih

theorem Reaches.significantAfter_eq (h : Reaches text yielded s) :
    s.significantAfter = latestSignificant (yielded ++ s.pendingToken.toList) :=
  significantAfter_eq_latestSignificant h h.lastSignificant_eq

end Scanner

end CodeHighlight
