import CodeHighlight.Proofs.Scan.Maximal

/-!
# Proofs.Scan.Escape — which characters a scan hides

After each step a scan holds the character before its current one, unless that is hidden, and the
characters of the token under way.  Both are read off the text here, for every state that a scan
reaches.  The token under way is the slice of the text that ends at the current character
(`Reaches.holdsSlice`).  What is hidden is told by the token that a character lies in (`tokenAt?`):
nothing is in a comment, and elsewhere an odd number of backslashes before a character hides it,
whatever tokens these stand in (`mask_of_parity`).  Only the newline behind a line comment does not
count them: one backslash at the end of the comment hides it, because nothing escapes it there.
-/

namespace CodeHighlight

/-! ## The token at a place -/

/-- The token that the character at this index of the tokens' text lies in. -/
def tokenAt? : List Token → Nat → Option Token
  | [], _ => none
  | token :: tokens, j =>
    if j < token.length then some token else tokenAt? tokens (j - token.length)

theorem tokenAt?_eq_some_iff {list : List Token} {j : Nat} {token : Token} :
    tokenAt? list j = some token ↔
      ∃ before after, list = before ++ token :: after ∧ (spell before).length ≤ j ∧
        j < (spell before).length + token.length := by
  induction list generalizing j with
  | nil => simp [tokenAt?]
  | cons first list ih =>
    have hfirst (before : List Token) :
        (spell (first :: before)).length = first.length + (spell before).length := by
      rw [spell_cons, List.length_append, String.length_toList, Token.length]
    rw [tokenAt?]
    by_cases hj : j < first.length
    · rw [if_pos hj]
      constructor
      · rintro ⟨⟩
        exact ⟨[], list, rfl, Nat.zero_le j, by simpa using hj⟩
      · rintro ⟨before, after, hsplit, hle, -⟩
        cases before with
        | nil => rw [(List.cons_eq_cons.mp hsplit).1]
        | cons first' before =>
          obtain ⟨rfl, -⟩ := List.cons_eq_cons.mp hsplit
          rw [hfirst] at hle
          omega
    · rw [if_neg hj, ih]
      constructor
      · rintro ⟨before, after, rfl, hle, hlt⟩
        refine ⟨first :: before, after, rfl, ?_, ?_⟩ <;> rw [hfirst] <;> omega
      · rintro ⟨before, after, hsplit, hle, hlt⟩
        cases before with
        | nil =>
          obtain ⟨rfl, -⟩ := List.cons_eq_cons.mp hsplit
          simp only [spell_nil, List.length_nil] at hlt
          omega
        | cons first' before =>
          obtain ⟨rfl, rfl⟩ := List.cons_eq_cons.mp hsplit
          rw [hfirst] at hle hlt
          exact ⟨before, after, rfl, by omega, by omega⟩

/-- The character at this index is the newline that a line comment ends before. -/
def EndsLineComment (text : String) (j : Nat) : Prop :=
  text.toList[j]? = some '\n' ∧ 1 ≤ j ∧ ∃ token ∈ tokenAt? (tokens text) (j - 1),
    token.category = .slashComment ∨ token.category = .hashComment

instance (text : String) (j : Nat) : Decidable (EndsLineComment text j) :=
  inferInstanceAs (Decidable (_ ∧ _ ∧ ∃ token ∈ tokenAt? (tokens text) (j - 1), _))

namespace Scanner

variable {text : String} {yielded : List Token} {s : Scanner} {c : Char} {j : Nat}

/-! ## The token under way in the text -/

/-- The token under way of a scan of `text` is the slice of the text that ends at the current
character, and its characters are counted right.  At the end of the text there is neither. -/
structure HoldsSlice (text : String) (s : Scanner) : Prop where
  count : s.pendingLength = s.pending.length
  count_le : s.pendingLength ≤ s.pos
  slice : s.pending.toList = text.toList.extract (s.pos - s.pendingLength) s.pos
  last : s.pending.toList.getLast? = s.current

theorem Reaches.holdsSlice (h : Reaches text yielded s) : HoldsSlice text s := by
  have hcount := h.pendingLength_eq
  refine ⟨by rw [hcount, String.length_toList], ?_, ?_, h.getLast?_pending_eq⟩
  · cases hd : s.isDone with
    | true => rw [hcount, h.pending_of_isDone hd]; exact Nat.zero_le _
    | false => rw [hcount, h.pos_eq hd, List.length_append]; exact Nat.le_add_left _ _
  · rw [hcount, List.extract_eq_take_drop]
    cases hd : s.isDone with
    | true => rw [h.pending_of_isDone hd]; simp
    | false =>
      have hstart : s.pos - s.pending.toList.length = (spell yielded).length := by
        rw [h.pos_eq hd, List.length_append, Nat.add_sub_cancel]
      have hlen : s.pos - (spell yielded).length = s.pending.toList.length := by
        rw [h.pos_eq hd, List.length_append, Nat.add_sub_cancel_left]
      rw [hstart, hlen, ← h.spell_eq, List.append_assoc, List.drop_left, List.take_left]

theorem Reaches.read_eq_concat (h : Reaches text yielded s) (hd : s.isDone = false)
    (hpos : s.pos = j + 1) (hc : text.toList[j]? = some c) :
    spell yielded ++ s.pending.toList = text.toList.take j ++ [c] := by
  rw [h.read_eq_take hd, hpos, List.take_add_one, hc, Option.toList_some]

theorem Reaches.pending_ne_empty (h : Reaches text yielded s) (hd : s.isDone = false)
    (hpos : s.pos = j + 1) : s.pending ≠ "" := by
  intro hp
  obtain ⟨-, rfl⟩ := h.eq_start_of_isDone hp hd
  cases hpos

/-- The token under way is the next one to be given back, with what it has by then. -/
theorem exists_rest_eq_cons (hd : s.isDone = false) (hp : s.pending ≠ "") :
    ∃ token after, s.rest.1 = token :: after ∧ token.category = s.category ∧
      s.pending.toList <+: token.text.toList := by
  induction s using step_induction with
  | done s hs =>
    rw [hs] at hd
    cases hd
  | step s hs ih =>
    have hnow : s.pendingToken.toList = [⟨s.pending, s.category⟩] := by
      rw [pendingToken_of_ne_empty hp, Option.toList_some]
    cases hu : s.unread with
    | nil => exact ⟨_, [], (rest_of_finished hs hu).trans hnow, rfl, List.prefix_rfl⟩
    | cons c cs =>
      cases he : s.endsHere with
      | true => exact ⟨_, _, by rw [rest_of_opened hu he, hnow]; rfl, rfl, List.prefix_rfl⟩
      | false =>
        rw [step_of_grown hu he] at ih
        obtain ⟨token, after, hrest, hcat, hprefix⟩ :=
          ih (isDone_grown hu) (pending_grown_ne_empty s c)
        rw [toList_pending_grown] at hprefix
        exact ⟨token, after, (rest_of_grown hu he).trans hrest, hcat,
          (List.prefix_append _ _).trans hprefix⟩

/-- The last character that has been read lies in the token under way. -/
theorem Reaches.exists_tokenAt? (h : Reaches text yielded s) (hd : s.isDone = false)
    (hpos : s.pos = j + 1) :
    ∃ token, tokenAt? (tokens text) j = some token ∧ token.category = s.category := by
  have hp := h.pending_ne_empty hd hpos
  obtain ⟨token, after, hrest, hcat, hprefix⟩ := exists_rest_eq_cons hd hp
  have hlen : s.pending.toList.length ≤ token.length := by
    rw [Token.length, ← String.length_toList]
    exact hprefix.length_le
  have hone := length_toList_pos hp
  have hread := h.pos_eq hd
  rw [hpos, List.length_append] at hread
  refine ⟨token, tokenAt?_eq_some_iff.mpr ⟨yielded, after, ?_, by omega, by omega⟩, hcat⟩
  rw [h.tokens_eq, hrest]

/-! ## What is hidden -/

/-- In a comment the character before the cursor is seen as it is. -/
theorem Reaches.window_prev_of_comment (h : Reaches text yielded s) (hpos : s.pos = j + 1)
    (hcat : s.category.isComment = true) : s.window.prev = text.toList[j]? := by
  rw [h.window_prev_of_isComment hcat, h.getLast?_pending_eq, h.current_eq hpos]

/-- Outside of comments the character before the cursor is hidden by an odd number of backslashes
before it in the text. -/
theorem Reaches.window_prev_of_parity (h : Reaches text yielded s) (hd : s.isDone = false)
    (hpos : s.pos = j + 1) (hc : text.toList[j]? = some c) (hcat : s.category.isComment = false)
    (hline : ¬ EndsLineComment text j) :
    s.window.prev = if EscapedAt text.toList j then none else some c := by
  have hread := h.read_eq_concat hd hpos hc
  refine h.window_prev_of_escapable hcat (h.pending_ne_empty hd hpos) hread ?_
  intro hnewline previous hlast
  obtain ⟨front, rfl⟩ := List.getLast?_eq_some_iff.mp hlast
  rw [← not_or]
  intro hprevious
  -- then the newline is the one that ends the token before
  have hpending : s.pending.toList = ['\n'] := by rw [hnewline]; rfl
  rw [hpending] at hread
  obtain ⟨hspell, hlast⟩ := List.append_inj' hread rfl
  obtain ⟨rfl, -⟩ := List.cons_eq_cons.mp hlast
  have hlen : j = (spell front).length + previous.length := by
    have hj : j < text.toList.length := (List.getElem?_eq_some_iff.mp hc).1
    have hlen := congrArg List.length hspell
    rw [spell_append, List.length_append, spell_cons, spell_nil, List.append_nil,
      String.length_toList, List.length_take_of_le (Nat.le_of_lt hj)] at hlen
    exact hlen.symm
  have hone : 0 < previous.length := by
    have hne := h.text_ne_empty previous (List.mem_append_right front (List.mem_singleton_self _))
    rw [Token.length, ← String.length_toList]
    exact length_toList_pos hne
  refine hline ⟨hc, by omega, previous, tokenAt?_eq_some_iff.mpr ⟨front, s.rest.1, ?_, by omega,
    by omega⟩, hprevious⟩
  rw [h.tokens_eq, List.append_assoc, List.singleton_append]

/-- The newline behind a line comment is hidden by a backslash before it, whatever stands before
that. -/
theorem Reaches.window_prev_of_endsLineComment (h : Reaches text yielded s)
    (hd : s.isDone = false) (hpos : s.pos = j + 1) (hline : EndsLineComment text j) :
    s.window.prev = if text.toList[j - 1]? = some '\\' then none else some '\n' := by
  obtain ⟨hnewline, hj, token, htoken, hcomment⟩ := hline
  obtain ⟨i, rfl⟩ : ∃ i, j = i + 1 := ⟨j - 1, by omega⟩
  rw [Nat.add_sub_cancel] at htoken ⊢
  have hcurrent : s.current = some '\n' := (h.current_eq hpos).trans hnewline
  -- the state before the newline is read, in the comment
  have hbefore {yielded : List Token} {s : Scanner} {c : Char} {cs : List Char}
      (h : Reaches text yielded s) (hu : s.unread = c :: cs) (hpos : s.pos = i + 1) :
      s.category = .slashComment ∨ s.category = .hashComment := by
    obtain ⟨token', htoken', hcat⟩ := h.exists_tokenAt? (isDone_of_unread hu) hpos
    rw [htoken, Option.some.injEq] at htoken'
    rwa [← hcat, ← htoken']
  cases h with
  | start => cases hpos
  | @grown _ s c cs h hu he =>
    have hc : s.window.current = some '\n' := hcurrent
    rw [window_current_of_unread hu, Option.some.injEq] at hc
    have hgo : s.category.continuing? = some (· != '\n') := by
      rcases hbefore h hu (Nat.succ.inj hpos) with hcat | hcat <;> rw [hcat] <;> rfl
    rw [endsHere_of_continuing hgo hu, hc] at he
    cases he
  | @opened _ s c cs h hu he =>
    have hc : s.window.current = some '\n' := hcurrent
    have hcomment' : s.category.isComment = true := by
      rcases hbefore h hu (Nat.succ.inj hpos) with hcat | hcat <;> rw [hcat] <;> rfl
    have hplain : (s.opened c).category = .plain :=
      Category.startingAt_of_isSpace hc ((window_ahead_zero s).trans hc) (by decide) _
    rw [window_current_of_unread hu, Option.some.injEq] at hc
    rw [window_prev_opened hu, hplain, h.window_prev_of_comment (Nat.succ.inj hpos) hcomment', hc]
    simp [Category.isEscapable, Category.isComment]
  | finished _ _ hu =>
    rw [isDone_begun hu] at hd
    cases hd

-- behind a line comment two backslashes hide the newline as one does
example : EndsLineComment "#\\\\\nx" 3 ∧ ¬ EscapedAt "#\\\\\nx".toList 3 ∧
    ((ofString "#\\\\\nx").calls 2).2.prev = none := by decide

/-- What a scan holds of the character before its current one is what the window of its last step
showed. -/
theorem Reaches.exists_previous (h : Reaches text yielded s) (hpos : s.pos = j + 2) :
    ∃ yielded₀ s₀, Reaches text yielded₀ s₀ ∧ s₀.isDone = false ∧ s₀.pos = j + 1 ∧
      s.prev = s₀.window.prev := by
  cases h with
  | start => cases hpos
  | grown h hu _ => exact ⟨_, _, h, isDone_of_unread hu, Nat.succ.inj hpos, rfl⟩
  | opened h hu _ => exact ⟨_, _, h, isDone_of_unread hu, Nat.succ.inj hpos, rfl⟩
  | finished h hd _ => exact ⟨_, _, h, hd, Nat.succ.inj hpos, rfl⟩

/-- **Escape masking is backslash parity**: in every state of a scan the token under way is the
slice of the text that ends at the current character.  The character before the current one is held
unless it is hidden.  In a comment it never is; elsewhere it is exactly if an odd number of
backslashes stands directly before it in the text.  The newline behind a line comment is hidden
exactly if the comment ends with a backslash. -/
theorem mask_of_parity (h : Reaches text yielded s) :
    HoldsSlice text s ∧
      ∀ j, s.pos = j + 2 → ∃ c token, text.toList[j]? = some c ∧
        tokenAt? (tokens text) j = some token ∧ s.current = text.toList[j + 1]? ∧
        (token.category.isComment = false → ¬ EndsLineComment text j →
          s.prev = if EscapedAt text.toList j then none else some c) ∧
        (token.category.isComment = true → s.prev = some c) ∧
        (EndsLineComment text j →
          s.prev = if text.toList[j - 1]? = some '\\' then none else some '\n') := by
  refine ⟨h.holdsSlice, fun j hpos => ?_⟩
  obtain ⟨yielded₀, s₀, h₀, hd, hpos₀, hprev⟩ := h.exists_previous hpos
  obtain ⟨token, htoken, hcat⟩ := h₀.exists_tokenAt? hd hpos₀
  obtain ⟨c, hc⟩ : ∃ c, text.toList[j]? = some c := by
    have hle := isDone_eq_false_iff.mp hd
    rw [← Array.length_toList, h₀.toList_chars] at hle
    exact ⟨_, List.getElem?_eq_getElem (by omega)⟩
  rw [hprev]
  refine ⟨c, token, hc, htoken, h.current_eq hpos, fun hnot hline => ?_, fun hcomment => ?_, ?_⟩
  · exact h₀.window_prev_of_parity hd hpos₀ hc (hcat ▸ hnot) hline
  · exact (h₀.window_prev_of_comment hpos₀ (hcat ▸ hcomment)).trans hc
  · exact h₀.window_prev_of_endsLineComment hd hpos₀

/-- Three backslashes behind a comment are a token each, and together they hide what follows. -/
theorem mask_of_parity_across_tokens :
    let text := "/**/\\\\\\;x"
    ∃ yielded s, Reaches text yielded s ∧ s.pos = 9 ∧ HoldsSlice text s ∧
      s.current = some 'x' ∧ tokenAt? (tokens text) 7 = some ⟨";", .operator⟩ ∧
      EscapedAt text.toList 7 ∧ s.prev = none := by
  intro text
  have h : Reaches text _ _ := Reaches.start.of_calls 5
  have hpos : ((ofString text).calls 5).2.pos = 7 + 2 := by decide
  have htoken : tokenAt? (tokens text) 7 = some ⟨";", .operator⟩ := by decide
  have hescaped : EscapedAt text.toList 7 := by decide
  have hline : ¬ EndsLineComment text 7 := by decide
  obtain ⟨hslice, hmask⟩ := mask_of_parity h
  obtain ⟨c, token, hc, htoken', hcurrent, hparity, -⟩ := hmask 7 hpos
  obtain rfl := Option.some.inj (htoken'.symm.trans htoken)
  refine ⟨_, _, h, hpos, hslice, hcurrent.trans (by decide), htoken, hescaped, ?_⟩
  rw [hparity rfl hline, if_pos hescaped]

end Scanner

end CodeHighlight
