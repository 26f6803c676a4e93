import CodeHighlight.Proofs.Scan.Run

/-!
# Proofs.Scan.Lossless — a scan loses nothing and makes nothing up

Whenever a scan is stopped, the tokens it has given back, the token under way and the characters it
has not read make up its text (`Reaches.spell_eq`), and no token it has given back is empty
(`Reaches.text_ne_empty`).  `calls_account` says so of any number of calls of `next?`, and that
these answer with the tokens of the text, one after another, and with none from then on.
-/

namespace CodeHighlight

namespace Scanner

variable {text : String} {yielded : List Token} {s : Scanner}

/-! ## What holds in every state -/

/-- **Losslessness**: the tokens given back, the token under way and the unread characters make up
the text. -/
theorem Reaches.spell_eq (h : Reaches text yielded s) :
    spell yielded ++ s.pending.toList ++ s.unread = text.toList := by
  induction h with
  | start => simp [ofString, unread]
  | grown _ hu _ ih =>
    rw [← ih, hu]
    simp [hu]
  | opened _ hu _ ih =>
    rw [← ih, hu]
    simp [hu]
  | @finished yielded s _ _ hu ih =>
    have hp : s.begun.pending = "" := rfl
    rw [← ih, hu, hp]
    simp [hu]

theorem Reaches.toList_chars (h : Reaches text yielded s) : s.chars.toList = text.toList := by
  induction h with
  | start => rfl
  | grown _ _ _ ih => exact ih
  | opened _ _ _ ih => exact ih
  | finished _ _ _ ih => exact ih

/-- The current character is the last one that has been read, and none at the end of the text. -/
theorem Reaches.current_eq (h : Reaches text yielded s) {j : Nat} (hpos : s.pos = j + 1) :
    s.current = text.toList[j]? := by
  have hwindow {yielded : List Token} {s : Scanner} (h : Reaches text yielded s)
      (hpos : s.pos + 1 = j + 1) : s.window.current = text.toList[j]? := by
    obtain rfl := Nat.succ.inj hpos
    rw [← h.toList_chars, Array.getElem?_toList]
    rfl
  cases h with
  | start => cases hpos
  | grown h _ _ => exact hwindow h hpos
  | opened h _ _ => exact hwindow h hpos
  | finished h _ _ => exact hwindow h hpos

/-- The token under way ends with the current character. -/
theorem Reaches.getLast?_pending_eq (h : Reaches text yielded s) :
    s.pending.toList.getLast? = s.current := by
  cases h with
  | start => rfl
  | grown _ hu _ => rw [current_grown hu, toList_pending_grown, List.getLast?_concat]
  | opened _ hu _ =>
    rw [current_opened hu, toList_pending_opened]
    rfl
  | finished _ _ hu =>
    rw [current_begun hu]
    rfl

/-- The cursor stands behind the characters that have been read. -/
theorem Reaches.pos_eq (h : Reaches text yielded s) (hd : s.isDone = false) :
    s.pos = (spell yielded ++ s.pending.toList).length := by
  have htotal := congrArg List.length (h.spell_eq.trans h.toList_chars.symm)
  have hrest : s.unread.length = s.chars.toList.length - s.pos := List.length_drop
  have hle : s.pos ≤ s.chars.toList.length := isDone_eq_false_iff.mp hd
  rw [List.length_append] at htotal
  omega

/-- The characters that have been read are those before the cursor. -/
theorem Reaches.read_eq_take (h : Reaches text yielded s) (hd : s.isDone = false) :
    spell yielded ++ s.pending.toList = text.toList.take s.pos := by
  rw [h.pos_eq hd, ← h.spell_eq, List.take_left]

theorem text_ne_empty_of_mem_pendingToken {token : Token} (h : token ∈ s.pendingToken.toList) :
    token.text ≠ "" := by
  obtain ⟨rfl, hne⟩ := mem_pendingToken (Option.mem_toList.mp h)
  exact hne

theorem Reaches.text_ne_empty (h : Reaches text yielded s) :
    ∀ token ∈ yielded, token.text ≠ "" := by
  induction h with
  | start => simp
  | grown _ _ _ ih => exact ih
  | opened _ _ _ ih =>
    intro token ht
    exact (List.mem_append.mp ht).elim (ih token) text_ne_empty_of_mem_pendingToken
  | finished _ _ _ ih =>
    intro token ht
    exact (List.mem_append.mp ht).elim (ih token) text_ne_empty_of_mem_pendingToken

theorem Reaches.pendingLength_eq (h : Reaches text yielded s) :
    s.pendingLength = s.pending.toList.length := by
  induction h with
  | start => rfl
  | grown _ _ _ ih => simpa [Scanner.grown] using ih
  | opened => simp [Scanner.opened]
  | finished => rfl

theorem unread_of_isDone (h : s.isDone = true) : s.unread = [] := by
  have hpos : ¬ s.pos ≤ s.chars.size := by
    rw [← isDone_eq_false_iff, h]
    simp
  exact List.drop_eq_nil_of_le (by rw [Array.length_toList]; omega)

/-- A scan at its end has no token under way. -/
theorem Reaches.pending_of_isDone (h : Reaches text yielded s) (hs : s.isDone = true) :
    s.pending = "" := by
  cases h with
  | start => rfl
  | grown _ hu _ => exact absurd hs (by simp [isDone_grown hu])
  | opened _ hu _ => exact absurd hs (by simp [isDone_opened hu])
  | finished => rfl

/-! ## All tokens of a text -/

theorem reaches_rest (text : String) :
    Reaches text (tokens text) (ofString text).rest.2 := Reaches.start.of_rest

/-- The tokens of a text make it up. -/
theorem spell_tokens (text : String) : spell (tokens text) = text.toList := by
  have hend := reaches_rest text
  have hdone := isDone_rest (ofString text)
  have hspell := hend.spell_eq
  rw [hend.pending_of_isDone hdone, unread_of_isDone hdone] at hspell
  simpa using hspell

/-- Where a token is about to be given back, the text of the tokens after it is unread. -/
theorem Reaches.unread_eq_spell {after : List Token} (h : Reaches text yielded s)
    (htokens : tokens text = yielded ++ ⟨s.pending, s.category⟩ :: after) :
    s.unread = spell after := by
  have hspell := h.spell_eq
  rw [← spell_tokens text, htokens, spell_append, spell_cons, List.append_assoc] at hspell
  exact List.append_cancel_left (List.append_cancel_left hspell)

theorem text_ne_empty_of_mem_tokens {token : Token} (h : token ∈ tokens text) :
    token.text ≠ "" := (reaches_rest text).text_ne_empty token h

theorem exists_text_eq_cons {before after : List Token} {token : Token}
    (h : tokens text = before ++ token :: after) : ∃ c cs, token.text.toList = c :: cs := by
  have hmem : token ∈ tokens text := by
    rw [h]
    exact List.mem_append_right before List.mem_cons_self
  have hne := text_ne_empty_of_mem_tokens hmem
  exact List.exists_cons_of_ne_nil (mt String.toList_eq_nil_iff.mp hne)

end Scanner

/-- Tokens that are not empty are no more than their characters. -/
theorem length_le_length_spell {tokens : List Token} (h : ∀ token ∈ tokens, token.text ≠ "") :
    tokens.length ≤ (spell tokens).length := by
  induction tokens with
  | nil => exact Nat.le_refl 0
  | cons token tokens ih =>
    have hpos := length_toList_pos (h token List.mem_cons_self)
    have htail := ih fun token ht => h token (List.mem_cons_of_mem _ ht)
    rw [spell_cons, List.length_append, List.length_cons]
    omega

namespace Scanner

/-! ## Calls of `next?` -/

/-- What a number of calls of `next?` answer, and the scan after them. -/
def calls : Nat → Scanner → List (Option Token) × Scanner
  | 0, s => ([], s)
  | count + 1, s =>
    let later := calls count s.next?.2
    (s.next?.1 :: later.1, later.2)

theorem Reaches.of_calls (h : Reaches text yielded s) (count : Nat) :
    Reaches text (yielded ++ (s.calls count).1.filterMap id) (s.calls count).2 := by
  induction count generalizing yielded s with
  | zero => simpa [calls] using h
  | succ count ih =>
    have hrest := ih h.of_next?
    cases ht : s.next?.1 <;> simpa [calls, ht] using hrest

/-- The calls answer with the tokens that are left, one after another, and with none after those. -/
theorem calls_eq_getElem? (s : Scanner) (count : Nat) :
    (s.calls count).1 = (List.range count).map fun i => s.rest.1[i]? := by
  induction count generalizing s with
  | zero => rfl
  | succ count ih =>
    have hanswers := ih s.next?.2
    rw [List.range_succ_eq_map, List.map_cons, List.map_map, calls, hanswers, rest_eq_next? s]
    cases ht : s.next?.1 with
    | none =>
      rw [rest_of_isDone (isDone_of_next?_none ht)]
      rfl
    | some token => rfl

/-- After any number of calls the tokens given back, the token under way and the unread characters
make up the text, and no token is empty.  The calls answer with the tokens of the text, which are at
most as many as its characters and make it up, and with none from then on. -/
theorem calls_account (text : String) :
    (∀ count : Nat,
      let (answers, s) := (ofString text).calls count
      String.join ((answers.filterMap id).map (·.text)) ++ s.pending ++ String.ofList s.unread =
          text ∧
        ∀ token, some token ∈ answers → token.text ≠ "") ∧
      (tokens text).length ≤ text.length ∧
      (∀ count : Nat, ((ofString text).calls count).1 =
        (List.range count).map fun i => (tokens text)[i]?) ∧
      String.join ((tokens text).map (·.text)) = text := by
  refine ⟨fun count => ?_, ?_, fun count => calls_eq_getElem? _ count, ?_⟩
  · have hreach := (Reaches.start : Reaches text [] _).of_calls count
    refine ⟨?_, fun token ht => ?_⟩
    · rw [← String.toList_inj]
      simpa [spell, List.flatMap_map] using hreach.spell_eq
    · exact hreach.text_ne_empty token (by simpa using ht)
  · rw [← String.length_toList, ← spell_tokens]
    exact length_le_length_spell fun token ht => text_ne_empty_of_mem_tokens ht
  · rw [← String.toList_inj]
    simpa [spell, List.flatMap_map] using spell_tokens text

end Scanner

end CodeHighlight
