import CodeHighlight.Proofs.Scan.History

/-!
# Proofs.Scan.Maximal — words and blanks are neither split nor glued

The next character alone tells the end of most tokens: a word goes on with word characters, a plain
token with blanks, a comment up to the end of its line with everything but a newline, and an
operator or a closing brace with nothing (`Category.continuing?`).  Such a token is one character
that its category begins with and then characters that it goes on with, and none of these stands
behind it (`exists_of_continuing`).  That no word character stands in front of a word is a fact
about all categories: where a token ends before a word character, its own last character is none
(`Reaches.isWordChar_last`).
-/

namespace CodeHighlight

/-- The characters that a token of this category goes on with, if the next character alone tells its
end. -/
def Category.continuing? : Category → Option (Char → Bool)
  | .plain => some isSpace
  | .operator | .closingBrace => some fun _ => false
  | .word => some isWordChar
  | .slashComment | .hashComment => some (· != '\n')
  | .regex | .doubleQuoted | .singleQuoted | .xmlComment | .blockComment => none

/-! ## Characters that are in no word -/

theorem isWordChar_eq_false_of_isSpace {c : Char} (h : isSpace c = true) : isWordChar c = false :=
  eq_false_of_isSpace isVisible_of_isWordChar h

theorem isWordChar_eq_false_of_isOperator {c : Char} (h : isOperator c = true) :
    isWordChar c = false := by
  have hall : operators.all (fun c => !isWordChar c) = true := by decide
  have hc := List.all_eq_true.mp hall c (by simpa [isOperator] using h)
  simpa using hc

theorem isWordChar_eq_false_of_isClosingBrace {c : Char} (h : isClosingBrace c = true) :
    isWordChar c = false := by
  simp only [isClosingBrace, Bool.or_eq_true, beq_iff_eq] at h
  rcases h with rfl | rfl <;> decide

namespace Scanner

variable {text : String} {yielded before after : List Token} {token : Token} {s : Scanner}
  {c d : Char} {cs : List Char} {goesOn : Char → Bool}

/-! ## The end of a token told by the next character -/

theorem endsHere_of_continuing (hgo : s.category.continuing? = some goesOn)
    (hu : s.unread = c :: cs) : s.endsHere = !goesOn c := by
  unfold endsHere Category.endsBefore
  rw [window_current_of_unread hu]
  cases hcat : s.category <;> rw [hcat] at hgo <;> cases hgo <;> simp [bne]

/-- All characters of the token under way but the first are ones that it goes on with. -/
theorem Reaches.tail_pending (h : Reaches text yielded s)
    (hgo : s.category.continuing? = some goesOn) :
    ∀ d ∈ s.pending.toList.tail, goesOn d = true := by
  induction h with
  | start => simp [ofString]
  | @grown yielded s c cs h hu he ih =>
    have hgo' : s.category.continuing? = some goesOn := hgo
    rw [endsHere_of_continuing hgo' hu, Bool.not_eq_false'] at he
    intro d hd
    rw [toList_pending_grown] at hd
    cases hlist : s.pending.toList with
    | nil =>
      rw [hlist] at hd
      cases hd
    | cons first front =>
      rw [hlist, List.cons_append, List.tail_cons] at hd
      rcases List.mem_append.mp hd with hd | hd
      · exact ih hgo' d (by rwa [hlist])
      · rwa [List.mem_singleton.mp hd]
  | opened => simp
  | finished => simp [begun]

theorem Reaches.pending_of_continuing (h : Reaches text yielded s)
    (hgo : s.category.continuing? = some goesOn) (hp : s.pending ≠ "") :
    ∃ window significant c cs, Begins window significant c s.category ∧
      s.pending.toList = c :: cs ∧ ∀ d ∈ cs, goesOn d = true := by
  obtain ⟨window, significant, c, hbegins, hfirst, -⟩ := h.begins hp
  obtain ⟨c', cs, hlist⟩ := List.exists_cons_of_ne_nil (mt String.toList_eq_nil_iff.mp hp)
  have hc : c' = c := by simpa [hlist] using hfirst
  have htail := h.tail_pending hgo
  rw [hlist, List.tail_cons] at htail
  exact ⟨window, significant, c, cs, hbegins, by rw [hlist, hc], htail⟩

/-- What is unread where a token is given back is the text of the tokens after it. -/
theorem exists_ending (h : tokens text = before ++ token :: after) :
    ∃ s, Reaches text before s ∧ s.endsHere = true ∧ s.pending ≠ "" ∧
      token = ⟨s.pending, s.category⟩ ∧ s.unread = spell after := by
  obtain ⟨s, hr, -, ht⟩ := exists_reaches h
  obtain ⟨he, rfl, hp⟩ := endsHere_of_step ht
  exact ⟨s, hr, he, hp, rfl, hr.unread_eq_spell h⟩

/-- A token whose end the next character tells is maximal: it goes on as long as the characters
do. -/
theorem exists_of_continuing (h : tokens text = before ++ token :: after)
    (hgo : token.category.continuing? = some goesOn) :
    ∃ window significant c cs, Begins window significant c token.category ∧
      token.text.toList = c :: cs ∧ (∀ d ∈ cs, goesOn d = true) ∧
      ∀ d ∈ (spell after).head?, goesOn d = false := by
  obtain ⟨s, hr, he, hp, rfl, hu⟩ := exists_ending h
  obtain ⟨window, significant, c, cs, hbegins, hlist, hall⟩ := hr.pending_of_continuing hgo hp
  refine ⟨window, significant, c, cs, hbegins, hlist, hall, fun d hd => ?_⟩
  obtain ⟨ds, hds⟩ := List.head?_eq_some_iff.mp hd
  rwa [endsHere_of_continuing hgo (hu.trans hds), Bool.not_eq_true'] at he

/-! ## What stands in front of a word -/

/-- Literals and comments between two marks end behind a character that closes them. -/
theorem exists_window_prev_of_closed (hclosed : s.category.continuing? = none)
    (hu : s.unread = c :: cs) (he : s.endsHere = true) :
    ∃ d, isWordChar d = false ∧ s.window.prev = some d := by
  unfold endsHere Category.endsBefore at he
  rw [window_current_of_unread hu] at he
  cases hcat : s.category with
  | regex =>
    simp only [hcat, Bool.and_eq_true, Bool.or_eq_true, beq_iff_eq] at he
    rcases he.1 with hprev | hprev
    · exact ⟨'/', by decide, hprev⟩
    · exact ⟨'\n', by decide, hprev⟩
  | doubleQuoted =>
    simp only [hcat, Bool.and_eq_true, beq_iff_eq] at he
    exact ⟨'"', by decide, he.1⟩
  | singleQuoted =>
    simp only [hcat, Bool.and_eq_true, beq_iff_eq] at he
    exact ⟨'\'', by decide, he.1⟩
  | xmlComment =>
    simp only [hcat, Bool.and_eq_true, beq_iff_eq] at he
    exact ⟨'>', by decide, he.2⟩
  | blockComment =>
    simp only [hcat, Bool.and_eq_true, beq_iff_eq] at he
    exact ⟨'/', by decide, he.2⟩
  | _ =>
    rw [hcat] at hclosed
    cases hclosed

/-- A token that goes on with no word character has none at its end, if it begins with none. -/
theorem isWordChar_getLast? (hc : isWordChar c = false) (hcs : ∀ d ∈ cs, isWordChar d = false) :
    ∀ d ∈ (c :: cs).getLast?, isWordChar d = false := by
  intro d hd
  rcases List.mem_cons.mp (List.mem_of_getLast? hd) with rfl | hd
  · exact hc
  · exact hcs d hd

/-- **Words are not glued**: where a token ends before a word character, its own last character is
none. -/
theorem Reaches.isWordChar_last (h : Reaches text yielded s) (hu : s.unread = c :: cs)
    (he : s.endsHere = true) (hc : isWordChar c = true) (hp : s.pending ≠ "") :
    ∀ d ∈ s.pending.toList.getLast?, isWordChar d = false := by
  cases hgo : s.category.continuing? with
  | none =>
    obtain ⟨last, hlast, hprev⟩ := exists_window_prev_of_closed hgo hu he
    intro d hd
    rw [h.getLast?_pending hprev] at hd
    rwa [← Option.some.inj hd]
  | some goesOn =>
    obtain ⟨_, _, first, rest, hbegins, hlist, hrest⟩ := h.pending_of_continuing hgo hp
    rw [endsHere_of_continuing hgo hu, Bool.not_eq_true'] at he
    rw [hlist]
    cases hcat : s.category with
    | plain =>
      rw [hcat] at hgo hbegins
      cases hgo
      cases hbegins with
      | plain _ _ _ hword =>
        exact isWordChar_getLast? hword fun d hd => isWordChar_eq_false_of_isSpace (hrest d hd)
    | operator =>
      rw [hcat] at hgo hbegins
      cases hgo
      cases hbegins with
      | operator hop =>
        exact isWordChar_getLast? (isWordChar_eq_false_of_isOperator hop) fun d hd =>
          absurd (hrest d hd) Bool.false_ne_true
    | closingBrace =>
      rw [hcat] at hgo hbegins
      cases hgo
      cases hbegins with
      | closingBrace hbrace =>
        exact isWordChar_getLast? (isWordChar_eq_false_of_isClosingBrace hbrace) fun d hd =>
          absurd (hrest d hd) Bool.false_ne_true
    | word =>
      rw [hcat] at hgo
      cases hgo
      rw [hc] at he
      cases he
    | slashComment | hashComment =>
      -- the newline that ends the comment is no word character
      rw [hcat] at hgo
      cases hgo
      rw [show c = '\n' by simpa using he] at hc
      cases hc
    | _ =>
      rw [hcat] at hgo
      cases hgo

/-! ## The tokens of a text -/

/-- No word character stands directly in front of a token that begins with one. -/
theorem isWordChar_getLast?_before (h : tokens text = before ++ token :: after)
    (hfirst : token.text.toList.head? = some c) (hc : isWordChar c = true) :
    ∀ d ∈ (spell before).getLast?, isWordChar d = false := by
  have hspace : isSpace c = false := by
    refine Bool.eq_false_iff.mpr fun hspace => ?_
    rw [isWordChar_eq_false_of_isSpace hspace] at hc
    cases hc
  obtain ⟨yielded, s, hr, rfl, -, hhead, he, -⟩ := exists_opening h hfirst hspace
  obtain ⟨cs, hu⟩ := List.head?_eq_some_iff.mp hhead
  intro d hd
  rw [spell_append, spell_pendingToken] at hd
  by_cases hp : s.pending = ""
  · obtain ⟨rfl, -⟩ := hr.eq_start hp hu
    rw [hp] at hd
    cases hd
  · obtain ⟨front, last, hlist⟩ := pending_eq_concat hp
    rw [hlist, ← List.append_assoc, List.getLast?_concat] at hd
    exact hr.isWordChar_last hu he hc hp d (by rwa [hlist, List.getLast?_concat])

theorem word_maximal (h : tokens text = before ++ token :: after) (hcat : token.category = .word) :
    (∀ c ∈ token.text.toList, isWordChar c = true) ∧
      (∀ c ∈ (spell before).getLast?, isWordChar c = false) ∧
      ∀ c ∈ (spell after).head?, isWordChar c = false := by
  obtain ⟨_, _, c, cs, hbegins, hlist, hcs, hend⟩ :=
    exists_of_continuing h (show token.category.continuing? = some isWordChar by rw [hcat]; rfl)
  rw [hcat] at hbegins
  cases hbegins with
  | word hc =>
    refine ⟨?_, isWordChar_getLast?_before h (by rw [hlist]; rfl) hc, hend⟩
    rw [hlist]
    exact List.forall_mem_cons.mpr ⟨hc, hcs⟩

/-- A token that begins with a word character is a word. -/
theorem category_of_isWordChar (h : tokens text = before ++ token :: after)
    (hfirst : token.text.toList.head? = some c) (hc : isWordChar c = true) :
    token.category = .word := by
  obtain ⟨s, hr, -, hp, rfl, -⟩ := exists_ending h
  obtain ⟨window, _, d, hbegins, hd, hahead⟩ := hr.begins hp
  obtain ⟨cs, hlist⟩ := List.head?_eq_some_iff.mp hfirst
  obtain rfl : c = d := by simpa [hlist] using hd
  have hne : ∀ d, isWordChar d = false → c ≠ d := by
    rintro d hd rfl
    rw [hc] at hd
    cases hd
  show s.category = .word
  generalize s.category = category at hbegins ⊢
  cases hbegins with
  | word => rfl
  | hashComment heq => exact absurd heq (hne _ (by decide))
  | slashComment heq _ => exact absurd heq (hne _ (by decide))
  | blockComment heq _ => exact absurd heq (hne _ (by decide))
  | xmlComment hreads =>
    exact absurd (Category.current_of_reads ((hahead 0).trans hd) hreads) (hne _ (by decide))
  | singleQuoted heq => exact absurd heq (hne _ (by decide))
  | doubleQuoted heq => exact absurd heq (hne _ (by decide))
  | regex heq _ _ _ => exact absurd heq (hne _ (by decide))
  | closingBrace hbrace => exact absurd rfl (hne _ (isWordChar_eq_false_of_isClosingBrace hbrace))
  | operator hop _ _ => exact absurd rfl (hne _ (isWordChar_eq_false_of_isOperator hop))
  | plain _ _ _ hword _ _ => exact absurd rfl (hne _ hword)

/-- A text of word characters is a single word. -/
theorem tokens_of_wordChars (hne : text ≠ "") (hword : ∀ c ∈ text.toList, isWordChar c = true) :
    tokens text = [⟨text, .word⟩] := by
  have hspell := spell_tokens text
  cases h : tokens text with
  | nil =>
    rw [h] at hspell
    exact absurd (String.toList_eq_nil_iff.mp hspell.symm) hne
  | cons token after =>
    rw [h, spell_cons] at hspell
    have hmem : ∀ c ∈ token.text.toList ++ spell after, isWordChar c = true := by rwa [hspell]
    have hsplit : tokens text = [] ++ token :: after := h
    obtain ⟨c, cs, hlist⟩ := exists_text_eq_cons hsplit
    have hcat : token.category = .word :=
      category_of_isWordChar hsplit (by rw [hlist]; rfl) (hmem c (by simp [hlist]))
    -- what stands behind it would be part of the word
    have hafter : spell after = [] := by
      cases hrest : spell after with
      | nil => rfl
      | cons d ds =>
        have hd := (word_maximal hsplit hcat).2.2 d (by rw [hrest]; rfl)
        rw [hmem d (by simp [hrest])] at hd
        cases hd
    rw [hafter, List.append_nil] at hspell
    obtain rfl : after = [] :=
      eq_nil_of_spell_eq (h.trans (List.singleton_append).symm) (by simpa using hspell)
    rw [← String.toList_inj.mp hspell, ← hcat]

/-- A token that goes on with nothing is one character. -/
theorem exists_singleton (h : tokens text = before ++ token :: after)
    (hgo : token.category.continuing? = some fun _ => false) :
    ∃ window significant c, Begins window significant c token.category ∧
      token.text = String.singleton c := by
  obtain ⟨window, significant, c, cs, hbegins, hlist, hcs, -⟩ := exists_of_continuing h hgo
  have hnil : cs = [] := List.eq_nil_iff_forall_not_mem.mpr fun d hd =>
    absurd (hcs d hd) Bool.false_ne_true
  refine ⟨window, significant, c, hbegins, ?_⟩
  rw [← String.toList_inj, hlist, hnil, String.toList_singleton]

theorem text_of_operator (h : tokens text = before ++ token :: after)
    (hcat : token.category = .operator) : ∃ c ∈ operators, token.text = String.singleton c := by
  obtain ⟨_, _, c, hbegins, htext⟩ := exists_singleton h (by rw [hcat]; rfl)
  rw [hcat] at hbegins
  cases hbegins with
  | operator hop => exact ⟨c, by simpa [isOperator] using hop, htext⟩

theorem text_of_closingBrace (h : tokens text = before ++ token :: after)
    (hcat : token.category = .closingBrace) : token.text = "]" ∨ token.text = ")" := by
  obtain ⟨_, _, c, hbegins, htext⟩ := exists_singleton h (by rw [hcat]; rfl)
  rw [hcat] at hbegins
  cases hbegins with
  | closingBrace hbrace =>
    simp only [isClosingBrace, Bool.or_eq_true, beq_iff_eq] at hbrace
    rcases hbrace with rfl | rfl
    · exact .inl htext
    · exact .inr htext

theorem plain_maximal (h : tokens text = before ++ token :: after)
    (hcat : token.category = .plain) :
    ∃ c cs, token.text.toList = c :: cs ∧ (∀ d ∈ cs, isSpace d = true) ∧
      (∀ d ∈ (spell after).head?, isSpace d = false) ∧
      (isWordChar c = false ∧ c ∉ ['"', '\'', '#', ']', ')'] ∧ c ∉ operators) ∧
      (isSpace c = true → ∀ previous ∈ before.getLast?, previous.category ≠ .plain) := by
  obtain ⟨_, _, c, cs, hbegins, hlist, hcs, hend⟩ :=
    exists_of_continuing h (show token.category.continuing? = some isSpace by rw [hcat]; rfl)
  rw [hcat] at hbegins
  cases hbegins with
  | plain hhash hsingle hdouble hword hbrace hop =>
    refine ⟨c, cs, hlist, hcs, hend, ⟨hword, ?_, by simpa [isOperator] using hop⟩, ?_⟩
    · simp only [isClosingBrace, Bool.or_eq_false_iff, beq_eq_false_iff_ne] at hbrace
      simp [hhash, hsingle, hdouble, hbrace]
    · -- the token before would have gone on with the blank
      intro hspace previous hlast hprevious
      obtain ⟨front, rfl⟩ := List.getLast?_eq_some_iff.mp hlast
      rw [List.append_assoc, List.singleton_append] at h
      have hgo : previous.category.continuing? = some isSpace := by rw [hprevious]; rfl
      obtain ⟨_, _, _, _, -, -, -, hnext⟩ := exists_of_continuing h hgo
      rw [hnext c (by rw [spell_cons, hlist]; rfl)] at hspace
      cases hspace

/-- **Words and blanks are neither split nor glued.**  A word consists of word characters, with none
directly before or behind it.  An operator and a closing brace are one such character each.  A plain
token is one character and the blanks after it, and no blank stands behind it; its first character
begins no other token, and if it is a blank, then no plain token stands before. -/
theorem tokens_maximal (h : tokens text = before ++ token :: after) :
    (token.category = .word →
      (∀ c ∈ token.text.toList, isWordChar c = true) ∧
        (∀ c ∈ (spell before).getLast?, isWordChar c = false) ∧
        ∀ c ∈ (spell after).head?, isWordChar c = false) ∧
    (token.category = .operator → ∃ c ∈ operators, token.text = String.singleton c) ∧
    (token.category = .closingBrace → token.text = "]" ∨ token.text = ")") ∧
    (token.category = .plain →
      ∃ c cs, token.text.toList = c :: cs ∧ (∀ d ∈ cs, isSpace d = true) ∧
        (∀ d ∈ (spell after).head?, isSpace d = false) ∧
        (isWordChar c = false ∧ c ∉ ['"', '\'', '#', ']', ')'] ∧ c ∉ operators) ∧
        (isSpace c = true → ∀ previous ∈ before.getLast?, previous.category ≠ .plain)) :=
  ⟨word_maximal h, text_of_operator h, text_of_closingBrace h, plain_maximal h⟩

/-- A word behind a comment, and the next-line control, which is no blank, between blanks. -/
theorem tokens_maximal_around_next_line :
    let before : List Token := [⟨"/*a*/", .blockComment⟩]
    let word : Token := ⟨"$x_1", .word⟩
    let blank : Token := ⟨" ", .plain⟩
    let plain : Token := ⟨"\u0085\u00A0\uFEFF", .plain⟩
    let after : List Token := [⟨"]", .closingBrace⟩]
    tokens "/*a*/$x_1 \u0085\u00A0\uFEFF]" = before ++ word :: blank :: plain :: after ∧
      (word.category = .word → (∀ c ∈ word.text.toList, isWordChar c = true) ∧
        (∀ c ∈ (spell before).getLast?, isWordChar c = false) ∧
        ∀ c ∈ (spell (blank :: plain :: after)).head?, isWordChar c = false) ∧
      (plain.category = .plain → ∃ c cs, plain.text.toList = c :: cs ∧
        (∀ d ∈ cs, isSpace d = true) ∧ (∀ d ∈ (spell after).head?, isSpace d = false) ∧
        (isWordChar c = false ∧ c ∉ ['"', '\'', '#', ']', ')'] ∧ c ∉ operators) ∧
        (isSpace c = true →
          ∀ previous ∈ (before ++ [word, blank]).getLast?, previous.category ≠ .plain)) :=
  have h : tokens "/*a*/$x_1 \u0085\u00A0\uFEFF]" = [⟨"/*a*/", .blockComment⟩] ++
      ⟨"$x_1", .word⟩ :: [⟨" ", .plain⟩, ⟨"\u0085\u00A0\uFEFF", .plain⟩, ⟨"]", .closingBrace⟩] := by
    decide
  have h' : tokens "/*a*/$x_1 \u0085\u00A0\uFEFF]" =
      [⟨"/*a*/", .blockComment⟩, ⟨"$x_1", .word⟩, ⟨" ", .plain⟩] ++
        ⟨"\u0085\u00A0\uFEFF", .plain⟩ :: [⟨"]", .closingBrace⟩] := h
  ⟨h, (tokens_maximal h).1, (tokens_maximal h').2.2.2⟩

end Scanner

end CodeHighlight
