import CodeHighlight.Proofs.Scan.Maximal

/-!
# Proofs.Scan.Slash — what a slash begins

A slash begins a comment, a regex literal or a division.  The character after it tells comments;
between the other two the tokens before it decide (`RegexMayFollow`), however many blanks and
comments stand between them and the slash (`slash_category`).
-/

namespace CodeHighlight

/-- A slash after these tokens opens a regex literal if it opens no comment: the last of them that
is neither plain nor a comment is an operator, and the slash does not stand in a closing tag. -/
def RegexMayFollow (before : List Token) : Prop :=
  latestSignificant before = some .operator ∧ ¬ EndsUnescaped '<' (spell before)

instance (before : List Token) : Decidable (RegexMayFollow before) :=
  inferInstanceAs (Decidable (_ ∧ _))

namespace Category

/-- The category of a token that begins with a slash. -/
theorem startingAt_slash {window : Window} (hc : window.current = some '/')
    (hahead : window.ahead 0 = some '/') (significant : Option Category) :
    startingAt window significant =
      if window.ahead 1 = some '/' then .slashComment
      else if window.ahead 1 = some '*' then .blockComment
      else if slashOpensRegex window significant then .regex else .operator := by
  have hxml : window.reads 0 ['<', '!', '-', '-'] = false := by simp [Window.reads, hahead]
  have hword : isWordChar '/' = false := by decide
  have hbrace : isClosingBrace '/' = false := by decide
  have hop : isOperator '/' = true := by decide
  rw [startingAt, hc]
  simp [hxml, hword, hbrace, hop]

end Category

namespace Scanner

variable {text : String} {yielded before after : List Token} {token : Token} {s : Scanner}
  {cs : List Char}

theorem toList_text_of_operator (h : tokens text = before ++ token :: after)
    (hcat : token.category = .operator) :
    token.text.toList = (sourceFrom text before).take 1 := by
  obtain ⟨c, -, htext⟩ := text_of_operator h hcat
  rw [sourceFrom_eq_spell h, spell_cons, htext, String.toList_singleton]
  rfl

/-- Where a token begins with a slash, the scan holds what decides between a regex literal and a
division. -/
theorem Reaches.slashOpensRegex_iff (h : Reaches text yielded s) (hu : s.unread = '/' :: cs)
    (he : s.endsHere = true) :
    Category.slashOpensRegex s.window s.significantAfter = true ↔
      RegexMayFollow (yielded ++ s.pendingToken.toList) := by
  have htag := h.window_prev_eq_some_iff (d := '<') hu he (by decide) (by decide)
  rw [RegexMayFollow, ← h.significantAfter_eq, spell_append, spell_pendingToken, ← htag]
  simp [Category.slashOpensRegex]

/-- **Regex or division**: a token that begins with a slash is a comment if a second slash or a star
follows.  Otherwise it is a regex literal exactly if the tokens before it allow one, and an operator
of one character if they do not. -/
theorem slash_category (h : tokens text = before ++ token :: after)
    (hslash : token.text.toList.head? = some '/') :
    let next := (sourceFrom text before)[1]?
    (next = some '/' → token.category = .slashComment) ∧
      (next = some '*' → token.category = .blockComment) ∧
      (next ≠ some '/' → next ≠ some '*' →
        (token.category = .regex ↔ RegexMayFollow before) ∧
          (¬ RegexMayFollow before → token.category = .operator ∧ token.text = "/")) := by
  obtain ⟨yielded, s, hr, hbefore, hu, hhead, he, hcat⟩ := exists_opening h hslash (by decide)
  obtain ⟨cs, hcs⟩ := List.head?_eq_some_iff.mp hhead
  have hc := window_current_of_unread hcs
  have hregex := hr.slashOpensRegex_iff hcs he
  rw [← hbefore] at hregex
  rw [Category.startingAt_slash hc ((window_ahead_zero s).trans hc), window_ahead, hu] at hcat
  dsimp only
  refine ⟨fun hnext => ?_, fun hnext => ?_, fun hline hblock => ⟨?_, fun hnot => ?_⟩⟩
  · rw [hcat, if_pos hnext]
  · rw [hcat, hnext, if_neg (by decide), if_pos rfl]
  · rw [hcat, if_neg hline, if_neg hblock, ← hregex]
    by_cases hopens : Category.slashOpensRegex s.window s.significantAfter = true <;> simp [hopens]
  · have hop : token.category = .operator := by
      rw [hcat, if_neg hline, if_neg hblock, if_neg (mt hregex.mp hnot)]
    refine ⟨hop, String.toList_inj.mp ?_⟩
    rw [toList_text_of_operator h hop, ← hu, hcs]
    rfl

/-- A slash after an escaped `<` is no closing tag. -/
theorem slash_category_of_escaped_tag :
    let before : List Token := [⟨"\\", .operator⟩, ⟨"<", .operator⟩]
    let token : Token := ⟨"/a/", .regex⟩
    tokens "\\</a/ b" = before ++ token :: [⟨" ", .plain⟩, ⟨"b", .word⟩] ∧
      token.text.toList.head? = some '/' ∧
      (sourceFrom "\\</a/ b" before)[1]? = some 'a' ∧
      (token.category = .regex ↔ RegexMayFollow before) :=
  have h : tokens "\\</a/ b" = [⟨"\\", .operator⟩, ⟨"<", .operator⟩] ++
      ⟨"/a/", .regex⟩ :: [⟨" ", .plain⟩, ⟨"b", .word⟩] := by decide
  ⟨h, rfl, rfl, ((slash_category h rfl).2.2 (by decide) (by decide)).1⟩

end Scanner

end CodeHighlight
