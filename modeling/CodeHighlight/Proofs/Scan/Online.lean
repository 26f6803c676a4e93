import CodeHighlight.Proofs.Scan.Extent

/-!
# Proofs.Scan.Online — text that is not there yet

A scan of a text and a scan of the same text with more behind it go through the same states, up to
the characters that are unread (`extend`), as long as no test has looked beyond the end of the
shorter one (`Reaches.extend`).  The tests look at most three characters ahead, so a token with
three characters behind it is settled: text that arrives later changes neither it nor any token
before it (`settled_prefix`).
-/

namespace CodeHighlight

/-- The tests on the beginning of a token do not look beyond these characters: there are four of
them, or one that no test waits for. -/
def SeesEnough (cs : List Char) : Prop := 4 ≤ cs.length ∨ ∃ c ∈ cs, isOperator c = false

/-- More text behind does not change a prefix that fits, or one that the text has left already. -/
theorem prefix_append_iff {front cs : List Char}
    (h : front.length ≤ cs.length ∨ ∃ c ∈ cs, c ∉ front) (more : List Char) :
    front <+: cs ++ more ↔ front <+: cs := by
  refine ⟨fun hfront => ?_, fun hfront => hfront.trans (List.prefix_append cs more)⟩
  by_cases hlen : front.length ≤ cs.length
  · exact List.prefix_of_prefix_length_le hfront (List.prefix_append cs more) hlen
  · obtain ⟨c, hmem, hnot⟩ := h.resolve_left hlen
    have hcs : cs <+: front :=
      List.prefix_of_prefix_length_le (List.prefix_append cs more) hfront (by omega)
    exact absurd (hcs.subset hmem) hnot

namespace Scanner

variable {text : String} {yielded : List Token} {s : Scanner} {c : Char} {cs : List Char}

theorem window_reads_iff (s : Scanner) (front : List Char) (offset : Nat) :
    s.window.reads offset front = true ↔ front <+: s.unread.drop offset := by
  induction front generalizing offset with
  | nil => simp [Window.reads]
  | cons c front ih =>
    rw [Window.reads, Bool.and_eq_true, beq_iff_eq, ih, window_ahead, ← List.head?_drop,
      ← List.tail_drop]
    cases s.unread.drop offset with
    | nil => simp
    | cons d cs => simp [List.cons_prefix_cons, eq_comm]

/-! ## More text behind -/

/-- The scan with more text behind what is unread. -/
def extend (s : Scanner) (more : String) : Scanner :=
  { s with chars := s.chars ++ more.toList.toArray }

theorem ofString_append (text more : String) :
    ofString (text ++ more) = (ofString text).extend more := by
  simp [ofString, extend]

theorem isDone_extend (hd : s.isDone = false) (more : String) : (s.extend more).isDone = false := by
  have hsize : (s.extend more).chars.size = s.chars.size + more.toList.length := by simp [extend]
  rw [isDone_eq_false_iff, hsize]
  exact Nat.le_add_right_of_le (isDone_eq_false_iff.mp hd)

theorem unread_extend (hd : s.isDone = false) (more : String) :
    (s.extend more).unread = s.unread ++ more.toList := by
  have hpos : s.pos ≤ s.chars.toList.length := isDone_eq_false_iff.mp hd
  show (s.chars ++ more.toList.toArray).toList.drop s.pos = _
  rw [Array.toList_append, List.drop_append_of_le_length hpos]
  rfl

theorem unread_extend_cons (hu : s.unread = c :: cs) (more : String) :
    (s.extend more).unread = c :: (cs ++ more.toList) := by
  rw [unread_extend (isDone_of_unread hu), hu, List.cons_append]

theorem window_current_extend (hu : s.unread = c :: cs) (more : String) :
    (s.extend more).window.current = s.window.current := by
  rw [window_current_of_unread (unread_extend_cons hu more), window_current_of_unread hu]

theorem behind_extend (hu : s.unread = c :: cs) (more : String) (offset : Nat) :
    (s.extend more).window.behind offset = s.window.behind offset := by
  have hpos := pos_lt_of_unread hu
  have hlt : s.pos - offset < s.chars.size := by omega
  show (if offset ≤ s.pos then (s.chars ++ more.toList.toArray)[s.pos - offset]? else none) = _
  rw [Array.getElem?_append_left hlt]
  rfl

/-- Where a token ends is decided without a look ahead. -/
theorem endsHere_extend (hu : s.unread = c :: cs) (more : String) :
    (s.extend more).endsHere = s.endsHere := by
  unfold endsHere Category.endsBefore
  rw [window_current_extend hu, behind_extend hu]
  rfl

/-- What a token is that begins here is decided by characters that are there already. -/
theorem startingAt_extend (hu : s.unread = c :: cs) (hsees : SeesEnough s.unread) (more : String)
    (significant : Option Category) :
    Category.startingAt (s.extend more).window significant =
      Category.startingAt s.window significant := by
  have hunread := unread_extend (isDone_of_unread hu) more
  refine Category.startingAt_congr (window_current_extend hu more) (fun hslash => ?_) ?_ rfl
  · have hc : c = '/' := by
      rw [window_current_of_unread (unread_extend_cons hu more)] at hslash
      exact Option.some.inj hslash
    have hlen : 1 < s.unread.length := by
      rw [hu] at hsees ⊢
      rcases hsees with hlen | ⟨d, hmem, hop⟩
      · omega
      · rcases List.mem_cons.mp hmem with rfl | hmem
        · rw [hc] at hop
          cases hop
        · have hpos := List.length_pos_of_mem hmem
          rw [List.length_cons]
          omega
    rw [window_ahead, window_ahead, hunread, List.getElem?_append_left hlen]
  · rw [Bool.eq_iff_iff, window_reads_iff, window_reads_iff, List.drop_zero, List.drop_zero, hunread]
    refine prefix_append_iff ?_ _
    rcases hsees with hlen | ⟨d, hmem, hop⟩
    · exact .inl hlen
    · refine .inr ⟨d, hmem, fun hd => ?_⟩
      have hall : ['<', '!', '-', '-'].all isOperator = true := by decide
      rw [List.all_eq_true.mp hall d hd] at hop
      cases hop

theorem grown_extend (hu : s.unread = c :: cs) (more : String) :
    (s.extend more).grown c = (s.grown c).extend more := by
  simp only [grown, moved, window_current_extend hu]
  rfl

theorem opened_extend (hu : s.unread = c :: cs) (hsees : SeesEnough s.unread) (more : String) :
    (s.extend more).opened c = (s.opened c).extend more := by
  have hcat := startingAt_extend hu hsees more s.significantAfter
  have hsig : (s.extend more).significantAfter = s.significantAfter := rfl
  simp only [opened, begun, moved, window_current_extend hu, hsig, hcat]
  rfl

/-- A scan goes through the same states with more text behind, as long as each test on the beginning
of a token saw enough. -/
theorem Reaches.extend (h : Reaches text yielded s) (hd : s.isDone = false)
    (hsees : ∀ cs, cs <:+ text.toList → s.unread.length < cs.length → SeesEnough cs)
    (more : String) : Reaches (text ++ more) yielded (s.extend more) := by
  induction h with
  | start =>
    rw [← ofString_append]
    exact .start
  | @grown yielded s c cs h hu he ih =>
    have hprevious := ih (isDone_of_unread hu) fun cs' hsuffix hlen => hsees cs' hsuffix (by
      simp only [unread_grown, hu, List.tail_cons, List.length_cons] at hlen ⊢
      omega)
    rw [← grown_extend hu]
    exact hprevious.grown (unread_extend_cons hu more) ((endsHere_extend hu more).trans he)
  | @opened yielded s c cs h hu he ih =>
    have hprevious := ih (isDone_of_unread hu) fun cs' hsuffix hlen => hsees cs' hsuffix (by
      simp only [unread_opened, hu, List.tail_cons, List.length_cons] at hlen ⊢
      omega)
    have hsuffix : s.unread <:+ text.toList := by
      rw [← h.spell_eq]
      exact List.suffix_append _ _
    have hlen : (s.opened c).unread.length < s.unread.length := by
      rw [unread_opened, hu, List.tail_cons, List.length_cons]
      omega
    rw [← opened_extend hu (hsees _ hsuffix hlen)]
    exact hprevious.opened (unread_extend_cons hu more) ((endsHere_extend hu more).trans he)
  | finished _ _ hu =>
    rw [isDone_begun hu] at hd
    cases hd

/-- The tokens before the last three characters of a text are the first tokens of every text that
goes on from there. -/
theorem prefix_tokens_append {before after : List Token} (h : tokens text = before ++ after)
    (hlen : 3 ≤ (spell after).length) (more : String) : before <+: tokens (text ++ more) := by
  rcases List.eq_nil_or_concat before with rfl | ⟨before, token, rfl⟩
  · exact List.nil_prefix
  · rw [List.concat_eq_append, List.append_assoc, List.singleton_append] at h
    obtain ⟨s, hr, hd, ht⟩ := exists_reaches h
    obtain ⟨he, rfl, hp⟩ := endsHere_of_step ht
    have hunread := hr.unread_eq_spell h
    obtain ⟨c, cs, hu⟩ := List.exists_cons_of_length_pos (by omega : 0 < (spell after).length)
    rw [← hunread] at hu hlen
    -- the step that gives back the token looks at no character after the one that it reads
    have hextended := hr.extend hd (fun cs _ hlt => .inl (by omega)) more
    have hopened :=
      hextended.opened (unread_extend_cons hu more) ((endsHere_extend hu more).trans he)
    have htoken : (s.extend more).pendingToken = some ⟨s.pending, s.category⟩ :=
      pendingToken_of_ne_empty hp
    rw [htoken] at hopened
    rw [hopened.tokens_eq, List.concat_eq_append]
    exact List.prefix_append _ _

-- two characters behind a token are not enough
example : tokens "x<!-" =
      [⟨"x", .word⟩, ⟨"<", .operator⟩, ⟨"!", .operator⟩, ⟨"-", .operator⟩] ∧
    tokens ("x<!-" ++ "-") = [⟨"x", .word⟩, ⟨"<!--", .xmlComment⟩] := by decide

end Scanner

/-! ## Settled tokens -/

/-- The tokens that end at least three characters before the end of the last one. -/
def settled : List Token → List Token
  | [] => []
  | token :: tokens =>
    if 3 ≤ (spell tokens).length then token :: settled tokens else settled tokens

theorem settled_eq_nil {tokens : List Token} (h : (spell tokens).length < 3) :
    settled tokens = [] := by
  induction tokens with
  | nil => rfl
  | cons token tokens ih =>
    rw [spell_cons, List.length_append] at h
    rw [settled, if_neg (by omega), ih (by omega)]

/-- The settled tokens stand before all others. -/
theorem exists_unsettled (tokens : List Token) :
    ∃ after, tokens = settled tokens ++ after ∧ (settled tokens = [] ∨ 3 ≤ (spell after).length) := by
  induction tokens with
  | nil => exact ⟨[], rfl, .inl rfl⟩
  | cons token tokens ih =>
    by_cases hlen : 3 ≤ (spell tokens).length
    · obtain ⟨after, htokens, hafter⟩ := ih
      rw [settled, if_pos hlen]
      refine ⟨after, by rw [List.cons_append, ← htokens], .inr ?_⟩
      rcases hafter with hnil | hafter
      · rw [hnil, List.nil_append] at htokens
        rwa [← htokens]
      · exact hafter
    · rw [settled, if_neg hlen, settled_eq_nil (by omega)]
      exact ⟨token :: tokens, rfl, .inl rfl⟩

/-- **Online scanning**: the settled tokens of a text are the first tokens of every text that goes
on from there. -/
theorem settled_prefix (text more : String) :
    settled (tokens text) <+: tokens text ∧ settled (tokens text) <+: tokens (text ++ more) := by
  obtain ⟨after, htokens, hafter⟩ := exists_unsettled (tokens text)
  refine ⟨⟨after, htokens.symm⟩, ?_⟩
  rcases hafter with hnil | hlen
  · rw [hnil]
    exact List.nil_prefix
  · exact Scanner.prefix_tokens_append htokens hlen more

end CodeHighlight
