import CodeHighlight.Proofs.Scan.History

/-!
# Proofs.Scan.Comment — the extent of comments between two marks

Inside a comment a scan hides nothing, so what its tests see is the text from the first character of
the comment on (`Reaches.window_prev_eq_getElem?` and the lemmas after it).  A comment between
slashes with stars runs through the first `*/` after its opener, unless an unescaped star stands
directly before it: then the test for `*/` takes that star and the opening slash for the end, and
the slash alone is the token (`blockComment_extent`).  A comment from `<!--` on has no such
exception (`endsWhere_xmlComment`).
-/

namespace CodeHighlight

/-- The slash of a `*/` stands at this index, and its star is the second character or later. -/
def ClosesBlockComment (source : List Char) (i : Nat) : Prop :=
  2 ≤ i ∧ source[i - 1]? = some '*' ∧ source[i]? = some '/'

/-- The end of a `-->` stands at this index, and its first dash is the third character or later. -/
def ClosesXmlComment (source : List Char) (i : Nat) : Prop :=
  4 ≤ i ∧ source[i - 2]? = some '-' ∧ source[i - 1]? = some '-' ∧ source[i]? = some '>'

namespace Scanner

variable {text : String} {yielded : List Token} {s : Scanner} {c : Char} {cs : List Char}

/-! ## What the tests see inside a comment -/

theorem getElem?_source_of_last (s : Scanner) {front : List Char} {last : Char}
    (hlist : s.pending.toList = front ++ [last]) :
    (s.pending.toList ++ s.unread)[s.pending.toList.length - 1]? = some last := by
  simp [hlist]

/-- The character before the cursor is the last one of the comment. -/
theorem Reaches.window_prev_eq_getElem? (h : Reaches text yielded s)
    (hcomment : s.category.isComment = true) (hp : s.pending ≠ "") :
    s.window.prev = (s.pending.toList ++ s.unread)[s.pending.toList.length - 1]? := by
  obtain ⟨front, last, hlist⟩ := pending_eq_concat hp
  rw [getElem?_source_of_last s hlist, h.window_prev_of_isComment hcomment, hlist,
    List.getLast?_concat]

/-- The character two before the cursor is the one before the last of the comment. -/
theorem Reaches.window_prev2_eq_getElem? (h : Reaches text yielded s)
    (hcomment : s.category.isComment = true) (hlen : 2 ≤ s.pending.toList.length) :
    s.window.prev2 = (s.pending.toList ++ s.unread)[s.pending.toList.length - 2]? := by
  cases h with
  | start => simp [ofString] at hlen
  | @grown _ s c cs h hu =>
    have hp : s.pending ≠ "" := by
      intro hempty
      simp [hempty] at hlen
    have hprev2 : (s.grown c).window.prev2 = s.window.prev := rfl
    rw [hprev2, h.window_prev_eq_getElem? hcomment hp, unread_grown, hu, toList_pending_grown,
      List.append_assoc]
    simp
  | opened => simp at hlen
  | finished => simp [begun] at hlen

/-- The characters further before the cursor are seen as they stand in the text. -/
theorem Reaches.behind_eq_getElem? (h : Reaches text yielded s) (hu : s.unread = c :: cs)
    {offset : Nat} (hlen : offset ≤ s.pending.toList.length) :
    s.window.behind offset = (s.pending.toList ++ s.unread)[s.pending.toList.length - offset]? := by
  have hchars : s.chars.toList = spell yielded ++ s.pending.toList ++ s.unread := by
    rw [h.spell_eq, h.toList_chars]
  have hposition := h.pos_eq (isDone_of_unread hu)
  have hoffset : offset ≤ s.window.pos := by
    show offset ≤ s.pos
    rw [hposition, List.length_append]
    omega
  have hindex : s.pos - offset = (spell yielded).length + (s.pending.toList.length - offset) := by
    rw [hposition, List.length_append]
    omega
  have hbehind : s.window.behind offset = s.chars.toList[s.pos - offset]? := by
    rw [Window.behind, if_pos hoffset, Array.getElem?_toList]
    rfl
  rw [hbehind, hchars, hindex, List.append_assoc, List.getElem?_append_right (Nat.le_add_right _ _),
    Nat.add_sub_cancel_left]

/-! ## Comments between slashes with stars -/

theorem Reaches.source_of_blockComment (h : Reaches text yielded s) (hp : s.pending ≠ "")
    (hcat : s.category = .blockComment) :
    ∃ rest, s.pending.toList ++ s.unread = '/' :: '*' :: rest := by
  obtain ⟨window, _, c, hbegins, hfirst, hahead⟩ := h.begins hp
  rw [hcat] at hbegins
  cases hbegins with
  | blockComment hc hstar =>
    rw [hahead 1] at hstar
    generalize s.pending.toList ++ s.unread = source at hfirst hstar
    obtain ⟨source', rfl⟩ := List.head?_eq_some_iff.mp (List.head?_eq_getElem?.trans hfirst)
    obtain ⟨source', rfl⟩ := List.head?_eq_some_iff.mp (List.head?_eq_getElem?.trans hstar)
    exact ⟨source', by rw [hc]⟩

/-- At its first character a block comment is taken to be closed if an unescaped star stands before
it. -/
theorem Reaches.window_prev2_eq_star_iff (h : Reaches text yielded s)
    (hcat : s.category = .blockComment) (hlen : s.pending.toList.length = 1) :
    s.window.prev2 = some '*' ↔ EndsUnescaped '*' (spell yielded) := by
  cases h with
  | start => cases hcat
  | @grown _ s c _ h hu =>
    have hp : s.pending = "" := by simpa using hlen
    rw [(h.eq_start hp hu).2] at hcat
    cases hcat
  | @opened yielded s c _ h hu he =>
    have hc : c = '/' := by
      obtain ⟨rest, hsource⟩ :=
        (h.opened hu he).source_of_blockComment (pending_opened_ne_empty s c) hcat
      rw [toList_pending_opened, List.singleton_append] at hsource
      exact (List.cons_eq_cons.mp hsource).1
    have hprev2 : (s.opened c).window.prev2 = s.window.prev := rfl
    rw [hprev2, spell_append, spell_pendingToken]
    exact h.window_prev_eq_some_iff hu he (by simp [hc]) (by decide)
  | finished _ _ hu =>
    rw [category_begun hu] at hcat
    cases hcat

/-- The slash of a `*/` stands at this index: its star is the second character or later, or it is an
unescaped one directly before the comment. -/
def EndsBlockComment (text source : List Char) (i : Nat) : Prop :=
  ClosesBlockComment source i ∨
    i = 0 ∧ source[0]? = some '/' ∧ EndsUnescaped '*' (text.take (text.length - source.length))

theorem endsBlockComment_append_iff {before source : List Char} (hfirst : source[0]? = some '/')
    (i : Nat) :
    EndsBlockComment (before ++ source) source i ↔
      ClosesBlockComment source i ∨ i = 0 ∧ EndsUnescaped '*' before := by
  rw [EndsBlockComment, List.length_append, Nat.add_sub_cancel, List.take_left]
  simp only [hfirst, true_and]

/-- A scan ends a block comment at each such slash. -/
theorem endsWhere_blockComment (text : String) :
    EndsWhere text .blockComment (EndsBlockComment text.toList) := by
  intro yielded s c cs h hcat hp hu
  have hcomment : s.category.isComment = true := by rw [hcat]; rfl
  have htext : text.toList = spell yielded ++ (s.pending.toList ++ s.unread) := by
    rw [← h.spell_eq, List.append_assoc]
  obtain ⟨rest, hsource⟩ := h.source_of_blockComment hp hcat
  have hfirst : (s.pending.toList ++ s.unread)[0]? = some '/' := by rw [hsource]; rfl
  have hends : s.endsHere = true ↔ s.window.prev2 = some '*' ∧ s.window.prev = some '/' := by
    unfold endsHere Category.endsBefore
    rw [window_current_of_unread hu, hcat]
    simp
  have hpos := length_toList_pos hp
  rw [htext, endsBlockComment_append_iff hfirst, hends, h.window_prev_eq_getElem? hcomment hp]
  by_cases hone : s.pending.toList.length = 1
  · rw [h.window_prev2_eq_star_iff hcat hone, hone]
    simp [ClosesBlockComment, hfirst]
  · have hlen : 2 ≤ s.pending.toList.length := by omega
    rw [h.window_prev2_eq_getElem? hcomment hlen]
    generalize s.pending.toList ++ s.unread = source at hfirst
    generalize s.pending.toList.length = n at hlen
    have hne : n - 1 ≠ 0 := by omega
    simp only [ClosesBlockComment, hne, false_and, or_false, show n - 1 - 1 = n - 2 by omega]
    refine ⟨fun ⟨hstar, hslash⟩ => ⟨?_, hstar, hslash⟩, fun ⟨_, hstar, hslash⟩ => ⟨hstar, hslash⟩⟩
    -- the star of a closed comment is not its first character
    refine Nat.le_of_not_lt fun htwo => ?_
    have hn : n - 2 = 0 := by omega
    rw [hn, hfirst] at hstar
    cases hstar

theorem EndsBlockComment.lt_length {text source : List Char} {i : Nat}
    (h : EndsBlockComment text source i) : i < source.length := by
  rcases h with ⟨-, -, hslash⟩ | ⟨rfl, hslash, -⟩
  · exact (List.getElem?_eq_some_iff.mp hslash).1
  · exact (List.getElem?_eq_some_iff.mp hslash).1

/-- **Extent of block comments**: a block comment begins with `/*` and runs through the first `*/`
whose star is its second character or later, or to the end of the text.  Directly after an unescaped
star its first slash alone is the token. -/
theorem blockComment_extent {before after : List Token} {token : Token}
    (h : tokens text = before ++ token :: after) (hcat : token.category = .blockComment) :
    (¬ EndsUnescaped '*' (spell before) → ['/', '*'] <+: token.text.toList ∧
        RunsThrough (ClosesBlockComment (sourceFrom text before)) (sourceFrom text before)
          token.text.toList) ∧
      (EndsUnescaped '*' (spell before) → token.text = "/") := by
  obtain ⟨rest, hsource⟩ : ∃ rest, sourceFrom text before = '/' :: '*' :: rest := by
    obtain ⟨s, hr, -, ht⟩ := exists_reaches h
    obtain ⟨-, rfl, hp⟩ := endsHere_of_step ht
    rw [hr.sourceFrom_eq]
    exact hr.source_of_blockComment hp hcat
  have hends : ∀ i, EndsBlockComment text.toList (sourceFrom text before) i ↔
      ClosesBlockComment (sourceFrom text before) i ∨ i = 0 ∧ EndsUnescaped '*' (spell before) := by
    rw [← spell_append_sourceFrom h]
    exact endsBlockComment_append_iff (by rw [hsource]; rfl)
  have hruns := runsThrough_of_endsWhere (endsWhere_blockComment text)
    (fun _ _ => EndsBlockComment.lt_length) h hcat
  rw [RunsThrough.congr hends] at hruns
  constructor
  · intro hstar
    simp only [hstar, and_false, or_false] at hruns
    refine ⟨?_, hruns⟩
    rcases hruns with ⟨i, ⟨hi, -⟩, -, hword⟩ | ⟨-, hword⟩
    · obtain ⟨j, rfl⟩ : ∃ j, i = j + 1 := ⟨i - 1, by omega⟩
      rw [hword, hsource]
      simp
    · rw [hword, hsource]
      simp
  · intro hstar
    have hword := hruns.eq_take_one (.inr ⟨rfl, hstar⟩)
    rw [hsource] at hword
    exact String.toList_inj.mp hword

/-- A comment that holds stars and stands after an escaped star. -/
theorem blockComment_extent_of_escaped_star :
    let text := "\\*/* **/b"
    let before : List Token := [⟨"\\", .operator⟩, ⟨"*", .operator⟩]
    let token : Token := ⟨"/* **/", .blockComment⟩
    tokens text = before ++ token :: [⟨"b", .word⟩] ∧ ¬ EndsUnescaped '*' (spell before) ∧
      ['/', '*'] <+: token.text.toList ∧
      RunsThrough (ClosesBlockComment (sourceFrom text before)) (sourceFrom text before)
        token.text.toList :=
  have h : tokens "\\*/* **/b" = [⟨"\\", .operator⟩, ⟨"*", .operator⟩] ++
      ⟨"/* **/", .blockComment⟩ :: [⟨"b", .word⟩] := by decide
  have hstar : ¬ EndsUnescaped '*' (spell [⟨"\\", .operator⟩, ⟨"*", .operator⟩]) := by decide
  ⟨h, hstar, (blockComment_extent h rfl).1 hstar⟩

/-- Directly after a star a block comment is cut off behind its first slash. -/
theorem blockComment_cut_after_star :
    ¬ ∀ (text : String) (before after : List Token) (token : Token),
      tokens text = before ++ token :: after → token.category = .blockComment →
        ['/', '*'] <+: token.text.toList ∧
          RunsThrough (ClosesBlockComment (sourceFrom text before)) (sourceFrom text before)
            token.text.toList := by
  intro hall
  have hcut : tokens "*/* x */" = [⟨"*", .operator⟩] ++ ⟨"/", .blockComment⟩ ::
      [⟨"*", .operator⟩, ⟨" ", .plain⟩, ⟨"x", .word⟩, ⟨" ", .plain⟩, ⟨"*", .operator⟩,
        ⟨"/", .regex⟩] := by decide
  have hopener : ¬ ['/', '*'] <+: "/".toList := by decide
  exact hopener (hall _ _ _ _ hcut rfl).1

/-! ## Comments from `<!--` on -/

theorem Reaches.source_of_xmlComment (h : Reaches text yielded s) (hp : s.pending ≠ "")
    (hcat : s.category = .xmlComment) :
    ∃ rest, s.pending.toList ++ s.unread = '<' :: '!' :: '-' :: '-' :: rest := by
  obtain ⟨window, _, c, hbegins, -, hahead⟩ := h.begins hp
  rw [hcat] at hbegins
  cases hbegins with
  | xmlComment hreads =>
    simp only [Window.reads, hahead, Bool.and_eq_true, beq_iff_eq] at hreads
    obtain ⟨hlt, hbang, hdash, hdash', -⟩ := hreads
    generalize s.pending.toList ++ s.unread = source at hlt hbang hdash hdash'
    obtain ⟨source', rfl⟩ := List.head?_eq_some_iff.mp (List.head?_eq_getElem?.trans hlt)
    obtain ⟨source', rfl⟩ := List.head?_eq_some_iff.mp (List.head?_eq_getElem?.trans hbang)
    obtain ⟨source', rfl⟩ := List.head?_eq_some_iff.mp (List.head?_eq_getElem?.trans hdash)
    obtain ⟨source', rfl⟩ := List.head?_eq_some_iff.mp (List.head?_eq_getElem?.trans hdash')
    exact ⟨source', rfl⟩

/-- A scan ends a comment from `<!--` on at each `-->` behind its first two characters. -/
theorem endsWhere_xmlComment (text : String) :
    EndsWhere text .xmlComment ClosesXmlComment := by
  intro yielded s c cs h hcat hp hu
  have hcomment : s.category.isComment = true := by rw [hcat]; rfl
  obtain ⟨rest, hsource⟩ := h.source_of_xmlComment hp hcat
  have hends : s.endsHere = true ↔
      (s.window.behind 3 = some '-' ∧ s.window.prev2 = some '-') ∧ s.window.prev = some '>' := by
    unfold endsHere Category.endsBefore
    rw [window_current_of_unread hu, hcat]
    simp
  rw [hends, h.window_prev_eq_getElem? hcomment hp]
  by_cases hlen : 5 ≤ s.pending.toList.length
  · rw [h.window_prev2_eq_getElem? hcomment (by omega), h.behind_eq_getElem? hu (by omega),
      ClosesXmlComment]
    generalize s.pending.toList.length = n at hlen
    have hfour : 4 ≤ n - 1 := by omega
    simp only [hfour, true_and, show n - 1 - 2 = n - 3 by omega, show n - 1 - 1 = n - 2 by omega,
      and_assoc]
  · -- the opener holds no `>`
    have hopen : (s.pending.toList ++ s.unread)[s.pending.toList.length - 1]? ≠ some '>' := by
      rw [hsource]
      have hindex : s.pending.toList.length - 1 < 4 := by omega
      generalize s.pending.toList.length - 1 = i at hindex
      match i with
      | 0 | 1 | 2 | 3 => simp
    exact iff_of_false (fun hand => hopen hand.2) (fun hand => hopen hand.2.2.2)

end Scanner

end CodeHighlight
