import CodeHighlight.Proofs.Scan.Comment
import CodeHighlight.Proofs.Scan.Maximal
import CodeHighlight.Proofs.Scan.Online

/-!
# Proofs.Scan.CommentMark — comments begin and end at their marks

A token is a comment of some kind exactly if the text from its first character on begins with the
mark of this kind (`category_eq_iff_mark`).  A comment from `#` or `//` on then is the text up to
the next newline (`text_of_lineComment`), and one from `<!--` on runs through the first `-->` behind
its first two characters.  So the text from its mark on tells the whole of such a comment
(`marked_comment_extent`): what stands before it has no say in it, and backslashes and quotes in it
are characters like others.
-/

namespace CodeHighlight

namespace Category

/-- The mark that a comment of this category begins with. -/
def mark? : Category → Option (List Char)
  | .hashComment => some ['#']
  | .slashComment => some ['/', '/']
  | .blockComment => some ['/', '*']
  | .xmlComment => some ['<', '!', '-', '-']
  | _ => none

variable {category : Category} {mark : List Char} {window : Window} {c : Char}

/-- No test that comes before the one for a mark is met where the mark stands. -/
theorem startingAt_of_reads (hmark : category.mark? = some mark) (hc : window.current = some c)
    (hahead : window.ahead 0 = some c) (hreads : window.reads 0 mark = true)
    (significant : Option Category) : startingAt window significant = category := by
  rw [startingAt, hc]
  cases category with
  | hashComment =>
    cases hmark
    simp [current_of_reads hahead hreads]
  | slashComment =>
    cases hmark
    obtain rfl := current_of_reads hahead hreads
    simp only [Window.reads, Bool.and_eq_true, beq_iff_eq] at hreads
    simp [hreads.2.1]
  | blockComment =>
    cases hmark
    obtain rfl := current_of_reads hahead hreads
    simp only [Window.reads, Bool.and_eq_true, beq_iff_eq] at hreads
    simp [hreads.2.1]
  | xmlComment =>
    cases hmark
    simp [current_of_reads hahead hreads, hreads]
  | _ => cases hmark

theorem reads_of_startingAt {significant : Option Category} (hmark : category.mark? = some mark)
    (hc : window.current = some c) (hahead : window.ahead 0 = some c)
    (hstart : startingAt window significant = category) : window.reads 0 mark = true := by
  have hbegins := begins_startingAt hc significant
  rw [hstart] at hbegins
  cases hbegins with
  | hashComment hfirst =>
    cases hmark
    simp [Window.reads, hahead, hfirst]
  | slashComment hfirst hsecond =>
    cases hmark
    simp [Window.reads, hahead, hfirst, hsecond]
  | blockComment hfirst hsecond =>
    cases hmark
    simp [Window.reads, hahead, hfirst, hsecond]
  | xmlComment hreads =>
    cases hmark
    exact hreads
  | _ => cases hmark

end Category

/-- A prefix of a list stays one of its first part where all of it meets the test. -/
theorem prefix_takeWhile {p : Char → Bool} {front cs : List Char} (h : front <+: cs)
    (hall : ∀ c ∈ front, p c = true) : front <+: cs.takeWhile p := by
  obtain ⟨back, rfl⟩ := h
  rw [List.takeWhile_append_of_pos hall]
  exact List.prefix_append _ _

theorem ClosesXmlComment.lt_length {source : List Char} {i : Nat} (h : ClosesXmlComment source i) :
    i < source.length := (List.getElem?_eq_some_iff.mp h.2.2.2).1

namespace Scanner

variable {text : String} {before after : List Token} {token : Token} {category : Category}
  {mark : List Char}

/-! ## The mark -/

/-- **Comments are told by their marks**: the category of a token is that of a comment exactly if
the text begins with its mark there. -/
theorem category_eq_iff_mark (h : tokens text = before ++ token :: after)
    (hmark : category.mark? = some mark) :
    token.category = category ↔ mark <+: sourceFrom text before := by
  obtain ⟨_, s, -, -, hu, hcurrent, hcat⟩ := exists_birth h
  obtain ⟨c, cs, hlist⟩ := exists_text_eq_cons h
  have hc : s.window.current = some c := by rw [hcurrent, hlist, List.head?_cons]
  have hahead := (window_ahead_zero s).trans hc
  have hreads := window_reads_iff s mark 0
  rw [List.drop_zero, hu] at hreads
  rw [← hreads, hcat]
  constructor
  · exact fun hstart => Category.reads_of_startingAt hmark hc hahead hstart
  · exact fun hmarked => Category.startingAt_of_reads hmark hc hahead hmarked _

/-- The text from a token on is its own and that of the tokens after it. -/
theorem sourceFrom_eq_append (h : tokens text = before ++ token :: after) :
    sourceFrom text before = token.text.toList ++ spell after := by
  rw [sourceFrom_eq_spell h, spell_cons]

/-- A token that begins with the mark of a comment is this comment. -/
theorem category_of_mark (h : tokens text = before ++ token :: after)
    (hmark : category.mark? = some mark) (hbegin : mark <+: token.text.toList) :
    token.category = category := by
  rw [category_eq_iff_mark h hmark, sourceFrom_eq_append h]
  exact hbegin.trans (List.prefix_append _ _)

/-! ## Comments up to the end of the line -/

/-- A comment up to the end of the line holds everything but the newline. -/
theorem text_of_lineComment (h : tokens text = before ++ token :: after)
    (hcat : token.category = .hashComment ∨ token.category = .slashComment) :
    token.text.toList = (sourceFrom text before).takeWhile (· != '\n') := by
  have hgo : token.category.continuing? = some (· != '\n') := by
    rcases hcat with hcat | hcat <;> rw [hcat] <;> rfl
  obtain ⟨_, _, c, cs, hbegins, hlist, hcs, hend⟩ := exists_of_continuing h hgo
  have hc : (c != '\n') = true := by
    rcases hcat with hcat | hcat
    · rw [hcat] at hbegins
      cases hbegins with
      | hashComment hc => rw [hc]; decide
    · rw [hcat] at hbegins
      cases hbegins with
      | slashComment hc => rw [hc]; decide
  have hall : ∀ d ∈ token.text.toList, (d != '\n') = true := by
    rw [hlist]
    exact List.forall_mem_cons.mpr ⟨hc, hcs⟩
  have hstop : (spell after).takeWhile (· != '\n') = [] := by
    cases hspell : spell after with
    | nil => rfl
    | cons d ds =>
      rw [List.takeWhile_cons, if_neg]
      simpa using hend d (by rw [hspell]; rfl)
  rw [sourceFrom_eq_append h, List.takeWhile_append_of_pos hall, hstop, List.append_nil]

/-! ## Comments from `<!--` on -/

theorem xmlComment_runsThrough (h : tokens text = before ++ token :: after)
    (hcat : token.category = .xmlComment) :
    RunsThrough (ClosesXmlComment (sourceFrom text before)) (sourceFrom text before)
      token.text.toList :=
  runsThrough_of_endsWhere (endsWhere_xmlComment text) (fun _ _ => ClosesXmlComment.lt_length) h
    hcat

/-! ## Extent -/

/-- The categories of the comments whose text their mark and what follows it tell. -/
def markedComments : List Category := [.hashComment, .slashComment, .xmlComment]

/-- A comment holds its whole mark. -/
theorem mark_prefix_text (h : tokens text = before ++ token :: after)
    (hmark : token.category.mark? = some mark) (hcat : token.category ∈ markedComments) :
    mark <+: token.text.toList := by
  have hsource := (category_eq_iff_mark h hmark).mp rfl
  have hline (hcat : token.category = .hashComment ∨ token.category = .slashComment)
      (hall : ∀ c ∈ mark, (c != '\n') = true) : mark <+: token.text.toList := by
    rw [text_of_lineComment h hcat]
    exact prefix_takeWhile hsource hall
  simp only [markedComments, List.mem_cons, List.not_mem_nil, or_false] at hcat
  rcases hcat with hcat | hcat | hcat <;> rw [hcat] at hmark <;> cases hmark
  · exact hline (.inl hcat) (List.all_eq_true.mp (by decide))
  · exact hline (.inr hcat) (List.all_eq_true.mp (by decide))
  · rcases xmlComment_runsThrough h hcat with ⟨i, ⟨hi, -⟩, -, hword⟩ | ⟨-, hword⟩
    · rw [hword]
      exact List.prefix_take_iff.mpr ⟨hsource, Nat.succ_le_succ (Nat.le_of_succ_le hi)⟩
    · rwa [hword]

/-- The text from its mark on tells the whole of a comment. -/
theorem eq_of_sourceFrom_eq {text' : String} {before' after' : List Token} {token' : Token}
    (h : tokens text = before ++ token :: after) (h' : tokens text' = before' ++ token' :: after')
    (hcat : token.category ∈ markedComments)
    (hsource : sourceFrom text' before' = sourceFrom text before) : token' = token := by
  have hmarks : ∀ category ∈ markedComments, category.mark?.isSome = true := by decide
  obtain ⟨mark, hmark⟩ := Option.isSome_iff_exists.mp (hmarks _ hcat)
  have hcategory : token'.category = token.category := by
    rw [category_eq_iff_mark h' hmark, hsource, ← category_eq_iff_mark h hmark]
  have htext : token'.text.toList = token.text.toList := by
    by_cases hxml : token.category = .xmlComment
    · have hruns := xmlComment_runsThrough h' (hcategory.trans hxml)
      rw [hsource] at hruns
      exact hruns.unique (xmlComment_runsThrough h hxml)
    · have hline : token.category = .hashComment ∨ token.category = .slashComment := by
        simpa [markedComments, hxml] using hcat
      rw [text_of_lineComment h hline, text_of_lineComment h' (by rwa [hcategory]), hsource]
  obtain ⟨word, category⟩ := token
  obtain ⟨word', category'⟩ := token'
  obtain rfl : category' = category := hcategory
  obtain rfl : word' = word := String.toList_inj.mp htext
  rfl

/-- **Extent of line and XML comments**: a token is one of these comments exactly if it begins with
the mark.  A line comment is the text up to the next newline, and an XML comment runs through the
first `-->` whose first dash is its third character or later, or to the end of the text.  Where
another text goes on alike from the mark on, it has the same comment there. -/
theorem marked_comment_extent (h : tokens text = before ++ token :: after) :
    (token.category = .hashComment ↔ ['#'] <+: token.text.toList) ∧
      (token.category = .slashComment ↔ ['/', '/'] <+: token.text.toList) ∧
      (token.category = .xmlComment ↔ ['<', '!', '-', '-'] <+: token.text.toList) ∧
      (token.category = .hashComment ∨ token.category = .slashComment →
        token.text.toList = (sourceFrom text before).takeWhile (· != '\n')) ∧
      (token.category = .xmlComment →
        RunsThrough (ClosesXmlComment (sourceFrom text before)) (sourceFrom text before)
          token.text.toList) ∧
      (token.category ∈ markedComments →
        ∀ (text' : String) (before' after' : List Token) (token' : Token),
          tokens text' = before' ++ token' :: after' →
          sourceFrom text' before' = sourceFrom text before → token' = token) := by
  have hiff {category : Category} {mark : List Char} (hmark : category.mark? = some mark)
      (hcat : category ∈ markedComments) :
      token.category = category ↔ mark <+: token.text.toList := by
    constructor
    · rintro rfl
      exact mark_prefix_text h hmark hcat
    · exact category_of_mark h hmark
  exact ⟨hiff rfl (by decide), hiff rfl (by decide), hiff rfl (by decide), text_of_lineComment h,
    xmlComment_runsThrough h,
    fun hcat _ _ _ _ h' hsource => eq_of_sourceFrom_eq h h' hcat hsource⟩

/-- The shortest XML comment behind a backslash, and a line comment that ends with a backslash. -/
theorem marked_comment_extent_of_overlap :
    let text := "\\<!-->//\"\\\n"
    let xml : Token := ⟨"<!-->", .xmlComment⟩
    let line : Token := ⟨"//\"\\", .slashComment⟩
    tokens text = [⟨"\\", .operator⟩] ++ xml :: [line, ⟨"\n", .plain⟩] ∧
      (xml.category = .xmlComment ↔ ['<', '!', '-', '-'] <+: xml.text.toList) ∧
      RunsThrough (ClosesXmlComment (sourceFrom text [⟨"\\", .operator⟩]))
        (sourceFrom text [⟨"\\", .operator⟩]) xml.text.toList ∧
      line.text.toList = (sourceFrom text [⟨"\\", .operator⟩, xml]).takeWhile (· != '\n') :=
  have h : tokens "\\<!-->//\"\\\n" = [⟨"\\", .operator⟩] ++ ⟨"<!-->", .xmlComment⟩ ::
      [⟨"//\"\\", .slashComment⟩, ⟨"\n", .plain⟩] := by decide
  have h' : tokens "\\<!-->//\"\\\n" = [⟨"\\", .operator⟩, ⟨"<!-->", .xmlComment⟩] ++
      ⟨"//\"\\", .slashComment⟩ :: [⟨"\n", .plain⟩] := h
  ⟨h, (marked_comment_extent h).2.2.1, (marked_comment_extent h).2.2.2.2.1 rfl,
    (marked_comment_extent h').2.2.2.1 (.inr rfl)⟩

end Scanner

end CodeHighlight
