import CodeHighlight.Proofs.Markup.Decode
import CodeHighlight.Proofs.Scan.Maximal

/-!
# Proofs.Markup.Configuration — what colors and keywords have a say in

The configuration of a highlighter is looked at token by token and after the text has been split.
The keywords decide on words only, whether they stand in a span (`render_of_word`), and the colors
only on the values of style attributes: with these blanked, and nothing else (`html_split`), the
HTML is that of empty styles (`blankStyles_run`).  So two highlighters that agree on the words of a
text write the same HTML up to the styles, and with the same colors they write the same HTML but for
the words they disagree on (`configuration_stays_out`).
-/

namespace CodeHighlight

/-! ## Blanking styles -/

namespace Markup

/-- The tag with an empty style. -/
def Tag.blank : Tag → Tag
  | .opening _ => .opening []
  | .closing => .closing

namespace Parts

/-- The parts put together again. -/
def html (parts : Parts) : List Char :=
  parts.front ++ parts.tagged.flatMap fun part => part.1.html ++ part.2

/-- The parts with empty styles. -/
def blank (parts : Parts) : Parts :=
  { parts with tagged := parts.tagged.map fun part => (part.1.blank, part.2) }

@[simp] theorem html_addText (cs : List Char) (parts : Parts) :
    (parts.addText cs).html = cs ++ parts.html := List.append_assoc _ _ _

@[simp] theorem html_addTag (tag : Tag) (parts : Parts) :
    (parts.addTag tag).html = tag.html ++ parts.html := by
  simp [html, addTag]

@[simp] theorem blank_addText (cs : List Char) (parts : Parts) :
    (parts.addText cs).blank = parts.blank.addText cs := rfl

@[simp] theorem blank_addTag (tag : Tag) (parts : Parts) :
    (parts.addTag tag).blank = parts.blank.addTag tag.blank := rfl

end Parts

/-- Splitting HTML at its tags loses nothing. -/
theorem html_split (cs : List Char) : (split cs).html = cs := by
  induction cs using split.induct with
  | case1 cs tag rest h ih =>
    rw [split_of_readTag? h, Parts.html_addTag, ih, eq_append_of_readTag? h]
  | case2 => rw [split_nil]; rfl
  | case3 c cs h ih => rw [split_of_readTag?_none h, Parts.html_addText, ih]; rfl

/-- HTML with the values of its style attributes blanked. -/
def blankStyles (html : String) : String := String.ofList (split html.toList).blank.html

end Markup

/-- Styles without any declaration. -/
def Styles.blank : Styles := ⟨"", "", "", ""⟩

@[simp] theorem Styles.get_blank (group : StyleGroup) : Styles.blank.get group = "" := by
  cases group <;> rfl

namespace Highlighter

open Markup (split blankStyles)

variable {h h' : Highlighter} {token : Token} {text : String}

/-- Blanking the styles of a token in front of other HTML. -/
theorem blank_split_render (h : Highlighter) (token : Token) (rest : List Char) :
    (split ((h.render token).toList ++ rest)).blank.html =
      (h.renderWith .blank token).toList ++ (split rest).blank.html := by
  cases hgroup : h.group token with
  | none =>
    rw [h.split_render_of_unstyled hgroup, renderWith_of_group_none hgroup,
      Markup.Parts.blank_addText, Markup.Parts.html_addText]
  | some group =>
    rw [h.split_render_of_styled hgroup, renderWith_of_group_some hgroup, Styles.get_blank,
      Markup.toList_span]
    simp only [Markup.Parts.blank_addTag, Markup.Parts.blank_addText, Markup.Parts.html_addTag,
      Markup.Parts.html_addText, Markup.Tag.blank, Markup.Tag.html, String.toList_empty,
      List.nil_append, List.append_assoc]

theorem blank_split_renderAll (h : Highlighter) (tokens : List Token) :
    (split (h.renderAll tokens)).blank.html =
      tokens.flatMap fun token => (h.renderWith .blank token).toList := by
  induction tokens with
  | nil =>
    rw [renderAll_nil, Markup.split_nil]
    rfl
  | cons token tokens ih => rw [renderAll_cons, blank_split_render, ih, List.flatMap_cons]

/-- With its styles blanked, the HTML of a text is the one that empty styles give. -/
theorem blankStyles_run (h : Highlighter) (text : String) :
    blankStyles (h.run text) = String.join ((tokens text).map (h.renderWith .blank)) := by
  rw [← String.toList_inj, blankStyles, String.toList_ofList, toList_run, blank_split_renderAll,
    String.toList_join, List.flatMap_map]

/-! ## Keywords -/

/-- The keywords decide on the group of words only. -/
theorem group_congr (hword : token.category = .word →
      h.keywords.isKeyword token.text = h'.keywords.isKeyword token.text) :
    h.group token = h'.group token := by
  unfold group
  by_cases hcat : token.category = .word
  · rw [hword hcat]
  · exact Category.styleGroup_congr (by simpa [Category.consultsKeywords] using hcat) _ _

theorem renderWith_congr (hgroup : h.group token = h'.group token) (styles : Styles) :
    h.renderWith styles token = h'.renderWith styles token := by
  rw [renderWith, renderWith, hgroup]

theorem styles_congr (hforeground : h.foreground = h'.foreground)
    (hbackground : h.background = h'.background) : h.styles = h'.styles := by
  rw [styles, styles, hforeground, hbackground]

theorem render_congr (hstyles : h.styles = h'.styles) (hgroup : h.group token = h'.group token) :
    h.render token = h'.render token := by
  rw [render, render, hstyles, renderWith_congr hgroup]

/-- A text of word characters is written as it is. -/
theorem escape_word {word : String} (hword : ∀ c ∈ word.toList, isWordChar c = true) :
    Markup.escape word = word := by
  refine Markup.escape_eq_self fun c hc hmarkup => ?_
  have hall : Markup.markupChars.all (fun c => !isWordChar c) = true := by decide
  have hfalse := List.all_eq_true.mp hall c hmarkup
  rw [hword c hc] at hfalse
  cases hfalse

/-- A word stands in a span of the keyword style if it is a keyword, and on its own if not. -/
theorem render_of_word (h : Highlighter) (hcat : token.category = .word)
    (hword : ∀ c ∈ token.text.toList, isWordChar c = true) :
    h.render token =
      if h.keywords.isKeyword token.text then Markup.span (h.styles.get .keyword) token.text
      else token.text := by
  rw [render, renderWith, group, hcat, escape_word hword]
  cases hkeyword : h.keywords.isKeyword token.text <;> simp [Category.styleGroup]

/-- A text is highlighted alike with other keywords that answer alike on its words. -/
theorem run_congr (hstyles : h.styles = h'.styles)
    (hwords : ∀ token ∈ tokens text, token.category = .word →
      h.keywords.isKeyword token.text = h'.keywords.isKeyword token.text) :
    h.run text = h'.run text := by
  rw [run_eq, run_eq]
  exact congrArg String.join (List.map_congr_left fun token hmem =>
    render_congr hstyles (group_congr (hwords token hmem)))

theorem blankStyles_run_congr (hwords : ∀ token ∈ tokens text, token.category = .word →
      h.keywords.isKeyword token.text = h'.keywords.isKeyword token.text) :
    blankStyles (h.run text) = blankStyles (h'.run text) := by
  rw [blankStyles_run, blankStyles_run]
  exact congrArg String.join (List.map_congr_left fun token hmem =>
    renderWith_congr (group_congr (hwords token hmem)) _)

/-- Two highlighters of the same colors write the same piece for each token but for a word that only
one of them takes for a keyword, which this one puts in a span and the other one leaves bare. -/
theorem render_eq_or_word (hstyles : h.styles = h'.styles) (hmem : token ∈ tokens text) :
    if token.category = .word ∧
        h.keywords.isKeyword token.text ≠ h'.keywords.isKeyword token.text then
      (h.render token = token.text ∧
          h'.render token = Markup.span (h.styles.get .keyword) token.text) ∨
        (h.render token = Markup.span (h.styles.get .keyword) token.text ∧
          h'.render token = token.text)
    else h.render token = h'.render token := by
  split
  · rename_i hdiffer
    obtain ⟨hcat, hdiffer⟩ := hdiffer
    obtain ⟨before, after, hsplit⟩ := List.append_of_mem hmem
    obtain ⟨hword, -, -⟩ := Scanner.word_maximal hsplit hcat
    rw [h.render_of_word hcat hword, h'.render_of_word hcat hword, ← hstyles]
    cases hkeyword : h.keywords.isKeyword token.text with
    | false =>
      have hkeyword' : h'.keywords.isKeyword token.text = true := by simpa [hkeyword] using hdiffer
      exact .inl ⟨if_neg Bool.false_ne_true, if_pos hkeyword'⟩
    | true =>
      have hkeyword' : h'.keywords.isKeyword token.text = false := by simpa [hkeyword] using hdiffer
      exact .inr ⟨if_pos rfl, by rw [hkeyword', if_neg Bool.false_ne_true]⟩
  · rename_i hagree
    refine render_congr hstyles (group_congr fun hcat => ?_)
    by_contra hdiffer
    exact hagree ⟨hcat, hdiffer⟩

/-- **Configuration stays out of structure.**  If the keywords of two highlighters answer alike on
the words of a text, their HTML is the same once the styles are blanked, and the same outright if
the colors are too.  With the same colors and any keywords they write the same pieces, token by
token, but for the words that only one of them takes for a keyword: this one puts the word in a span
of the keyword style where the other one writes the bare word. -/
theorem configuration_stays_out (text : String) (h h' : Highlighter) :
    ((∀ token ∈ tokens text, token.category = .word →
        h.keywords.isKeyword token.text = h'.keywords.isKeyword token.text) →
      blankStyles (h.run text) = blankStyles (h'.run text) ∧
        (h.foreground = h'.foreground → h.background = h'.background →
          h.run text = h'.run text)) ∧
    (h.foreground = h'.foreground → h.background = h'.background →
      h.run text = String.join ((tokens text).map h.render) ∧
        h'.run text = String.join ((tokens text).map h'.render) ∧
        ∀ token ∈ tokens text,
          if token.category = .word ∧
              h.keywords.isKeyword token.text ≠ h'.keywords.isKeyword token.text then
            (h.render token = token.text ∧
                h'.render token = Markup.span (h.styles.get .keyword) token.text) ∨
              (h.render token = Markup.span (h.styles.get .keyword) token.text ∧
                h'.render token = token.text)
          else h.render token = h'.render token) :=
  ⟨fun hwords => ⟨blankStyles_run_congr hwords,
      fun hforeground hbackground => run_congr (styles_congr hforeground hbackground) hwords⟩,
    fun hforeground hbackground => ⟨h.run_eq text, h'.run_eq text,
      fun _ hmem => render_eq_or_word (styles_congr hforeground hbackground) hmem⟩⟩

/-- Other colors, keywords that answer otherwise on a string and on a comment, and then keywords
that answer otherwise on the word before them. -/
theorem configuration_stays_out_of_string :
    let text := "if'if'//x"
    let h : Highlighter := ⟨.black, .transparentWhite, .ofList ["if"]⟩
    let h' : Highlighter := ⟨.transparentWhite, .black, .ofList ["if", "'if'", "//x"]⟩
    let h'' : Highlighter := ⟨.black, .transparentWhite, .ofList ["x"]⟩
    (∀ token ∈ tokens text, token.category = .word →
        h.keywords.isKeyword token.text = h'.keywords.isKeyword token.text) ∧
      blankStyles (h.run text) = blankStyles (h'.run text) ∧
      h.foreground = h''.foreground ∧ h.background = h''.background ∧
      h.keywords.isKeyword "if" ≠ h''.keywords.isKeyword "if" ∧
      ∀ token ∈ tokens text,
        if token.category = .word ∧
            h.keywords.isKeyword token.text ≠ h''.keywords.isKeyword token.text then
          (h.render token = token.text ∧
              h''.render token = Markup.span (h.styles.get .keyword) token.text) ∨
            (h.render token = Markup.span (h.styles.get .keyword) token.text ∧
              h''.render token = token.text)
        else h.render token = h''.render token := by
  intro text h h' h''
  have hwords : ∀ token ∈ tokens text, token.category = .word →
      h.keywords.isKeyword token.text = h'.keywords.isKeyword token.text := by decide
  exact ⟨hwords, ((configuration_stays_out text h h').1 hwords).1, rfl, rfl, by decide,
    ((configuration_stays_out text h h'').2 rfl rfl).2.2⟩

end Highlighter

end CodeHighlight
