import CodeHighlight.Proofs.Markup.Segment
import Mathlib.Data.List.Basic

/-!
# Proofs.Markup.Decode — reading a highlighted text back

`decode` splits HTML at the tags of spans and replaces the entities in the text between them.  It
knows no colors and no keywords, and yet it finds the tokens of every text again, each with its
style; only neighbors without a style come back as one piece (`decode_run`).
-/

namespace CodeHighlight

namespace Markup

/-! ## Tags -/

/-- The beginning or the end of a span. -/
inductive Tag where
  | opening (style : List Char)
  | closing

/-- What an opening tag begins with, up to its style. -/
def openStart : String := "<span style=\""

/-- What an opening tag ends with, after its style. -/
def openEnd : String := "\">"

def closeTag : String := "</span>"

/-- The tag as it is written. -/
def Tag.html : Tag → List Char
  | .opening style => openStart.toList ++ (style ++ openEnd.toList)
  | .closing => closeTag.toList

def readClosing? (cs : List Char) : Option (Tag × List Char) :=
  (cs.dropPrefix? closeTag.toList).map fun rest => (.closing, rest)

/-- The style of an opening tag ends at the next quotation mark. -/
def readOpening? (cs : List Char) : Option (Tag × List Char) := do
  let value ← cs.dropPrefix? openStart.toList
  let rest ← (value.dropWhile (· != '"')).dropPrefix? openEnd.toList
  return (.opening (value.takeWhile (· != '"')), rest)

/-- The tag that stands at the beginning, with what follows it. -/
def readTag? (cs : List Char) : Option (Tag × List Char) :=
  (readClosing? cs).or (readOpening? cs)

theorem eq_append_of_dropPrefix? {cs front rest : List Char}
    (h : cs.dropPrefix? front = some rest) : cs = front ++ rest := by
  obtain ⟨front', rfl, heq⟩ := List.dropPrefix?_eq_some_iff.mp h
  rw [eq_of_beq heq]

/-- A tag is read off the characters that it is written as. -/
theorem eq_append_of_readTag? {cs rest : List Char} {tag : Tag}
    (h : readTag? cs = some (tag, rest)) : cs = tag.html ++ rest := by
  rcases Option.or_eq_some_iff.mp h with hclosing | ⟨-, hopening⟩
  · obtain ⟨rest', hdrop, heq⟩ := Option.map_eq_some_iff.mp hclosing
    cases heq
    exact eq_append_of_dropPrefix? hdrop
  · obtain ⟨value, hvalue, hopening⟩ := Option.bind_eq_some_iff.mp hopening
    obtain ⟨rest', hrest, heq⟩ := Option.bind_eq_some_iff.mp hopening
    cases heq
    have hstyle : value.takeWhile (· != '"') ++ (openEnd.toList ++ rest) = value := by
      rw [← eq_append_of_dropPrefix? hrest, List.takeWhile_append_dropWhile]
    rw [eq_append_of_dropPrefix? hvalue, Tag.html, List.append_assoc, List.append_assoc, hstyle]

theorem length_lt_of_readTag? {cs rest : List Char} {tag : Tag}
    (h : readTag? cs = some (tag, rest)) : rest.length < cs.length := by
  have hpos : 0 < tag.html.length := by cases tag <;> simp [Tag.html, openStart, closeTag]
  rw [eq_append_of_readTag? h, List.length_append]
  omega

theorem readTag?_cons {c : Char} (h : c ≠ '<') (cs : List Char) : readTag? (c :: cs) = none := by
  have hc : (c == '<') = false := beq_false_of_ne h
  have hno (front : List Char) : (c :: cs).dropPrefix? ('<' :: front) = none := by
    simp [List.dropPrefix?, hc]
  have hclosing : readClosing? (c :: cs) = none := by
    show ((c :: cs).dropPrefix? ('<' :: _)).map _ = none
    rw [hno]
    rfl
  have hopening : readOpening? (c :: cs) = none := by
    show ((c :: cs).dropPrefix? ('<' :: _)).bind _ = none
    rw [hno]
    rfl
  rw [readTag?, hclosing, hopening]
  rfl

theorem dropPrefix?_append (front rest : List Char) :
    (front ++ rest).dropPrefix? front = some rest :=
  List.dropPrefix?_append_of_beq rest (beq_self_eq_true front)

theorem readTag?_closeTag (rest : List Char) :
    readTag? (closeTag.toList ++ rest) = some (.closing, rest) := by
  rw [readTag?, readClosing?, dropPrefix?_append]
  rfl

theorem readTag?_opening {style : List Char} (h : '"' ∉ style) (rest : List Char) :
    readTag? (openStart.toList ++ (style ++ (openEnd.toList ++ rest))) =
      some (.opening style, rest) := by
  have hclosing (value : List Char) : readClosing? (openStart.toList ++ value) = none := rfl
  have hall : ∀ c ∈ style, (c != '"') = true := by
    intro c hc
    exact bne_iff_ne.mpr (ne_of_mem_of_not_mem hc h)
  have hend : openEnd.toList = ['"', '>'] := rfl
  have htake : (style ++ (openEnd.toList ++ rest)).takeWhile (· != '"') = style := by
    rw [List.takeWhile_append_of_pos hall, hend]
    exact List.append_nil style
  have hdrop : (style ++ (openEnd.toList ++ rest)).dropWhile (· != '"') =
      openEnd.toList ++ rest := by
    rw [List.dropWhile_append_of_pos hall, hend]
    rfl
  rw [readTag?, hclosing, Option.none_or, readOpening?, dropPrefix?_append, Option.bind_eq_bind,
    Option.bind_some, hdrop, htake, dropPrefix?_append]
  rfl

/-! ## Splitting -/

/-- HTML that has been split at its tags. -/
structure Parts where
  /-- The text before the first tag. -/
  front : List Char
  /-- The tags, each with the text between it and the next one. -/
  tagged : List (Tag × List Char)

namespace Parts

/-- The parts with a text in front of them. -/
def addText (cs : List Char) (parts : Parts) : Parts := { parts with front := cs ++ parts.front }

/-- The parts with a tag in front of them. -/
def addTag (tag : Tag) (parts : Parts) : Parts := ⟨[], (tag, parts.front) :: parts.tagged⟩

/-- The text without the tags. -/
def text (parts : Parts) : List Char := parts.front ++ parts.tagged.flatMap Prod.snd

@[simp] theorem text_addText (cs : List Char) (parts : Parts) :
    (parts.addText cs).text = cs ++ parts.text := List.append_assoc _ _ _

@[simp] theorem text_addTag (tag : Tag) (parts : Parts) : (parts.addTag tag).text = parts.text :=
  rfl

theorem addText_addText (cs cs' : List Char) (parts : Parts) :
    (parts.addText cs').addText cs = parts.addText (cs ++ cs') := by
  simp only [addText, List.append_assoc]

end Parts

/-- Splits HTML at its tags, from left to right. -/
def split (cs : List Char) : Parts :=
  match _h : readTag? cs with
  | some (tag, rest) => (split rest).addTag tag
  | none =>
    match cs with
    | [] => ⟨[], []⟩
    | c :: cs => (split cs).addText [c]
termination_by cs.length
decreasing_by
  · exact length_lt_of_readTag? _h
  · simp

theorem split_of_readTag? {cs rest : List Char} {tag : Tag} (h : readTag? cs = some (tag, rest)) :
    split cs = (split rest).addTag tag := by
  rw [split]
  split
  · next h' =>
    rw [h] at h'
    cases h'
    rfl
  · next h' =>
    rw [h] at h'
    cases h'

theorem split_of_readTag?_none {cs : List Char} (h : readTag? cs = none) :
    split cs =
      match cs with
      | [] => ⟨[], []⟩
      | c :: cs => (split cs).addText [c] := by
  rw [split]
  split
  · next h' =>
    rw [h] at h'
    cases h'
  · rfl

theorem split_nil : split [] = ⟨[], []⟩ := split_of_readTag?_none rfl

theorem split_cons {c : Char} (h : c ≠ '<') (cs : List Char) :
    split (c :: cs) = (split cs).addText [c] := split_of_readTag?_none (readTag?_cons h cs)

/-- Text without tags stays in front of what follows it. -/
theorem split_append {cs : List Char} (h : '<' ∉ cs) (rest : List Char) :
    split (cs ++ rest) = (split rest).addText cs := by
  induction cs with
  | nil => rfl
  | cons c cs ih =>
    rw [List.mem_cons, not_or] at h
    rw [List.cons_append, split_cons (Ne.symm h.1), ih h.2, Parts.addText_addText]
    rfl

/-- A span as it is written, tag by tag. -/
theorem toList_span (style inner : String) :
    (span style inner).toList = openStart.toList ++ (style.toList ++
      (openEnd.toList ++ (inner.toList ++ closeTag.toList))) := by
  show (openStart ++ style ++ openEnd ++ inner ++ closeTag).toList = _
  simp only [String.toList_append, List.append_assoc]

/-- A span is split into its two tags and the text between them. -/
theorem split_span {style inner : String} (hstyle : HasNoMarkup style)
    (hinner : IsEscaped inner.toList) (rest : List Char) :
    split ((span style inner).toList ++ rest) =
      (((split rest).addTag .closing).addText inner.toList).addTag (.opening style.toList) := by
  have hquote : '"' ∉ style.toList := fun hmem => hstyle _ hmem (by decide)
  have hlist : (span style inner).toList ++ rest = openStart.toList ++ (style.toList ++
      (openEnd.toList ++ (inner.toList ++ (closeTag.toList ++ rest)))) := by
    simp only [toList_span, List.append_assoc]
  rw [hlist, split_of_readTag? (readTag?_opening hquote _), split_append hinner.lt_not_mem,
    split_of_readTag? (readTag?_closeTag rest)]

/-! ## Pieces -/

/-- A piece of text with its style, if it has one. -/
structure Piece where
  style : Option String
  text : String
  deriving DecidableEq

namespace Piece

/-- Puts a piece in front of others.  Two neighbors without a style become one piece. -/
def glue : Piece → List Piece → List Piece
  | ⟨none, text⟩, ⟨none, text'⟩ :: pieces => ⟨none, text ++ text'⟩ :: pieces
  | piece, pieces => piece :: pieces

/-- The pieces with every run of neighbors without a style merged into one piece. -/
def merge (pieces : List Piece) : List Piece := pieces.foldr glue []

/-- What stands outside of spans is one piece, and none where nothing stands. -/
def unstyled (cs : List Char) : List Piece :=
  if cs = [] then [] else [⟨none, String.ofList (unescape cs)⟩]

theorem unstyled_of_ne_nil {cs : List Char} (h : cs ≠ []) :
    unstyled cs = [⟨none, String.ofList (unescape cs)⟩] := if_neg h

/-- The pieces that a tag and the text after it stand for. -/
def ofTagged : Tag × List Char → List Piece
  | (.opening style, cs) => [⟨some (String.ofList style), String.ofList (unescape cs)⟩]
  | (.closing, cs) => unstyled cs

end Piece

/-- The pieces that split HTML stands for. -/
def Parts.pieces (parts : Parts) : List Piece :=
  Piece.unstyled parts.front ++ parts.tagged.flatMap Piece.ofTagged

/-- Reads HTML back into pieces of text with their styles. -/
def decode (html : String) : List Piece := (split html.toList).pieces

/-- HTML without its tags. -/
def withoutTags (html : String) : String := String.ofList (split html.toList).text

namespace Parts

/-- The first tag, if there is one, opens a span. -/
def OpensFirst (parts : Parts) : Prop :=
  ∀ part ∈ parts.tagged.head?, ∃ style, part.1 = .opening style

theorem opensFirst_addText {cs : List Char} {parts : Parts} (h : parts.OpensFirst) :
    (parts.addText cs).OpensFirst := h

theorem opensFirst_addTag_opening (style : List Char) (parts : Parts) :
    (parts.addTag (.opening style)).OpensFirst := by
  intro part hpart
  obtain rfl := Option.some.inj hpart
  exact ⟨style, rfl⟩

/-- A span in front is one piece in front. -/
theorem pieces_span (style inner : List Char) (parts : Parts) :
    (((parts.addTag .closing).addText inner).addTag (.opening style)).pieces =
      ⟨some (String.ofList style), String.ofList (unescape inner)⟩ :: parts.pieces := by
  have hinner : ((parts.addTag .closing).addText inner).front = inner := List.append_nil inner
  rw [addTag, hinner]
  rfl

/-- Escaped text before the first tag is one piece with the text that stands there already. -/
theorem pieces_addText_escape {parts : Parts} (hparts : parts.OpensFirst) {text : String}
    (hne : text ≠ "") :
    (parts.addText (escape text).toList).pieces = Piece.glue ⟨none, text⟩ parts.pieces := by
  have hescape : (escape text).toList ≠ [] := fun hnil =>
    escape_ne_empty hne (String.toList_eq_nil_iff.mp hnil)
  have hfront : (escape text).toList ++ parts.front ≠ [] := by
    intro hnil
    exact hescape (List.append_eq_nil_iff.mp hnil).1
  have hread : String.ofList (unescape ((escape text).toList ++ parts.front)) =
      text ++ String.ofList (unescape parts.front) := by
    rw [toList_escape, unescape_flatMap_append, String.ofList_append, String.ofList_toList]
  rw [pieces, addText, Piece.unstyled_of_ne_nil hfront, hread]
  obtain ⟨front, tagged⟩ := parts
  cases front with
  | cons c front => rfl
  | nil =>
    -- nothing stands before the first tag, and the piece of that tag has a style
    rw [show unescape [] = [] from rfl, String.ofList_nil, String.append_empty]
    cases tagged with
    | nil => rfl
    | cons part tagged =>
      obtain ⟨tag, cs⟩ := part
      obtain ⟨style, rfl⟩ := hparts _ rfl
      rfl

end Parts

end Markup

namespace Highlighter

open Markup (Parts Piece escape unescape split)

/-! ## Tokens -/

/-- A token as its HTML tells it: its text, and the style that it is written with. -/
def piece (h : Highlighter) (token : Token) : Piece :=
  ⟨(h.group token).map h.styles.get, token.text⟩

/-- The HTML of a list of tokens. -/
def renderAll (h : Highlighter) (tokens : List Token) : List Char :=
  tokens.flatMap fun token => (h.render token).toList

theorem renderAll_nil (h : Highlighter) : h.renderAll [] = [] := rfl

theorem renderAll_cons (h : Highlighter) (token : Token) (tokens : List Token) :
    h.renderAll (token :: tokens) = (h.render token).toList ++ h.renderAll tokens := rfl

theorem toList_run (h : Highlighter) (text : String) :
    (h.run text).toList = h.renderAll (tokens text) := by
  rw [run_eq, String.toList_join, List.flatMap_map]
  rfl

theorem renderWith_of_group_none {h : Highlighter} {token : Token} (hgroup : h.group token = none)
    (styles : Styles) : h.renderWith styles token = escape token.text := by
  rw [renderWith, hgroup]

theorem renderWith_of_group_some {h : Highlighter} {token : Token} {group : StyleGroup}
    (hgroup : h.group token = some group) (styles : Styles) :
    h.renderWith styles token = Markup.span (styles.get group) (escape token.text) := by
  rw [renderWith, hgroup]

theorem split_render_of_unstyled (h : Highlighter) {token : Token} (hgroup : h.group token = none)
    (rest : List Char) :
    split ((h.render token).toList ++ rest) =
      (split rest).addText (escape token.text).toList := by
  rw [render, renderWith_of_group_none hgroup]
  exact Markup.split_append (Markup.isEscaped_escape token.text).lt_not_mem rest

theorem split_render_of_styled (h : Highlighter) {token : Token} {group : StyleGroup}
    (hgroup : h.group token = some group) (rest : List Char) :
    split ((h.render token).toList ++ rest) =
      (((split rest).addTag .closing).addText (escape token.text).toList).addTag
        (.opening (h.styles.get group).toList) := by
  rw [render, renderWith_of_group_some hgroup]
  have hstyle := (isStyleText_get h.foreground h.background group).hasNoMarkup
  exact Markup.split_span hstyle (Markup.isEscaped_escape token.text) rest

/-- What one token more does to split HTML. -/
theorem pieces_split_render (h : Highlighter) {token : Token} (hne : token.text ≠ "")
    {rest : List Char} (hrest : (split rest).OpensFirst) :
    (split ((h.render token).toList ++ rest)).OpensFirst ∧
      (split ((h.render token).toList ++ rest)).pieces =
        Piece.glue (h.piece token) (split rest).pieces := by
  cases hgroup : h.group token with
  | none =>
    have hpiece : h.piece token = ⟨none, token.text⟩ := by
      rw [piece, hgroup]
      rfl
    rw [h.split_render_of_unstyled hgroup, hpiece]
    exact ⟨Parts.opensFirst_addText hrest, Parts.pieces_addText_escape hrest hne⟩
  | some group =>
    have hpiece : h.piece token = ⟨some (h.styles.get group), token.text⟩ := by
      rw [piece, hgroup]
      rfl
    rw [h.split_render_of_styled hgroup, hpiece, Parts.pieces_span, String.ofList_toList,
      Markup.unescape_escape, String.ofList_toList]
    exact ⟨Parts.opensFirst_addTag_opening _ _, rfl⟩

theorem text_split_render (h : Highlighter) (token : Token) (rest : List Char) :
    (split ((h.render token).toList ++ rest)).text =
      (escape token.text).toList ++ (split rest).text := by
  cases hgroup : h.group token with
  | none => rw [h.split_render_of_unstyled hgroup, Parts.text_addText]
  | some group =>
    rw [h.split_render_of_styled hgroup, Parts.text_addTag, Parts.text_addText,
      Parts.text_addTag]

/-- Splitting the HTML of tokens gives back their pieces. -/
theorem pieces_split_renderAll (h : Highlighter) {tokens : List Token}
    (hne : ∀ token ∈ tokens, token.text ≠ "") :
    (split (h.renderAll tokens)).OpensFirst ∧
      (split (h.renderAll tokens)).pieces = Piece.merge (tokens.map h.piece) := by
  induction tokens with
  | nil =>
    rw [renderAll_nil, Markup.split_nil]
    refine ⟨?_, rfl⟩
    rintro part ⟨⟩
  | cons token tokens ih =>
    obtain ⟨hopens, hpieces⟩ := ih fun token' hmem => hne token' (List.mem_cons_of_mem _ hmem)
    rw [renderAll_cons, List.map_cons]
    have hstep := h.pieces_split_render (hne token List.mem_cons_self) hopens
    rw [hpieces] at hstep
    exact hstep

theorem text_split_renderAll (h : Highlighter) (tokens : List Token) :
    (split (h.renderAll tokens)).text = (spell tokens).flatMap Markup.escapeChar := by
  induction tokens with
  | nil =>
    rw [renderAll_nil, Markup.split_nil]
    rfl
  | cons token tokens ih =>
    rw [renderAll_cons, text_split_render, ih, Markup.toList_escape, spell_cons,
      List.flatMap_append]

/-- **Rendering can be undone**: decoding the HTML of a text gives back its tokens with their
styles, where neighbors without a style are merged, and decoding it without its tags gives back the
text. -/
theorem decode_run (h : Highlighter) (text : String) :
    Markup.decode (h.run text) = Piece.merge ((tokens text).map h.piece) ∧
      unescape (Markup.withoutTags (h.run text)).toList = text.toList := by
  constructor
  · rw [Markup.decode, toList_run]
    have hne : ∀ token ∈ tokens text, token.text ≠ "" := fun token hmem =>
      Scanner.text_ne_empty_of_mem_tokens hmem
    exact (h.pieces_split_renderAll hne).2
  · rw [Markup.withoutTags, String.toList_ofList, toList_run, text_split_renderAll,
      Scanner.spell_tokens, ← Markup.toList_escape]
    exact Markup.unescape_escape text

end Highlighter

end CodeHighlight
