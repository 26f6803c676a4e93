import CodeHighlight.Highlighter
import CodeHighlight.Proofs.Scan.Lossless
import CodeHighlight.Proofs.Style.Form

/-!
# Proofs.Markup.Segment — what a highlighted text is made of

The HTML of a text is a sequence of segments, each of them escaped text or one span around escaped
text with one of the four styles (`run_eq_join_segments`).  So neither a text nor a color can bring
in markup of its own, and spans are never nested.
-/

namespace CodeHighlight

namespace Markup

/-- A part of a highlighted text: HTML text, or a span with a style around HTML text. -/
inductive Segment where
  | text (inner : String)
  | span (style inner : String)

namespace Segment

/-- The segment as it is written. -/
def html : Segment → String
  | text inner => inner
  | span style inner => "<span style=\"" ++ style ++ "\">" ++ inner ++ "</span>"

/-- The segment holds escaped text only, and a style is one of the given ones, has the form of a
style, and is no markup either. -/
def IsSafe (styles : Styles) : Segment → Prop
  | text inner => IsEscaped inner.toList
  | span style inner =>
    (∃ group, style = styles.get group) ∧ IsStyleText style ∧ HasNoMarkup style ∧
      inner ≠ "" ∧ IsEscaped inner.toList

end Segment

end Markup

namespace Highlighter

open Markup (Segment)

/-- The segment that a token is written as. -/
def segment (h : Highlighter) (token : Token) : Segment :=
  match h.group token with
  | some group => .span (h.styles.get group) (Markup.escape token.text)
  | none => .text (Markup.escape token.text)

theorem html_segment (h : Highlighter) (token : Token) :
    (h.segment token).html = h.render token := by
  unfold segment render renderWith
  cases h.group token <;> rfl

theorem run_eq_join (h : Highlighter) (text : String) :
    h.run text = String.join (((tokens text).map h.segment).map Segment.html) := by
  rw [run_eq, List.map_map]
  exact congrArg String.join (List.map_congr_left fun token _ => (h.html_segment token).symm)

theorem isSafe_segment (h : Highlighter) {token : Token} (hne : token.text ≠ "") :
    (h.segment token).IsSafe h.styles := by
  unfold segment
  cases h.group token with
  | none => exact Markup.isEscaped_escape token.text
  | some group =>
    have hform : IsStyleText (h.styles.get group) :=
      isStyleText_get h.foreground h.background group
    exact ⟨⟨group, rfl⟩, hform, hform.hasNoMarkup, Markup.escape_ne_empty hne,
      Markup.isEscaped_escape token.text⟩

/-- **No injection**: whatever the text, the colors and the keywords are, the HTML consists of
escaped text and of spans with one of the four styles around escaped text. -/
theorem run_eq_join_segments (h : Highlighter) (text : String) :
    ∃ segments : List Segment, h.run text = String.join (segments.map Segment.html) ∧
      ∀ segment ∈ segments, segment.IsSafe (.ofColors h.foreground h.background) := by
  refine ⟨(tokens text).map h.segment, h.run_eq_join text, fun segment hmem => ?_⟩
  obtain ⟨token, ht, rfl⟩ := List.mem_map.mp hmem
  exact h.isSafe_segment (Scanner.text_ne_empty_of_mem_tokens ht)

end Highlighter

end CodeHighlight
