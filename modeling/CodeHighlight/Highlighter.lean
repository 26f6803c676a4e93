import CodeHighlight.Color.Parse
import CodeHighlight.Keywords
import CodeHighlight.Markup
import CodeHighlight.Scanner
import CodeHighlight.Style.Css

/-!
# Highlighter — from source code to HTML

A `Highlighter` holds two colors and a set of keywords.  `run` splits a text into tokens and writes
each of them as escaped text, inside a span if its category has a style.  Nothing wraps the result,
and nothing in it depends on earlier runs.
-/

namespace CodeHighlight

/-- What a text is highlighted with. -/
structure Highlighter where
  foreground : Color Float
  background : Color Float
  keywords : Keywords

namespace Highlighter

/-- Black on transparent white, with the shipped keywords. -/
def default : Highlighter := ⟨.black, .transparentWhite, .shipped⟩

/-- The highlighter with another foreground. -/
def withForeground (h : Highlighter) (color : Color Float) : Highlighter :=
  { h with foreground := color }

/-- The highlighter with another background. -/
def withBackground (h : Highlighter) (color : Color Float) : Highlighter :=
  { h with background := color }

/-- The highlighter with another set of keywords. -/
def withKeywords (h : Highlighter) (keywords : Keywords) : Highlighter :=
  { h with keywords := keywords }

/-- The highlighter with the keywords that a written pattern tells. -/
def withKeywordPattern (h : Highlighter) (text : String) : Except Error Highlighter :=
  h.withKeywords <$> Keywords.ofWrittenPattern text

/-- The highlighter with the keywords of a list. -/
def withKeywordList (h : Highlighter) (words : List String) : Except Error Highlighter :=
  h.withKeywords <$> Keywords.ofWords words

/-- The declarations of each style group. -/
def styles (h : Highlighter) : Styles := .ofColors h.foreground h.background

/-- The style group of a token, if it has one. -/
def group (h : Highlighter) (token : Token) : Option StyleGroup :=
  token.category.styleGroup fun _ => h.keywords.isKeyword token.text

/-- A token in HTML, with given styles. -/
def renderWith (h : Highlighter) (styles : Styles) (token : Token) : String :=
  match h.group token with
  | some group => Markup.span (styles.get group) (Markup.escape token.text)
  | none => Markup.escape token.text

/-- A token in HTML. -/
def render (h : Highlighter) (token : Token) : String := h.renderWith h.styles token

/-- The text in HTML. -/
def run (h : Highlighter) (text : String) : String :=
  let styles := h.styles
  String.join ((tokens text).map (h.renderWith styles))

theorem run_eq (h : Highlighter) (text : String) :
    h.run text = String.join ((tokens text).map h.render) := rfl

end Highlighter

/-- The text in HTML, in the given colors and with the shipped keywords. -/
def highlightWith (text : String) (foreground background : Color Float) : String :=
  Highlighter.run ⟨foreground, background, .shipped⟩ text

/-- The text in HTML, black on transparent white and with the shipped keywords. -/
def highlight (text : String) : String := highlightWith text .black .transparentWhite

end CodeHighlight
