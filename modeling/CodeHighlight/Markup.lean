/-!
# Markup — text and spans in HTML
-/

namespace CodeHighlight.Markup

/-- A character as it is written in HTML text and in quoted attribute values. -/
def escapeChar : Char → List Char
  | '&' => ['&', 'a', 'm', 'p', ';']
  | '<' => ['&', 'l', 't', ';']
  | '>' => ['&', 'g', 't', ';']
  | '"' => ['&', 'q', 'u', 'o', 't', ';']
  | '\'' => ['&', '#', '3', '9', ';']
  | c => [c]

/-- A text as it is written in HTML. -/
def escape (text : String) : String := String.ofList (text.toList.flatMap escapeChar)

/-- An element around HTML text that gives it an inline style. -/
def span (style inner : String) : String :=
  "<span style=\"" ++ style ++ "\">" ++ inner ++ "</span>"

end CodeHighlight.Markup
