import CodeHighlight.Pattern.Fault
import CodeHighlight.Text.Quoted

/-!
# Error — what can go wrong while a highlighter is set up

Highlighting itself never fails; only the reading of colors and of keyword patterns can.
-/

namespace CodeHighlight

/-- What can go wrong while a highlighter is set up. -/
inductive Error where
  /-- A text, given without the blanks around it, is no color. -/
  | invalidColor (text : String)
  /-- A text is no pattern. -/
  | invalidKeywordPattern (fault : Pattern.Fault)
  deriving DecidableEq

namespace Error

/-- What kind of thing is wrong. -/
def heading : Error → String
  | .invalidColor _ => "invalid color"
  | .invalidKeywordPattern _ => "invalid keyword pattern"

/-- What exactly is wrong with it. -/
def detail : Error → String
  | .invalidColor text => Text.quoted text
  | .invalidKeywordPattern fault => fault.message

/-- The error in words, given a text for the detail. -/
def messageWith (error : Error) (detail : String) : String := error.heading ++ ": " ++ detail

/-- The error in words. -/
def message (error : Error) : String := error.messageWith error.detail

end Error

end CodeHighlight
