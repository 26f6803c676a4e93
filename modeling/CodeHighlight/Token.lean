import CodeHighlight.Category

/-!
# Token — a piece of text with its category
-/

namespace CodeHighlight

/-- A piece of text with its lexical category. -/
structure Token where
  text : String
  category : Category
  deriving DecidableEq

namespace Token

/-- The number of characters of the token. -/
def length (token : Token) : Nat := token.text.length

def isEmpty (token : Token) : Bool := token.text.isEmpty

end Token

end CodeHighlight
