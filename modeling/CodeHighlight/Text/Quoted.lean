import CodeHighlight.Text.Printable

/-!
# Text.Quoted — text between double quotes

`quoted` writes a text in double quotes so that every character of it can be told by sight: quotes
and backslashes get a backslash, four controls have a letter, and what is not printable is written
with the hexadecimal digits of its code point.
-/

namespace CodeHighlight.Text

/-- The written form of one character. -/
def quotedChar (c : Char) : List Char :=
  match c with
  | '"' => ['\\', '"']
  | '\\' => ['\\', '\\']
  | '\x00' => ['\\', '0']
  | '\t' => ['\\', 't']
  | '\n' => ['\\', 'n']
  | '\r' => ['\\', 'r']
  | c =>
    if isPrintable c then [c]
    else '\\' :: 'u' :: '{' :: Nat.toDigits 16 c.toNat ++ ['}']

/-- The text between double quotes. -/
def quoted (text : String) : String :=
  String.ofList ('"' :: text.toList.flatMap quotedChar ++ ['"'])

end CodeHighlight.Text
