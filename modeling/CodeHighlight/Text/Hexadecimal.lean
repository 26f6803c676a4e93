/-!
# Text.Hexadecimal — hexadecimal digits

`hexByte` writes a byte with two upper-case digits and `hexValue?` reads one digit of either case.
-/

namespace CodeHighlight.Text

/-- The upper-case digit of a number below sixteen. -/
def hexDigit (n : Nat) : Char := (Nat.digitChar n).toUpper

/-- A byte with two digits. -/
def hexByte (byte : UInt8) : List Char := [hexDigit (byte.toNat / 16), hexDigit (byte.toNat % 16)]

/-- The value of a digit of either case. -/
def hexValue? (c : Char) : Option Nat :=
  if c.isDigit then some (c.toNat - '0'.toNat)
  else if 'a' ≤ c && c ≤ 'f' then some (c.toNat - 'a'.toNat + 10)
  else if 'A' ≤ c && c ≤ 'F' then some (c.toNat - 'A'.toNat + 10)
  else none

theorem hexValue?_hexDigit {n : Nat} (h : n < 16) : hexValue? (hexDigit n) = some n := by
  have := (by decide : ∀ n : Fin 16, hexValue? (hexDigit n) = some n.val)
  exact this ⟨n, h⟩

end CodeHighlight.Text
