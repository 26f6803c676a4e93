import CodeHighlight.Decimal.Rounding

/-!
# Decimal.Places — doubles written with two decimals

`twoPlaces` writes the exact value of a double with two digits after the point, without an exponent
however large it is.
-/

namespace CodeHighlight.Decimal

open Float.Model (UnpackedFloat)

/-- A number of hundredths in decimal notation, with two digits after the point. -/
def hundredthsText (n : Nat) : List Char :=
  Nat.toDigits 10 (n / 100) ++ ['.', Nat.digitChar (n / 10 % 10), Nat.digitChar (n % 10)]

/-- A minus sign in front of a negative number. -/
def signText : UnpackedFloat.Sign → List Char
  | .negative => ['-']
  | .positive => []

/-- A double with two decimals.  A tie goes to the even hundredth, and the sign is kept also where
all digits are zero. -/
def twoPlaces (x : Float) : List Char :=
  match x.toModel.unpack with
  | .notANumber => ['N', 'a', 'N']
  | .infinity sign => signText sign ++ ['i', 'n', 'f']
  | .zero sign => signText sign ++ hundredthsText 0
  | .finite sign m e _ => signText sign ++ hundredthsText (roundScaled .toEven 100 m e)

end CodeHighlight.Decimal
