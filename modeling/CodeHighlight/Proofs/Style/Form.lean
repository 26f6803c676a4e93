import CodeHighlight.Proofs.Markup.Escaped
import CodeHighlight.Style.Css

/-!
# Proofs.Style.Form — what colors and styles look like as CSS text

The texts of colors, shadows and styles as a grammar, and the proof that every color is written in
it, whatever its four doubles are (`Color.isColorText_css`), and so is every style
(`isStyleText_get`).  No text of the grammar holds a character that means something in HTML
(`IsStyleText.hasNoMarkup`).
-/

namespace CodeHighlight

open Markup (HasNoMarkup markupChars)

/-! ## The grammar -/

/-- An upper-case hexadecimal digit. -/
def IsUpperHex (c : Char) : Prop := c.isDigit = true ∨ 'A' ≤ c ∧ c ≤ 'F'

/-- An alpha: a number with two decimals, an infinity, or no number. -/
inductive IsAlphaText : String → Prop
  | decimal {sign : String} (whole tenths hundredths : Nat) : sign = "" ∨ sign = "-" →
      tenths < 10 → hundredths < 10 →
      IsAlphaText (sign ++ whole.repr ++ "." ++ tenths.repr ++ hundredths.repr)
  | infinite {sign : String} : sign = "" ∨ sign = "-" → IsAlphaText (sign ++ "inf")
  | notANumber : IsAlphaText "NaN"

/-- A color as `#RRGGBB`. -/
def IsHexText (text : String) : Prop :=
  ∃ digits : String, digits.length = 6 ∧ (∀ d ∈ digits.toList, IsUpperHex d) ∧
    text = "#" ++ digits

/-- A color as `rgba(r,g,b,a)`. -/
def IsFunctionalText (text : String) : Prop :=
  ∃ (red green blue : Nat) (alpha : String), red ≤ 255 ∧ green ≤ 255 ∧ blue ≤ 255 ∧
    IsAlphaText alpha ∧
    text = "rgba(" ++ red.repr ++ "," ++ green.repr ++ "," ++ blue.repr ++ "," ++ alpha ++ ")"

def IsColorText (text : String) : Prop := IsHexText text ∨ IsFunctionalText text

/-- A shadow: its offset, the fixed vertical offset, its blur radius and its color. -/
def IsShadowText (text : String) : Prop :=
  ∃ (offset : Int) (blur : Nat) (color : String), IsColorText color ∧
    text = offset.repr ++ "px 0px " ++ blur.repr ++ "px " ++ color

/-- A style: a color and two shadows, in italics or not. -/
def IsStyleText (text : String) : Prop :=
  ∃ color first second italic : String, IsColorText color ∧ IsShadowText first ∧
    IsShadowText second ∧ (italic = "" ∨ italic = "; font-style: italic") ∧
    text = "color: " ++ color ++ "; text-shadow: " ++ first ++ ", " ++ second ++ italic

/-! ## Numbers -/

namespace Decimal

theorem ofList_hundredthsText (n : Nat) :
    String.ofList (hundredthsText n) =
      (n / 100).repr ++ "." ++ (n / 10 % 10).repr ++ (n % 10).repr := by
  have htenths : Nat.toDigits 10 (n / 10 % 10) = [Nat.digitChar (n / 10 % 10)] :=
    Nat.toDigits_of_lt_base (Nat.mod_lt _ (by decide))
  have hhundredths : Nat.toDigits 10 (n % 10) = [Nat.digitChar (n % 10)] :=
    Nat.toDigits_of_lt_base (Nat.mod_lt _ (by decide))
  rw [← String.toList_inj]
  simp [hundredthsText, Nat.toList_repr, htenths, hhundredths]

theorem ofList_signText (sign : Float.Model.UnpackedFloat.Sign) :
    String.ofList (signText sign) = "" ∨ String.ofList (signText sign) = "-" := by
  cases sign
  · exact Or.inr rfl
  · exact Or.inl rfl

/-- Every double is written in the form of an alpha, also those that are not finite. -/
theorem isAlphaText_twoPlaces (x : Float) : IsAlphaText (String.ofList (twoPlaces x)) := by
  have hdecimal (sign : Float.Model.UnpackedFloat.Sign) (n : Nat) :
      IsAlphaText (String.ofList (signText sign ++ hundredthsText n)) := by
    rw [String.ofList_append, ofList_hundredthsText, ← String.append_assoc, ← String.append_assoc,
      ← String.append_assoc]
    exact .decimal _ _ _ (ofList_signText sign) (Nat.mod_lt _ (by decide))
      (Nat.mod_lt _ (by decide))
  unfold twoPlaces
  split
  · exact .notANumber
  · rw [String.ofList_append]
    exact .infinite (ofList_signText _)
  · exact hdecimal _ _
  · exact hdecimal _ _

end Decimal

theorem isUpperHex_hexDigit {n : Nat} (h : n < 16) : IsUpperHex (Text.hexDigit n) := by
  have hall : ∀ n : Fin 16, (Text.hexDigit n).isDigit = true ∨
      'A' ≤ Text.hexDigit n ∧ Text.hexDigit n ≤ 'F' := by decide
  exact hall ⟨n, h⟩

theorem isUpperHex_of_mem_hexByte {byte : UInt8} {c : Char} (h : c ∈ Text.hexByte byte) :
    IsUpperHex c := by
  have hlt := byte.toNat_lt
  simp only [Text.hexByte, List.mem_cons, List.not_mem_nil, or_false] at h
  rcases h with rfl | rfl
  · exact isUpperHex_hexDigit (by omega)
  · exact isUpperHex_hexDigit (by omega)

/-! ## Colors and styles -/

namespace Color

theorem isHexText_hexText (color : Color Float) : IsHexText (String.ofList color.hexText) := by
  let digits (channel : Float) := Text.hexByte (Decimal.nearestByte channel)
  refine ⟨String.ofList (digits color.red ++ digits color.green ++ digits color.blue), ?_, ?_, ?_⟩
  · simp [digits, Text.hexByte]
  · intro d hd
    rw [String.toList_ofList, List.mem_append, List.mem_append] at hd
    rcases hd with (hd | hd) | hd <;> exact isUpperHex_of_mem_hexByte hd
  · rw [← String.toList_inj]
    simp [hexText, digits]

theorem isFunctionalText_functionalText (color : Color Float) (alpha : Float) :
    IsFunctionalText (String.ofList (color.functionalText alpha)) := by
  have hle (byte : UInt8) : byte.toNat ≤ 255 := by
    have hlt := byte.toNat_lt
    omega
  refine ⟨_, _, _, _, hle (Decimal.nearestByte color.red), hle (Decimal.nearestByte color.green),
    hle (Decimal.nearestByte color.blue), Decimal.isAlphaText_twoPlaces alpha, ?_⟩
  rw [← String.toList_inj]
  simp [functionalText, Nat.toList_repr]

/-- Every color is written in one of the two notations. -/
theorem isColorText_css (color : Color Float) : IsColorText color.css := by
  unfold css
  dsimp only
  split
  · exact Or.inl (isHexText_hexText color)
  · exact Or.inr (isFunctionalText_functionalText color _)

end Color

theorem isShadowText_css (shadow : Shadow Float) (color : Color Float) :
    IsShadowText (shadow.css color) :=
  ⟨shadow.offset, shadow.blur, color.css, color.isColorText_css, rfl⟩

theorem Style.isStyleText_css {style : Style} (hcolor : IsColorText style.color)
    (hfirst : IsShadowText style.firstShadow) (hsecond : IsShadowText style.secondShadow) :
    IsStyleText style.css := by
  refine ⟨style.color, style.firstShadow, style.secondShadow,
    if style.italic then "; font-style: italic" else "", hcolor, hfirst, hsecond, ?_, rfl⟩
  by_cases hitalic : style.italic = true
  · exact Or.inr (if_pos hitalic)
  · exact Or.inl (if_neg hitalic)

/-- The four styles have the form of styles, whatever the two colors are. -/
theorem isStyleText_get (foreground background : Color Float) (group : StyleGroup) :
    IsStyleText ((Styles.ofColors foreground background).get group) := by
  rw [Styles.get_ofColors]
  exact Style.isStyleText_css (Color.isColorText_css _) (isShadowText_css _ _)
    (isShadowText_css _ _)

/-! ## No markup -/

theorem not_mem_markupChars_of_isUpperHex {c : Char} (h : IsUpperHex c) : c ∉ markupChars := by
  intro hmem
  unfold IsUpperHex at h
  rcases Markup.mem_markupChars.mp hmem with rfl | rfl | rfl | rfl | rfl <;>
    exact absurd h (by decide)

theorem hasNoMarkup_repr (n : Nat) : HasNoMarkup n.repr := by
  intro c hc
  rw [Nat.toList_repr] at hc
  have hdigit : c.isDigit = true := Nat.isDigit_of_mem_toDigits (by decide) (by decide) hc
  exact not_mem_markupChars_of_isUpperHex (Or.inl hdigit)

theorem hasNoMarkup_int_repr (n : Int) : HasNoMarkup n.repr := by
  cases n with
  | ofNat n => exact hasNoMarkup_repr n
  | negSucc n => exact HasNoMarkup.append (by decide) (hasNoMarkup_repr (n + 1))

theorem IsAlphaText.hasNoMarkup {text : String} (h : IsAlphaText text) : HasNoMarkup text := by
  have hsign {sign : String} (h : sign = "" ∨ sign = "-") : HasNoMarkup sign := by
    rcases h with rfl | rfl <;> decide
  cases h with
  | decimal whole tenths hundredths h =>
    exact ((((hsign h).append (hasNoMarkup_repr whole)).append (by decide)).append
      (hasNoMarkup_repr tenths)).append (hasNoMarkup_repr hundredths)
  | infinite h => exact (hsign h).append (by decide)
  | notANumber => decide

theorem IsColorText.hasNoMarkup {text : String} (h : IsColorText text) : HasNoMarkup text := by
  rcases h with ⟨digits, -, hdigits, rfl⟩ | ⟨red, green, blue, alpha, -, -, -, halpha, rfl⟩
  · have hhex : HasNoMarkup digits := fun d hd =>
      not_mem_markupChars_of_isUpperHex (hdigits d hd)
    exact HasNoMarkup.append (by decide) hhex
  · have hcomma : HasNoMarkup "," := by decide
    have hhead : HasNoMarkup ("rgba(" ++ red.repr ++ "," ++ green.repr ++ "," ++ blue.repr) :=
      ((((HasNoMarkup.append (by decide) (hasNoMarkup_repr red)).append hcomma).append
        (hasNoMarkup_repr green)).append hcomma).append (hasNoMarkup_repr blue)
    exact ((hhead.append hcomma).append halpha.hasNoMarkup).append (by decide)

theorem IsShadowText.hasNoMarkup {text : String} (h : IsShadowText text) : HasNoMarkup text := by
  obtain ⟨offset, blur, color, hcolor, rfl⟩ := h
  exact (((((hasNoMarkup_int_repr offset).append (by decide)).append
    (hasNoMarkup_repr blur)).append (by decide)).append hcolor.hasNoMarkup)

/-- A style can stand between the quotes of an attribute as it is. -/
theorem IsStyleText.hasNoMarkup {text : String} (h : IsStyleText text) : HasNoMarkup text := by
  obtain ⟨color, first, second, italic, hcolor, hfirst, hsecond, hitalic, rfl⟩ := h
  have hlast : HasNoMarkup italic := by
    rcases hitalic with rfl | rfl <;> decide
  have hcolored : HasNoMarkup ("color: " ++ color ++ "; text-shadow: ") :=
    (HasNoMarkup.append (by decide) hcolor.hasNoMarkup).append (by decide)
  exact (((hcolored.append hfirst.hasNoMarkup).append (by decide)).append
    hsecond.hasNoMarkup).append hlast

end CodeHighlight
