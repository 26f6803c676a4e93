import CodeHighlight.Color.Parse
import CodeHighlight.Proofs.Decimal.Numeral
import CodeHighlight.Proofs.Text.Trim
import Mathlib

/-!
# Proofs.Color.Grammar — the texts that are colors

`Spells` lists the texts that stand for a color, with the color: three, four, six or eight
hexadecimal digits after a number sign, and three or four numerals among blanks in a call of `rgb`
or `rgba`.  Reading accepts these texts and no others, whatever blanks stand around them, and names
what it refuses (`parse_spells`).
-/

namespace CodeHighlight.Color

open Text (isBlank IsTrimmed)

/-! ## The grammar -/

/-- A hexadecimal digit of either case and its value. -/
def IsHexDigit (c : Char) (value : Nat) : Prop :=
  "0123456789abcdef".toList[value]? = some c ∨ "0123456789ABCDEF".toList[value]? = some c

/-- A field of a call: a numeral among blanks. -/
inductive IsField : List Char → Float → Prop
  | numeral {front word back : List Char} {x : Float} :
      (∀ c ∈ front, isBlank c = true) → (∀ c ∈ back, isBlank c = true) → word ≠ [] →
      (∀ c ∈ word, c ≠ ',' ∧ isBlank c = false ∧ c ≠ ')') → Decimal.number? word = some x →
      IsField (front ++ word ++ back) x

/-- The text stands for the color. -/
inductive Spells : List Char → Color Float → Prop
  /-- A digit for each channel, which stands for two of its kind. -/
  | digits {c₁ c₂ c₃ : Char} {r g b : Nat} :
      IsHexDigit c₁ r → IsHexDigit c₂ g → IsHexDigit c₃ b →
      Spells ['#', c₁, c₂, c₃] ⟨.ofNat (16 * r + r), .ofNat (16 * g + g), .ofNat (16 * b + b), 1⟩
  /-- A digit for each channel and one for the alpha. -/
  | digitsAlpha {c₁ c₂ c₃ c₄ : Char} {r g b a : Nat} :
      IsHexDigit c₁ r → IsHexDigit c₂ g → IsHexDigit c₃ b → IsHexDigit c₄ a →
      Spells ['#', c₁, c₂, c₃, c₄]
        ⟨.ofNat (16 * r + r), .ofNat (16 * g + g), .ofNat (16 * b + b), .ofNat (16 * a + a) / 255⟩
  /-- Two digits for each channel. -/
  | pairs {c₁ d₁ c₂ d₂ c₃ d₃ : Char} {r r' g g' b b' : Nat} :
      IsHexDigit c₁ r → IsHexDigit d₁ r' → IsHexDigit c₂ g → IsHexDigit d₂ g' →
      IsHexDigit c₃ b → IsHexDigit d₃ b' →
      Spells ['#', c₁, d₁, c₂, d₂, c₃, d₃]
        ⟨.ofNat (16 * r + r'), .ofNat (16 * g + g'), .ofNat (16 * b + b'), 1⟩
  /-- Two digits for each channel and two for the alpha. -/
  | pairsAlpha {c₁ d₁ c₂ d₂ c₃ d₃ c₄ d₄ : Char} {r r' g g' b b' a a' : Nat} :
      IsHexDigit c₁ r → IsHexDigit d₁ r' → IsHexDigit c₂ g → IsHexDigit d₂ g' →
      IsHexDigit c₃ b → IsHexDigit d₃ b' → IsHexDigit c₄ a → IsHexDigit d₄ a' →
      Spells ['#', c₁, d₁, c₂, d₂, c₃, d₃, c₄, d₄]
        ⟨.ofNat (16 * r + r'), .ofNat (16 * g + g'), .ofNat (16 * b + b'),
          .ofNat (16 * a + a') / 255⟩
  /-- A call with a number for each channel. -/
  | call {name : String} {f₁ f₂ f₃ : List Char} {r g b : Float} :
      name = "rgb(" ∨ name = "rgba(" → IsField f₁ r → IsField f₂ g → IsField f₃ b →
      Spells (name.toList ++ (f₁ ++ ',' :: (f₂ ++ ',' :: f₃)) ++ [')']) ⟨r, g, b, 1⟩
  /-- A call with a number for each channel and one for the alpha. -/
  | callAlpha {name : String} {f₁ f₂ f₃ f₄ : List Char} {r g b a : Float} :
      name = "rgb(" ∨ name = "rgba(" → IsField f₁ r → IsField f₂ g → IsField f₃ b → IsField f₄ a →
      Spells (name.toList ++ (f₁ ++ ',' :: (f₂ ++ ',' :: (f₃ ++ ',' :: f₄))) ++ [')']) ⟨r, g, b, a⟩

/-! ## Hexadecimal notation -/

theorem mapM_eq_some_iff {α β : Type} {f : α → Option β} {xs : List α} {ys : List β} :
    xs.mapM f = some ys ↔ List.Forall₂ (fun x y => f x = some y) xs ys := by
  induction xs generalizing ys with
  | nil => simp [eq_comm]
  | cons x xs ih =>
    rw [List.mapM_cons]
    constructor
    · intro h
      obtain ⟨y, hy, h⟩ := Option.bind_eq_some_iff.mp h
      obtain ⟨ys', hys, h⟩ := Option.bind_eq_some_iff.mp h
      cases h
      exact .cons hy (ih.mp hys)
    · rintro (_ | ⟨hy, hys⟩)
      rw [hy, ih.mpr hys]
      rfl

/-- Where digits stand in a row with their codes, a digit is found by its code. -/
theorem getElem?_of_row {c : Char} (first last : Char) (digits : List Char) (offset : Nat)
    (h : first ≤ c) (h' : c ≤ last)
    (hrow : ∀ k < last.toNat + 1 - first.toNat,
      digits[k + offset]? = some (Char.ofNat (first.toNat + k))) :
    digits[c.toNat - first.toNat + offset]? = some c := by
  have hfirst : first.toNat ≤ c.toNat := h
  have hlast : c.toNat ≤ last.toNat := h'
  rw [hrow (c.toNat - first.toNat) (by omega), Nat.add_sub_cancel' hfirst, Char.ofNat_toNat]

theorem hexValue?_eq_some_iff {c : Char} {value : Nat} :
    Text.hexValue? c = some value ↔ IsHexDigit c value := by
  constructor
  · intro h
    simp only [Text.hexValue?, Char.isDigit, Bool.and_eq_true, decide_eq_true_eq] at h
    split at h
    · rename_i hdigit
      obtain rfl := Option.some.inj h
      exact .inl (getElem?_of_row '0' '9' _ 0 hdigit.1 hdigit.2 (by decide))
    split at h
    · rename_i hlower
      obtain rfl := Option.some.inj h
      exact .inl (getElem?_of_row 'a' 'f' _ 10 hlower.1 hlower.2 (by decide))
    split at h
    · rename_i hupper
      obtain rfl := Option.some.inj h
      exact .inr (getElem?_of_row 'A' 'F' _ 10 hupper.1 hupper.2 (by decide))
    · cases h
  · intro h
    have hall : ∀ k < 16, "0123456789abcdef".toList[k]?.bind Text.hexValue? = some k ∧
        "0123456789ABCDEF".toList[k]?.bind Text.hexValue? = some k := by decide
    have hlt : value < 16 := by
      rcases h with h | h <;> exact (List.getElem?_eq_some_iff.mp h).1
    obtain ⟨hlower, hupper⟩ := hall value hlt
    rcases h with h | h
    · rwa [h] at hlower
    · rwa [h] at hupper

theorem ofHexDigits?_eq_some_iff {cs : List Char} {color : Color Float} :
    ofHexDigits? cs = some color ↔ Spells ('#' :: cs) color := by
  have hdouble (n : Nat) : 17 * n = 16 * n + n := by omega
  constructor
  · intro h
    obtain ⟨values, hvalues, h⟩ := Option.bind_eq_some_iff.mp h
    obtain ⟨bytes, hbytes, h⟩ := Option.bind_eq_some_iff.mp h
    have hdigits : List.Forall₂ IsHexDigit cs values :=
      (mapM_eq_some_iff.mp hvalues).imp fun _ _ => hexValue?_eq_some_iff.mp
    unfold bytes? at hbytes
    split at hbytes
    · obtain rfl := Option.some.inj hbytes
      obtain rfl := Option.some.inj h
      rcases hdigits with _ | ⟨h₁, _ | ⟨h₂, _ | ⟨h₃, _ | _⟩⟩⟩
      simp only [hdouble]
      exact .digits h₁ h₂ h₃
    · obtain rfl := Option.some.inj hbytes
      obtain rfl := Option.some.inj h
      rcases hdigits with _ | ⟨h₁, _ | ⟨h₂, _ | ⟨h₃, _ | ⟨h₄, _ | _⟩⟩⟩⟩
      simp only [hdouble]
      exact .digitsAlpha h₁ h₂ h₃ h₄
    · obtain rfl := Option.some.inj hbytes
      obtain rfl := Option.some.inj h
      rcases hdigits with
        _ | ⟨h₁, _ | ⟨h₂, _ | ⟨h₃, _ | ⟨h₄, _ | ⟨h₅, _ | ⟨h₆, _ | _⟩⟩⟩⟩⟩⟩
      exact .pairs h₁ h₂ h₃ h₄ h₅ h₆
    · obtain rfl := Option.some.inj hbytes
      obtain rfl := Option.some.inj h
      rcases hdigits with
        _ | ⟨h₁, _ | ⟨h₂, _ | ⟨h₃, _ | ⟨h₄, _ | ⟨h₅, _ | ⟨h₆, _ | ⟨h₇, _ | ⟨h₈, _ | _⟩⟩⟩⟩⟩⟩⟩⟩
      exact .pairsAlpha h₁ h₂ h₃ h₄ h₅ h₆ h₇ h₈
    · cases hbytes
  · intro h
    have hvalue {c : Char} {value : Nat} (h : IsHexDigit c value) :
        Text.hexValue? c = some value := hexValue?_eq_some_iff.mpr h
    generalize hfull : '#' :: cs = full at h
    cases h with
    | digits h₁ h₂ h₃ =>
      obtain ⟨-, rfl⟩ := List.cons.inj hfull
      simp [ofHexDigits?, bytes?, ofBytes?, ofChannels, hvalue h₁, hvalue h₂, hvalue h₃, hdouble]
    | digitsAlpha h₁ h₂ h₃ h₄ =>
      obtain ⟨-, rfl⟩ := List.cons.inj hfull
      simp [ofHexDigits?, bytes?, ofBytes?, hvalue h₁, hvalue h₂, hvalue h₃, hvalue h₄, hdouble]
    | pairs h₁ h₂ h₃ h₄ h₅ h₆ =>
      obtain ⟨-, rfl⟩ := List.cons.inj hfull
      simp [ofHexDigits?, bytes?, ofBytes?, ofChannels, hvalue h₁, hvalue h₂, hvalue h₃, hvalue h₄,
        hvalue h₅, hvalue h₆]
    | pairsAlpha h₁ h₂ h₃ h₄ h₅ h₆ h₇ h₈ =>
      obtain ⟨-, rfl⟩ := List.cons.inj hfull
      simp [ofHexDigits?, bytes?, ofBytes?, hvalue h₁, hvalue h₂, hvalue h₃, hvalue h₄, hvalue h₅,
        hvalue h₆, hvalue h₇, hvalue h₈]
    | call hname => rcases hname with rfl | rfl <;> simp at hfull
    | callAlpha hname => rcases hname with rfl | rfl <;> simp at hfull

/-! ## Functional notation -/

theorem argument?_eq_some_iff {field : List Char} {x : Float} :
    argument? field = some x ↔ IsField field x := by
  constructor
  · intro h
    obtain ⟨⟨front, back, hsplit, hfront, hback⟩, -, -⟩ := Text.isTrimmed_trim field
    have hchars := Decimal.isNumeralChar_of_number? h
    rw [hsplit]
    refine .numeral hfront hback (fun hnil => ?_) (fun c hc => ⟨?_, ?_, ?_⟩) h
    · rw [argument?, hnil] at h
      cases h
    · exact (hchars c hc).ne_of (.inl rfl)
    · exact (hchars c hc).isBlank
    · exact (hchars c hc).ne_of (.inr rfl)
  · rintro ⟨hfront, hback, -, hword, hnumber⟩
    rw [argument?, Text.trim_append hfront hback fun c hc => (hword c hc).2.1, hnumber]

theorem IsField.comma_not_mem {field : List Char} {x : Float} (h : IsField field x) :
    ',' ∉ field := by
  have hcomma : isBlank ',' = false := by decide
  obtain ⟨hfront, hback, -, hword, -⟩ := h
  simp only [List.mem_append, not_or]
  refine ⟨⟨fun hc => ?_, fun hc => (hword _ hc).1 rfl⟩, fun hc => ?_⟩
  · rw [hfront _ hc] at hcomma
    cases hcomma
  · rw [hback _ hc] at hcomma
    cases hcomma

theorem fields_of_comma_not_mem {cs : List Char} (h : ',' ∉ cs) : fields cs = [cs] := by
  induction cs with
  | nil => rfl
  | cons c cs ih =>
    obtain ⟨hc, hcs⟩ := not_or.mp (mt List.mem_cons.mpr h)
    rw [fields, if_neg (by simpa using Ne.symm hc), ih hcs]

theorem fields_append_comma {field : List Char} (h : ',' ∉ field) (cs : List Char) :
    fields (field ++ ',' :: cs) = field :: fields cs := by
  induction field with
  | nil => simp [fields]
  | cons c field ih =>
    obtain ⟨hc, hfield⟩ := not_or.mp (mt List.mem_cons.mpr h)
    rw [List.cons_append, fields, if_neg (by simpa using Ne.symm hc), ih hfield]

theorem fields_ne_nil (cs : List Char) : fields cs ≠ [] := by
  cases cs with
  | nil => simp [fields]
  | cons c cs =>
    rw [fields]
    split
    · simp
    · split <;> simp

/-- The pieces between commas make up the text with commas between them. -/
theorem intercalate_fields (cs : List Char) : [','].intercalate (fields cs) = cs := by
  induction cs with
  | nil => rfl
  | cons c cs ih =>
    obtain ⟨field, rest, hfields⟩ := List.exists_cons_of_ne_nil (fields_ne_nil cs)
    rw [hfields] at ih
    by_cases hc : c = ','
    · rw [fields, if_pos (by simpa using hc), hfields, List.intercalate_cons_cons, ih, hc]
      rfl
    · rw [fields, if_neg (by simpa using hc), hfields]
      cases rest with
      | nil => simpa using ih
      | cons field' rest =>
        rw [List.intercalate_cons_cons] at ih ⊢
        rw [List.cons_append, List.cons_append, ih]

theorem callBody?_eq_some_iff {cs body : List Char} :
    callBody? cs = some body ↔
      ∃ name : String, (name = "rgb(" ∨ name = "rgba(") ∧ cs = name.toList ++ body ++ [')'] := by
  have hbody {inner : List Char} :
      (if inner.getLast? == some ')' then some inner.dropLast else none) = some body ↔
        inner = body ++ [')'] := by
    rw [Option.ite_none_right_eq_some, beq_iff_eq, Option.some.injEq]
    constructor
    · rintro ⟨hlast, rfl⟩
      obtain ⟨front, rfl⟩ := List.getLast?_eq_some_iff.mp hlast
      rw [List.dropLast_concat]
    · rintro rfl
      exact ⟨List.getLast?_concat, List.dropLast_concat⟩
  unfold callBody?
  split
  · rename_i inner
    rw [Option.bind_some, hbody]
    constructor
    · rintro rfl
      exact ⟨"rgb(", .inl rfl, rfl⟩
    · rintro ⟨_, rfl | rfl, h⟩ <;> simp_all
  · rename_i inner
    rw [Option.bind_some, hbody]
    constructor
    · rintro rfl
      exact ⟨"rgba(", .inr rfl, rfl⟩
    · rintro ⟨_, rfl | rfl, h⟩ <;> simp_all
  · rename_i hrgb hrgba
    refine iff_of_false (fun h => by cases h) ?_
    rintro ⟨_, rfl | rfl, rfl⟩
    · exact hrgb _ rfl
    · exact hrgba _ rfl

theorem ofCall?_eq_some_iff {cs : List Char} {color : Color Float} (hcs : cs.head? ≠ some '#') :
    ofCall? cs = some color ↔ Spells cs color := by
  constructor
  · intro h
    obtain ⟨body, hbody, hfields⟩ := Option.bind_eq_some_iff.mp h
    obtain ⟨xs, hxs, hcolor⟩ := Option.bind_eq_some_iff.mp hfields
    obtain ⟨name, hname, rfl⟩ := callBody?_eq_some_iff.mp hbody
    have hargs : List.Forall₂ IsField (fields body) xs :=
      (mapM_eq_some_iff.mp hxs).imp fun _ _ => argument?_eq_some_iff.mp
    have hsplit := intercalate_fields body
    generalize fields body = fs at hargs hsplit
    rw [← hsplit]
    unfold ofArguments? at hcolor
    split at hcolor
    · obtain rfl := Option.some.inj hcolor
      rcases hargs with _ | ⟨h₁, _ | ⟨h₂, _ | ⟨h₃, _ | _⟩⟩⟩
      simp only [ofChannels, List.intercalate_cons_cons, List.intercalate_singleton,
        List.append_assoc, List.singleton_append]
      simpa only [List.append_assoc, List.cons_append] using Spells.call hname h₁ h₂ h₃
    · obtain rfl := Option.some.inj hcolor
      rcases hargs with _ | ⟨h₁, _ | ⟨h₂, _ | ⟨h₃, _ | ⟨h₄, _ | _⟩⟩⟩⟩
      simp only [List.intercalate_cons_cons, List.intercalate_singleton, List.append_assoc,
        List.singleton_append]
      simpa only [List.append_assoc, List.cons_append] using Spells.callAlpha hname h₁ h₂ h₃ h₄
    · cases hcolor
  · intro h
    have hcall {name : String} {body : List Char} (xs : List Float)
        (hname : name = "rgb(" ∨ name = "rgba(") (hargs : List.Forall₂ IsField (fields body) xs) :
        ofCall? (name.toList ++ body ++ [')']) = ofArguments? xs := by
      have hxs : (fields body).mapM argument? = some xs :=
        mapM_eq_some_iff.mpr (hargs.imp fun _ _ => argument?_eq_some_iff.mpr)
      rw [ofCall?, callBody?_eq_some_iff.mpr ⟨_, hname, rfl⟩]
      simp [hxs]
    cases h with
    | @call _ _ _ _ r g b hname h₁ h₂ h₃ =>
      refine (hcall [r, g, b] hname ?_).trans rfl
      rw [fields_append_comma h₁.comma_not_mem, fields_append_comma h₂.comma_not_mem,
        fields_of_comma_not_mem h₃.comma_not_mem]
      exact .cons h₁ (.cons h₂ (.cons h₃ .nil))
    | @callAlpha _ _ _ _ _ r g b a hname h₁ h₂ h₃ h₄ =>
      refine (hcall [r, g, b, a] hname ?_).trans rfl
      rw [fields_append_comma h₁.comma_not_mem, fields_append_comma h₂.comma_not_mem,
        fields_append_comma h₃.comma_not_mem, fields_of_comma_not_mem h₄.comma_not_mem]
      exact .cons h₁ (.cons h₂ (.cons h₃ (.cons h₄ .nil)))
    | _ => exact absurd rfl hcs

/-! ## Both notations -/

theorem ofTrimmed?_eq_some_iff {cs : List Char} {color : Color Float} :
    ofTrimmed? cs = some color ↔ Spells cs color := by
  unfold ofTrimmed?
  split
  · exact ofHexDigits?_eq_some_iff
  · rename_i hhash
    refine ofCall?_eq_some_iff fun hhead => ?_
    obtain ⟨digits, rfl⟩ := List.head?_eq_some_iff.mp hhead
    exact hhash digits rfl

theorem parse_eq_ok_iff {text : String} {color : Color Float} :
    parse text = .ok color ↔ Spells (Text.trim text.toList) color := by
  rw [← ofTrimmed?_eq_some_iff, parse]
  cases ofTrimmed? (Text.trim text.toList) <;> simp

end CodeHighlight.Color
