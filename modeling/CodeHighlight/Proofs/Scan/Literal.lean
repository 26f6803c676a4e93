import CodeHighlight.Proofs.Scan.History

/-!
# Proofs.Scan.Literal — the extent of strings and regex literals

A string or regex literal begins with its opener and runs through the first terminator that is not
escaped (`literal_extent`).  A scan does not count backslashes: it hides a character from its tests
if the one before it is a backslash that is not hidden itself.  Inside a literal this is the parity
of the backslashes before the character (`Reaches.window_prev`), whatever stands before the literal,
because its opener is no backslash.
-/

namespace CodeHighlight

namespace Category

/-- The character that a literal of this category begins with. -/
def opener? : Category → Option Char
  | .doubleQuoted => some '"'
  | .singleQuoted => some '\''
  | .regex => some '/'
  | _ => none

/-- The characters that end a literal of this category. -/
def terminators : Category → List Char
  | .doubleQuoted => ['"']
  | .singleQuoted => ['\'']
  | .regex => ['/', '\n']
  | _ => []

theorem isComment_of_opener? {category : Category} {opener : Char}
    (h : category.opener? = some opener) : category.isComment = false := by
  cases category <;> first | rfl | cases h

theorem opener_ne_backslash {category : Category} {opener : Char}
    (h : category.opener? = some opener) : opener ≠ '\\' := by
  cases category <;> cases h <;> decide

/-- A literal begins with its opener. -/
theorem current_of_startingAt {window : Window} {significant : Option Category} {opener : Char}
    (h : (startingAt window significant).opener? = some opener) :
    window.current = some opener := by
  cases hc : window.current with
  | none =>
    rw [startingAt, hc] at h
    cases h
  | some c =>
    have hbegins := begins_startingAt hc significant
    generalize startingAt window significant = category at h hbegins
    cases hbegins with
    | singleQuoted hq => cases h; rw [hq]
    | doubleQuoted hq => cases h; rw [hq]
    | regex hslash => cases h; rw [hslash]
    | _ => cases h

end Category

/-! ## Escapes in a literal -/

/-- A literal of the category that `source` begins with can end with the character at this index:
it is a terminator after the opener and not escaped. -/
def ClosesLiteral (category : Category) (source : List Char) (i : Nat) : Prop :=
  1 ≤ i ∧ (∃ c ∈ category.terminators, source[i]? = some c) ∧ ¬ EscapedAt source i

namespace Scanner

variable {text : String} {yielded : List Token} {s : Scanner} {c : Char} {cs : List Char}

/-- Inside a literal, after its opener, the next step sees the character it leaves unless that is
escaped. -/
theorem Reaches.window_prev (h : Reaches text yielded s) {opener last : Char} {front : List Char}
    (ho : s.category.opener? = some opener) (hp : s.pending.toList = front ++ [last])
    (hfront : front ≠ []) :
    s.window.prev = if trailingBackslashes front % 2 = 1 then none else some last := by
  have hne : s.pending ≠ "" := by
    intro hempty
    simp [hempty] at hp
  obtain ⟨d, front, rfl⟩ := List.exists_cons_of_ne_nil hfront
  have hd : d = opener := by
    obtain ⟨_, s₀, c, cs, -, hu, hsource, -, -, hcat, -⟩ := h.exists_opened hne
    have hcurrent := Category.current_of_startingAt (hcat ▸ ho)
    rw [window_current, hsource, hp] at hcurrent
    exact Option.some.inj hcurrent
  -- the opener is no backslash, so those before the literal do not count
  have hd' : d ≠ '\\' := hd ▸ Category.opener_ne_backslash ho
  rw [← trailingBackslashes_append_cons hd' (spell yielded) front]
  refine h.window_prev_of_escapable (Category.isComment_of_opener? ho) hne
    (by rw [hp, List.append_assoc]) fun hnewline => ?_
  simp [hnewline] at hp

/-! ## The end of a literal -/

/-- A literal ends where the next step sees one of its terminators, but not at its opener. -/
theorem endsHere_literal {opener : Char} (ho : s.category.opener? = some opener)
    (hu : s.unread = c :: cs) :
    s.endsHere = true ↔
      (∃ d ∈ s.category.terminators, s.window.prev = some d) ∧ 1 < s.pendingLength := by
  have hc := window_current_of_unread hu
  unfold endsHere Category.endsBefore
  rw [hc]
  cases hcat : s.category with
  | regex => simp [Category.terminators]
  | doubleQuoted => simp [Category.terminators]
  | singleQuoted => simp [Category.terminators]
  | _ => rw [hcat] at ho; cases ho

theorem endsWhere_literal {category : Category} {opener : Char}
    (ho : category.opener? = some opener) : EndsWhere text category (ClosesLiteral category) := by
  intro yielded s c cs hr hcat hp hu
  subst hcat
  obtain ⟨front, last, hlist⟩ := pending_eq_concat hp
  rw [endsHere_literal ho hu, hr.pendingLength_eq, hlist]
  by_cases hfront : front = []
  · -- the opener does not end its own token
    simp [hfront, ClosesLiteral]
  · have hlen : 1 ≤ front.length := List.length_pos_iff.mpr hfront
    have hcloses : ClosesLiteral s.category (front ++ [last] ++ s.unread) front.length ↔
        last ∈ s.category.terminators ∧ ¬ trailingBackslashes front % 2 = 1 := by
      rw [ClosesLiteral, EscapedAt, List.append_assoc, List.take_left]
      simp [hlen]
    have hlast : (front ++ [last]).length - 1 = front.length := by simp
    have hmore : 1 < (front ++ [last]).length := by
      rw [List.length_append, List.length_singleton]
      omega
    rw [hr.window_prev ho hlist hfront, hlast, hcloses, and_iff_left hmore]
    by_cases hodd : trailingBackslashes front % 2 = 1
    · simp [hodd]
    · simp [hodd]

/-- **Extent of literals**: a string or regex literal begins with its opener and runs through the
first terminator after it that is not escaped, or to the end of the text. -/
theorem literal_extent {before after : List Token} {token : Token} {opener : Char}
    (h : tokens text = before ++ token :: after) (ho : token.category.opener? = some opener) :
    token.text.toList.head? = some opener ∧
      RunsThrough (ClosesLiteral token.category (sourceFrom text before)) (sourceFrom text before)
        token.text.toList := by
  constructor
  · obtain ⟨_, s, _, _, _, hcurrent, hcat⟩ := exists_birth h
    rw [← hcurrent]
    exact Category.current_of_startingAt (hcat ▸ ho)
  · refine runsThrough_of_endsWhere (endsWhere_literal ho) ?_ h rfl
    rintro source i ⟨-, ⟨d, -, hd⟩, -⟩
    exact (List.getElem?_eq_some_iff.mp hd).1

/-- A string after a backslash, with a quote that an odd number of backslashes escapes. -/
theorem literal_extent_of_escaped_quote :
    let text := "\\\"a\\\\\\\"b\" + x"
    let before : List Token := [⟨"\\", .operator⟩]
    let token : Token := ⟨"\"a\\\\\\\"b\"", .doubleQuoted⟩
    tokens text = before ++ token ::
        [⟨" ", .plain⟩, ⟨"+", .operator⟩, ⟨" ", .plain⟩, ⟨"x", .word⟩] ∧
      token.text.toList.head? = some '"' ∧
      RunsThrough (ClosesLiteral .doubleQuoted (sourceFrom text before)) (sourceFrom text before)
        token.text.toList :=
  have h : tokens "\\\"a\\\\\\\"b\" + x" = [⟨"\\", .operator⟩] ++
      ⟨"\"a\\\\\\\"b\"", .doubleQuoted⟩ ::
        [⟨" ", .plain⟩, ⟨"+", .operator⟩, ⟨" ", .plain⟩, ⟨"x", .word⟩] := by decide
  ⟨h, literal_extent h rfl⟩

end Scanner

end CodeHighlight
