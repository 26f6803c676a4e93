import CodeHighlight.Proofs.Scan.Agreement
import CodeHighlight.Proofs.Scan.Literal
import Mathlib.Data.List.Basic
import Mathlib.Data.List.Induction
import Mathlib.Logic.Function.Iterate

/-!
# Proofs.Scan.Forgetting — how little of the text before a token counts

Where a token begins, a scan has forgotten the text before it but for its last character and whether
an operator is the latest significant token (`after_eq_of_begins`).  So two texts that go on alike
from there have the same tokens from there on.  In particular it makes no difference to what stands
behind a closed string which string that is, and none to what stands before it either, since no test
that looks ahead gets beyond a quote (`tokens_replace_string`).
-/

namespace CodeHighlight

/-- The last character of the text is none that the tests on a new token look back for. -/
def EndsUnnoticed (text : String) : Prop := ∀ d ∈ text.toList.getLast?, d ∉ ['<', '*', '\\']

instance (text : String) : Decidable (EndsUnnoticed text) :=
  decidable_of_iff (text.toList.getLast?.all (fun d => decide (d ∉ ['<', '*', '\\'])) = true)
    (by simp [EndsUnnoticed, Option.all_eq_true])

instance (category : Category) (source : List Char) (i : Nat) :
    Decidable (ClosesLiteral category source i) :=
  decidable_of_iff (1 ≤ i ∧ category.terminators.any (source[i]? == some ·) = true ∧
    ¬ EscapedAt source i) (by simp [ClosesLiteral])

/-- The word is a whole literal of this category: it begins with the opener and ends with the first
terminator behind it that is not escaped. -/
def IsClosedLiteral (category : Category) (word : String) : Prop :=
  word.toList.head? = category.opener? ∧ ∃ i, word.length = i + 1 ∧
    ClosesLiteral category word.toList i ∧ ∀ j < i, ¬ ClosesLiteral category word.toList j

/-- Whether a literal can end at a place does not depend on what stands behind. -/
theorem closesLiteral_append_iff {category : Category} {word : List Char} {i : Nat}
    (hi : i < word.length) (more : List Char) :
    ClosesLiteral category (word ++ more) i ↔ ClosesLiteral category word i := by
  rw [ClosesLiteral, ClosesLiteral, EscapedAt, EscapedAt, List.getElem?_append_left hi,
    List.take_append_of_le_length (Nat.le_of_lt hi)]

namespace Scanner

variable {text text' : String} {yielded yielded' before before' after after' : List Token}
  {s s' : Scanner} {c : Char} {cs : List Char}

/-! ## Where a token begins -/

/-- The scan where the first of the tokens `after` has just begun. -/
theorem exists_reaches_opened (h : tokens text = before ++ after) (hne : after ≠ []) :
    ∃ yielded s c cs, Reaches text yielded s ∧ s.unread = c :: cs ∧
      s.unread = sourceFrom text before ∧ before = yielded ++ s.pendingToken.toList ∧
      Reaches text before (s.opened c) ∧ (s.opened c).rest.1 = after := by
  obtain ⟨token, after, rfl⟩ := List.exists_cons_of_ne_nil hne
  obtain ⟨s, hr, -, ht⟩ := exists_reaches h
  obtain ⟨-, rfl, hp⟩ := endsHere_of_step ht
  obtain ⟨yielded, s₀, c, cs, h₀, hu, hsource, hy, hopened, -⟩ := hr.exists_opened hp
  refine ⟨yielded, s₀, c, cs, h₀, hu, by rw [hsource, hr.sourceFrom_eq], hy, hopened, ?_⟩
  rw [hopened.tokens_eq] at h
  exact List.append_cancel_left h

/-- A test sees no other character before the cursor than the one that the text read ends with. -/
theorem Reaches.window_prev_ne (h : Reaches text yielded s) {front : String}
    (hfront : spell (yielded ++ s.pendingToken.toList) = front.toList) (hlast : EndsUnnoticed front)
    {d : Char} (hd : d ∈ ['<', '*', '\\']) : s.window.prev ≠ some d := by
  intro hprev
  obtain ⟨cs, hcs⟩ := List.getLast?_eq_some_iff.mp (h.getLast?_pending hprev)
  rw [spell_append, spell_pendingToken, hcs, ← List.append_assoc] at hfront
  exact hlast d (by rw [← hfront, List.getLast?_concat]; rfl) hd

/-- **Bounded memory**: two texts that go on alike where a token begins in both have the same tokens
from there on, if the texts before end unnoticed and agree on whether an operator is the latest
significant token. -/
theorem after_eq_of_begins {a a' b : String} (hb : b ≠ "") (h : tokens (a ++ b) = before ++ after)
    (ha : spell before = a.toList) (h' : tokens (a' ++ b) = before' ++ after')
    (ha' : spell before' = a'.toList)
    (hsig : latestSignificant before = some .operator ↔ latestSignificant before' = some .operator)
    (hlast : EndsUnnoticed a) (hlast' : EndsUnnoticed a') : after = after' := by
  have hne {a : String} {before after : List Token} (h : tokens (a ++ b) = before ++ after)
      (ha : spell before = a.toList) : sourceFrom (a ++ b) before = b.toList ∧ after ≠ [] := by
    have hsource : sourceFrom (a ++ b) before = b.toList := by
      rw [sourceFrom, ha, String.toList_append, List.drop_left]
    refine ⟨hsource, ?_⟩
    rintro rfl
    rw [sourceFrom_eq_spell h, spell_nil] at hsource
    exact hb (String.toList_eq_nil_iff.mp hsource.symm)
  obtain ⟨hsource, hafter⟩ := hne h ha
  obtain ⟨hsource', hafter'⟩ := hne h' ha'
  obtain ⟨yielded, s, c, cs, hr, hu, hunread, rfl, hopened, hrest⟩ := exists_reaches_opened h hafter
  obtain ⟨yielded', s', c', cs', hr', hu', hunread', rfl, hopened', hrest'⟩ :=
    exists_reaches_opened h' hafter'
  obtain ⟨rfl, rfl⟩ : c' = c ∧ cs' = cs := by
    rw [← List.cons.injEq, ← hu', ← hu, hunread', hunread, hsource', hsource]
  have hagrees : Agrees (s.opened c') (s'.opened c') := by
    refine agrees_opened hu hu' (fun d hd => ?_) ?_
    · exact iff_of_false (hr.window_prev_ne ha hlast hd) (hr'.window_prev_ne ha' hlast' hd)
    · rw [hr.significantAfter_eq, hr'.significantAfter_eq, hsig]
  rw [← hrest, ← hrest']
  exact hagrees.rest_eq hopened hopened' (isDone_opened hu) (isDone_opened hu')
    (pending_opened_ne_empty s c')

/-! ## One state for each position -/

/-- A scan is where its steps have taken it. -/
theorem Reaches.eq_iterate (h : Reaches text yielded s) :
    s = (fun s : Scanner => s.step.2)^[s.pos] (ofString text) := by
  induction h with
  | start => rfl
  | @grown yielded s c cs _ hu he ih =>
    have hpos : (s.grown c).pos = s.pos + 1 := rfl
    rw [hpos, Function.iterate_succ_apply', ← ih, step_of_grown hu he]
  | @opened yielded s c cs _ hu he ih =>
    have hpos : (s.opened c).pos = s.pos + 1 := rfl
    rw [hpos, Function.iterate_succ_apply', ← ih, step_of_opened hu he]
  | @finished yielded s _ _ hu ih =>
    have hpos : s.begun.pos = s.pos + 1 := rfl
    rw [hpos, Function.iterate_succ_apply', ← ih, step_of_finished hu]

/-- **Determinism**: what is unread tells the state of a scan and the tokens it has given back. -/
theorem Reaches.unique (h : Reaches text yielded s) (h' : Reaches text yielded' s')
    (hu : s.unread = c :: cs) (hu' : s'.unread = c :: cs) : yielded = yielded' ∧ s = s' := by
  have hread : spell yielded ++ s.pending.toList = spell yielded' ++ s'.pending.toList := by
    have hspell := h.spell_eq.trans h'.spell_eq.symm
    rw [hu, hu'] at hspell
    exact List.append_cancel_right hspell
  have hpos : s.pos = s'.pos := by
    rw [h.pos_eq (isDone_of_unread hu), h'.pos_eq (isDone_of_unread hu'), hread]
  have hs : s = s' := by rw [h.eq_iterate, h'.eq_iterate, hpos]
  have htokens := h.tokens_eq.symm.trans h'.tokens_eq
  rw [hs] at htokens
  exact ⟨List.append_cancel_right htokens, hs⟩

/-- A scan comes by every place of its text. -/
theorem exists_reaches_unread (front : List Char) (htext : text.toList = front ++ cs) :
    ∃ yielded s, Reaches text yielded s ∧ s.unread = cs ∧ s.isDone = false := by
  induction front using List.reverseRecOn generalizing cs with
  | nil => exact ⟨[], ofString text, .start, htext, isDone_eq_false_iff.mpr (Nat.zero_le _)⟩
  | append_singleton front c ih =>
    obtain ⟨yielded, s, hr, hu, -⟩ := ih (by rw [htext, List.append_assoc, List.singleton_append])
    cases he : s.endsHere with
    | false => exact ⟨_, s.grown c, hr.grown hu he, by simp [hu], isDone_grown hu⟩
    | true => exact ⟨_, s.opened c, hr.opened hu he, by simp [hu], isDone_opened hu⟩

/-- The scan of a text up to a character that is no operator is also that of each text that goes on
from there. -/
theorem exists_reaches_before (front : List Char) (hop : isOperator c = false) :
    ∃ (yielded : List Token) (s : Scanner), s.unread = [c] ∧
      ∀ (text : String) (more : List Char),
        text.toList = front ++ c :: more →
        Reaches text yielded (s.extend (String.ofList more)) := by
  have hshort : (String.ofList (front ++ [c])).toList = front ++ [c] := String.toList_ofList
  obtain ⟨yielded, s, hr, hu, hd⟩ := exists_reaches_unread front hshort
  refine ⟨yielded, s, hu, fun text more htext => ?_⟩
  have hsplit : text = String.ofList (front ++ [c]) ++ String.ofList more := by
    rw [← String.toList_inj, String.toList_append, hshort, String.toList_ofList, htext,
      List.append_assoc, List.singleton_append]
  rw [hsplit]
  refine hr.extend hd (fun cs hsuffix hlen => .inr ⟨c, ?_, hop⟩) _
  obtain ⟨read, hread⟩ := hsuffix
  have hne : cs ≠ [] := List.ne_nil_of_length_pos (Nat.lt_of_le_of_lt (Nat.zero_le _) hlen)
  have hend := congrArg List.getLast? (hread.trans hshort)
  rw [List.getLast?_append_of_ne_nil _ hne, List.getLast?_concat] at hend
  exact List.mem_of_getLast? hend

/-- What stands behind the first character of a token does not change the tokens before it, unless
that character is an operator or a blank. -/
theorem exists_tokens_eq_append {token : Token} {more : List Char}
    (h : tokens text = before ++ token :: after) (hhead : token.text.toList.head? = some c)
    (hop : isOperator c = false) (hspace : isSpace c = false)
    (htext' : text'.toList = spell before ++ c :: more) :
    ∃ after', tokens text' = before ++ after' := by
  obtain ⟨yielded, s, hu, hextend⟩ := exists_reaches_before (spell before) hop
  obtain ⟨yielded', s', hr', rfl, hsource, hfirst, he', -⟩ := exists_opening h hhead hspace
  obtain ⟨cs, hu'⟩ := List.head?_eq_some_iff.mp hfirst
  have htext : text.toList = spell (yielded' ++ s'.pendingToken.toList) ++ c :: cs := by
    rw [← hu', hsource, spell_append_sourceFrom h]
  have hr := hextend text cs htext
  have hunread (more : List Char) : (s.extend (String.ofList more)).unread = c :: more := by
    rw [unread_extend_cons hu, String.toList_ofList, List.nil_append]
  obtain ⟨rfl, rfl⟩ := hr.unique hr' (hunread cs) hu'
  -- whether a token ends before the character has nothing to do with what is behind it
  have he : (s.extend (String.ofList more)).endsHere = true := by
    rw [endsHere_extend hu] at he' ⊢
    exact he'
  have hopened := (hextend text' more htext').opened (hunread more) he
  exact ⟨_, hopened.tokens_eq⟩

/-! ## Closed strings -/

variable {category : Category} {quote : Char} {token : Token}

/-- A quote begins a string, whatever is around it. -/
theorem category_of_quote (h : tokens text = before ++ token :: after)
    (hquote : category.opener? = some quote) (hne : category ≠ .regex)
    (hhead : token.text.toList.head? = some quote) : token.category = category := by
  obtain ⟨yielded, s, -, -, -, hcurrent, hcat⟩ := exists_birth h
  rw [hhead] at hcurrent
  have hahead : s.window.ahead 0 = some quote := (window_ahead_zero s).trans hcurrent
  have hbegins := Category.begins_startingAt hcurrent s.significantAfter
  rw [← hcat] at hbegins
  generalize token.category = category' at hbegins
  cases category with
  | doubleQuoted =>
    cases hquote
    cases hbegins with
    | doubleQuoted => rfl
    | xmlComment hreads => exact absurd (Category.current_of_reads hahead hreads) (by decide)
    | plain _ _ hnot => exact absurd rfl hnot
    | _ hc => exact absurd hc (by decide)
  | singleQuoted =>
    cases hquote
    cases hbegins with
    | singleQuoted => rfl
    | xmlComment hreads => exact absurd (Category.current_of_reads hahead hreads) (by decide)
    | plain _ hnot => exact absurd rfl hnot
    | _ hc => exact absurd hc (by decide)
  | regex => exact absurd rfl hne
  | _ => cases hquote

theorem isOperator_of_quote (hquote : category.opener? = some quote) (hne : category ≠ .regex) :
    isOperator quote = false ∧ isSpace quote = false := by
  cases category with
  | doubleQuoted => cases hquote; decide
  | singleQuoted => cases hquote; decide
  | regex => exact absurd rfl hne
  | _ => cases hquote

/-- A token that begins with a closed literal is this literal. -/
theorem text_eq_of_isClosedLiteral {word : String} {back : List Char}
    (h : tokens text = before ++ token :: after) (hquote : token.category.opener? = some quote)
    (hclosed : IsClosedLiteral token.category word)
    (hsource : sourceFrom text before = word.toList ++ back) : token.text = word := by
  obtain ⟨-, i, hlen, hcloses, hnot⟩ := hclosed
  rw [← String.length_toList] at hlen
  have hruns := runsThrough_of_endsWhere (endsWhere_literal hquote) (fun source i hi => by
    obtain ⟨-, ⟨d, -, hd⟩, -⟩ := hi
    exact (List.getElem?_eq_some_iff.mp hd).1) h rfl
  have happend (j : Nat) (hj : j ≤ i) : ClosesLiteral token.category (word.toList ++ back) j ↔
      ClosesLiteral token.category word.toList j := closesLiteral_append_iff (by omega) back
  rw [hsource] at hruns
  have hword : RunsThrough (ClosesLiteral token.category (word.toList ++ back))
      (word.toList ++ back) word.toList :=
    .inl ⟨i, (happend i (Nat.le_refl i)).mpr hcloses,
      fun j hj hclose => hnot j hj ((happend j (Nat.le_of_lt hj)).mp hclose),
      by rw [← hlen, List.take_left]⟩
  exact String.toList_inj.mp (hruns.unique hword)

/-- A closed string ends unnoticed. -/
theorem endsUnnoticed_append {word : String} (hclosed : IsClosedLiteral category word)
    (hne : category ≠ .regex) (front : String) : EndsUnnoticed (front ++ word) := by
  obtain ⟨-, i, hlen, ⟨-, ⟨d, hterminator, hd⟩, -⟩, -⟩ := hclosed
  rw [← String.length_toList] at hlen
  have hlast : word.toList.getLast? = some d := by
    rw [List.getLast?_eq_getElem?, hlen, Nat.add_sub_cancel, hd]
  intro d' hd'
  rw [String.toList_append, List.getLast?_append, hlast] at hd'
  obtain rfl : d = d' := Option.some.inj hd'
  cases category with
  | doubleQuoted => rw [List.mem_singleton.mp hterminator]; decide
  | singleQuoted => rw [List.mem_singleton.mp hterminator]; decide
  | regex => exact absurd rfl hne
  | _ => cases hterminator

/-- A token begins where the text goes on after the tokens before it. -/
theorem head?_sourceFrom (h : tokens text = before ++ token :: after) :
    (sourceFrom text before).head? = token.text.toList.head? := by
  obtain ⟨d, ds, hlist⟩ := exists_text_eq_cons h
  rw [sourceFrom_eq_spell h, spell_cons, hlist]
  rfl

/-- **Replacing a string**: with another closed string in the place of one, all other tokens
stay. -/
theorem tokens_replace_string {front word word' back : String}
    (hcategory : category = .doubleQuoted ∨ category = .singleQuoted)
    (hclosed : IsClosedLiteral category word) (hclosed' : IsClosedLiteral category word')
    (h : tokens (front ++ word ++ back) = before ++ ⟨word, category⟩ :: after)
    (hfront : spell before = front.toList) :
    tokens (front ++ word' ++ back) = before ++ ⟨word', category⟩ :: after := by
  have hne : category ≠ .regex := by rcases hcategory with rfl | rfl <;> decide
  obtain ⟨quote, hquote⟩ : ∃ quote, category.opener? = some quote := by
    rcases hcategory with rfl | rfl <;> exact ⟨_, rfl⟩
  obtain ⟨hop, hspace⟩ := isOperator_of_quote hquote hne
  -- the tokens before the string
  obtain ⟨cs, hword'⟩ := List.head?_eq_some_iff.mp (hclosed'.1.trans hquote)
  have htext' : (front ++ word' ++ back).toList = spell before ++ quote :: (cs ++ back.toList) := by
    rw [hfront, String.toList_append, String.toList_append, hword', List.append_assoc,
      List.cons_append]
  obtain ⟨after', h'⟩ :=
    exists_tokens_eq_append h (hclosed.1.trans hquote) hop hspace htext'
  have hsource' : sourceFrom (front ++ word' ++ back) before = word'.toList ++ back.toList := by
    rw [sourceFrom, hfront, String.toList_append, String.toList_append, List.append_assoc,
      List.drop_left]
  -- the string itself
  obtain ⟨token, after', rfl⟩ : ∃ token rest, after' = token :: rest := by
    refine List.exists_cons_of_ne_nil ?_
    rintro rfl
    rw [sourceFrom_eq_spell h', spell_nil, hword'] at hsource'
    cases hsource'
  have hhead : token.text.toList.head? = some quote := by
    rw [← head?_sourceFrom h', hsource', hword']
    rfl
  obtain rfl := category_of_quote h' hquote hne hhead
  obtain rfl := text_eq_of_isClosedLiteral h' hquote hclosed' hsource'
  -- the tokens after it
  by_cases hback : back = ""
  · rw [List.append_cons] at h h'
    rw [List.append_cons, h', eq_nil_of_spell_eq h (by simp [hfront, hback]),
      eq_nil_of_spell_eq h' (by simp [hfront, hback])]
  · have hsig (word : String) :
        ¬ latestSignificant (before ++ [⟨word, token.category⟩]) = some .operator := by
      rcases hcategory with hcat | hcat <;> simp [hcat, Category.isSignificant, Category.isComment]
    rw [List.append_cons] at h h'
    rw [List.append_cons, h', after_eq_of_begins hback h (by simp [hfront]) h' (by simp [hfront])
      (iff_of_false (hsig word) (hsig token.text)) (endsUnnoticed_append hclosed hne front)
      (endsUnnoticed_append hclosed' hne front)]

/-- **Bounded memory between tokens**: two texts that go on alike where a token begins in both have
the same tokens from there on, if the texts before end unnoticed and agree on whether an operator is
the latest significant token.  For instance all other tokens stay if a closed string is put in the
place of another one. -/
theorem bounded_memory :
    (∀ (a a' b : String) (before before' after after' : List Token), b ≠ "" →
      tokens (a ++ b) = before ++ after → spell before = a.toList →
      tokens (a' ++ b) = before' ++ after' → spell before' = a'.toList →
      (latestSignificant before = some .operator ↔ latestSignificant before' = some .operator) →
      EndsUnnoticed a → EndsUnnoticed a' → after = after') ∧
    (∀ (category : Category) (front word word' back : String) (before after : List Token),
      category = .doubleQuoted ∨ category = .singleQuoted →
      IsClosedLiteral category word → IsClosedLiteral category word' →
      tokens (front ++ word ++ back) = before ++ ⟨word, category⟩ :: after →
      spell before = front.toList →
      tokens (front ++ word' ++ back) = before ++ ⟨word', category⟩ :: after) :=
  ⟨fun _ _ _ _ _ _ _ hb h ha h' ha' hsig hlast hlast' =>
      after_eq_of_begins hb h ha h' ha' hsig hlast hlast',
    fun _ _ _ _ _ _ _ hcategory hclosed hclosed' h hfront =>
      tokens_replace_string hcategory hclosed hclosed' h hfront⟩

/-- A slash opens the same regex literal behind a sum and behind an assignment, and a string with
escaped quotes stands for one that holds the beginning of a comment. -/
theorem bounded_memory_of_regex :
    let before : List Token := [⟨"x", .word⟩, ⟨" ", .plain⟩, ⟨"+", .operator⟩, ⟨" ", .plain⟩]
    let before' : List Token := [⟨"\"*/\"", .doubleQuoted⟩, ⟨"=", .operator⟩]
    let after : List Token := [⟨"/a'/", .regex⟩, ⟨"g", .word⟩]
    let division : List Token := [⟨"/", .operator⟩, ⟨"x", .word⟩]
    (tokens ("x + " ++ "/a'/g") = before ++ after ∧
      tokens ("\"*/\"=" ++ "/a'/g") = before' ++ (tokens "\"*/\"=/a'/g").drop 2 ∧
      latestSignificant before = some .operator ∧ latestSignificant before' = some .operator ∧
      EndsUnnoticed "x + " ∧ EndsUnnoticed "\"*/\"=" ∧ after = (tokens "\"*/\"=/a'/g").drop 2) ∧
    (IsClosedLiteral .singleQuoted "'/*'" ∧ IsClosedLiteral .singleQuoted "'\\''" ∧
      tokens ("\\" ++ "'/*'" ++ "/x") =
        [⟨"\\", .operator⟩] ++ ⟨"'/*'", .singleQuoted⟩ :: division ∧
      tokens ("\\" ++ "'\\''" ++ "/x") =
        [⟨"\\", .operator⟩] ++ ⟨"'\\''", .singleQuoted⟩ :: division) :=
  have h : tokens ("x + " ++ "/a'/g") =
      [⟨"x", .word⟩, ⟨" ", .plain⟩, ⟨"+", .operator⟩, ⟨" ", .plain⟩] ++
        [⟨"/a'/", .regex⟩, ⟨"g", .word⟩] := by decide
  have h' : tokens ("\"*/\"=" ++ "/a'/g") =
      [⟨"\"*/\"", .doubleQuoted⟩, ⟨"=", .operator⟩] ++ (tokens "\"*/\"=/a'/g").drop 2 := by decide
  have hlast : EndsUnnoticed "x + " := by decide
  have hlast' : EndsUnnoticed "\"*/\"=" := by decide
  have hclosed : IsClosedLiteral .singleQuoted "'/*'" :=
    ⟨rfl, 3, rfl, by decide, by decide⟩
  have hclosed' : IsClosedLiteral .singleQuoted "'\\''" :=
    ⟨rfl, 3, rfl, by decide, by decide⟩
  have hstring : tokens ("\\" ++ "'/*'" ++ "/x") =
      [⟨"\\", .operator⟩] ++ ⟨"'/*'", .singleQuoted⟩ :: [⟨"/", .operator⟩, ⟨"x", .word⟩] := by
    decide
  ⟨⟨h, h', rfl, rfl, hlast, hlast',
      bounded_memory.1 _ _ _ _ _ _ _ (by decide) h rfl h' rfl (by decide) hlast hlast'⟩,
    hclosed, hclosed', hstring,
      bounded_memory.2 _ _ _ _ _ _ _ (.inr rfl) hclosed hclosed' hstring rfl⟩

end Scanner

end CodeHighlight
