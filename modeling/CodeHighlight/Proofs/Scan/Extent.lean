import CodeHighlight.Proofs.Scan.Beginning
import CodeHighlight.Proofs.Scan.Lossless

/-!
# Proofs.Scan.Extent — where a token begins and where it ends

Two facts that the laws of the single categories start from.  `Reaches.exists_opened`: the category
of the token under way is the one that the window told where it began.  `runsThrough_of_endsWhere`: if a
token of a category is seen to end exactly where a test on the text from its first character on is
met, then it runs through the first place where the test is met, or to the end of the text.
-/

namespace CodeHighlight

namespace Scanner

variable {text : String} {yielded : List Token} {s : Scanner} {c : Char} {cs : List Char}

/-! ## The beginning of a token -/

theorem window_ahead (s : Scanner) (offset : Nat) : s.window.ahead offset = s.unread[offset]? := by
  simp [Window.ahead, window, unread]

theorem window_ahead_zero (s : Scanner) : s.window.ahead 0 = s.window.current := by
  rw [window_ahead, window_current, List.head?_eq_getElem?]

theorem pending_grown_ne_empty (s : Scanner) (c : Char) : (s.grown c).pending ≠ "" := by
  intro h
  have hlist := congrArg String.toList h
  simp at hlist

theorem pending_opened_ne_empty (s : Scanner) (c : Char) : (s.opened c).pending ≠ "" := by
  intro h
  have hlist := congrArg String.toList h
  simp at hlist

theorem pending_eq_concat (hp : s.pending ≠ "") :
    ∃ front last, s.pending.toList = front ++ [last] := by
  have hne : s.pending.toList ≠ [] := fun hnil => hp (String.toList_eq_nil_iff.mp hnil)
  exact ⟨_, _, (List.dropLast_concat_getLast hne).symm⟩

/-- Before the end of the text it is only at the very start that no token is under way. -/
theorem Reaches.eq_start_of_isDone (h : Reaches text yielded s) (hp : s.pending = "")
    (hd : s.isDone = false) : yielded = [] ∧ s = ofString text := by
  cases h with
  | start => exact ⟨rfl, rfl⟩
  | grown => exact absurd hp (pending_grown_ne_empty _ _)
  | opened => exact absurd hp (pending_opened_ne_empty _ _)
  | finished _ _ hu =>
    rw [isDone_begun hu] at hd
    cases hd

theorem Reaches.eq_start (h : Reaches text yielded s) (hp : s.pending = "")
    (hu : s.unread = c :: cs) : yielded = [] ∧ s = ofString text :=
  h.eq_start_of_isDone hp (isDone_of_unread hu)

/-- A blank at the very start joins the empty token of the start, which leaves the scan as if it had
begun a token. -/
theorem grown_ofString (hu : (ofString text).unread = c :: cs) (hspace : isSpace c = true) :
    (ofString text).grown c = (ofString text).opened c := by
  have hc := window_current_of_unread hu
  have hahead := (window_ahead_zero (ofString text)).trans hc
  have hcat := Category.startingAt_of_isSpace hc hahead hspace (ofString text).significantAfter
  simp only [grown, opened, begun, hcat]
  rfl

/-- The token under way was begun by its first character, with the category that it has.  The token
before it ended there, unless that character is a blank. -/
theorem Reaches.exists_opened (h : Reaches text yielded s) (hp : s.pending ≠ "") :
    ∃ yielded₀ s₀ c cs, Reaches text yielded₀ s₀ ∧ s₀.unread = c :: cs ∧
      s₀.unread = s.pending.toList ++ s.unread ∧ yielded = yielded₀ ++ s₀.pendingToken.toList ∧
      Reaches text yielded (s₀.opened c) ∧ s.category = (s₀.opened c).category ∧
      (s₀.endsHere = true ∨ isSpace c = true) := by
  induction h with
  | start => exact absurd rfl hp
  | @grown yielded s c cs h hu he ih =>
    by_cases hp' : s.pending = ""
    · -- the text begins with a blank, which joins the empty plain token of the start
      obtain ⟨rfl, rfl⟩ := h.eq_start hp' hu
      have hspace : isSpace c = true := by
        unfold endsHere Category.endsBefore at he
        rw [window_current_of_unread hu] at he
        simpa [ofString] using he
      have hsame := grown_ofString hu hspace
      refine ⟨[], ofString text, c, cs, .start, hu, by simp [hu, hp'], rfl, ?_, ?_, .inr hspace⟩
      · rw [← hsame]
        exact h.grown hu he
      · rw [hsame]
    · obtain ⟨yielded₀, s₀, d, ds, h₀, hu₀, hsource, hrest⟩ := ih hp'
      exact ⟨yielded₀, s₀, d, ds, h₀, hu₀, by simpa [hu] using hsource, hrest⟩
  | @opened yielded s c cs h hu he _ =>
    exact ⟨yielded, s, c, cs, h, hu, by simp [hu], rfl, h.opened hu he, rfl, .inl he⟩
  | finished => exact absurd rfl hp

/-- The test that began the token under way saw the text from its first character on. -/
theorem Reaches.begins (h : Reaches text yielded s) (hp : s.pending ≠ "") :
    ∃ window significant c, Begins window significant c s.category ∧
      (s.pending.toList ++ s.unread)[0]? = some c ∧
      ∀ offset, window.ahead offset = (s.pending.toList ++ s.unread)[offset]? := by
  obtain ⟨_, s₀, c, cs, -, hu, hsource, -, -, hcat, -⟩ := h.exists_opened hp
  rw [← hsource, hcat]
  refine ⟨s₀.window, s₀.significantAfter, c, ?_, by rw [hu]; rfl, window_ahead s₀⟩
  exact Category.begins_startingAt (window_current_of_unread hu) _

/-- The text from a token on, given the tokens before it. -/
def sourceFrom (text : String) (before : List Token) : List Char :=
  text.toList.drop (spell before).length

theorem Reaches.sourceFrom_eq (h : Reaches text yielded s) :
    sourceFrom text yielded = s.pending.toList ++ s.unread := by
  rw [sourceFrom, ← h.spell_eq, List.append_assoc, List.drop_left]

theorem sourceFrom_eq_spell {before after : List Token} (h : tokens text = before ++ after) :
    sourceFrom text before = spell after := by
  rw [sourceFrom, ← spell_tokens, h, spell_append, List.drop_left]

theorem spell_append_sourceFrom {before after : List Token} (h : tokens text = before ++ after) :
    spell before ++ sourceFrom text before = text.toList := by
  rw [sourceFrom_eq_spell h, ← spell_append, ← h, spell_tokens]

/-- There is no token after the end of the text. -/
theorem eq_nil_of_spell_eq {before after : List Token} (h : tokens text = before ++ after)
    (hspell : spell before = text.toList) : after = [] := by
  cases after with
  | nil => rfl
  | cons token after =>
    obtain ⟨c, cs, hlist⟩ := exists_text_eq_cons h
    have hsource := sourceFrom_eq_spell h
    rw [sourceFrom, hspell, List.drop_length, spell_cons, hlist] at hsource
    cases hsource

/-- The window in which a token begins tells its category. -/
theorem exists_birth {before after : List Token} {token : Token}
    (h : tokens text = before ++ token :: after) :
    ∃ yielded s, Reaches text yielded s ∧ before = yielded ++ s.pendingToken.toList ∧
      s.unread = sourceFrom text before ∧ s.window.current = token.text.toList.head? ∧
      token.category = .startingAt s.window s.significantAfter := by
  obtain ⟨s, hr, -, ht⟩ := exists_reaches h
  obtain ⟨-, rfl, hp⟩ := endsHere_of_step ht
  obtain ⟨yielded₀, s₀, _, _, hr₀, -, hu, hy, -, hcat, -⟩ := hr.exists_opened hp
  refine ⟨yielded₀, s₀, hr₀, hy, by rw [hu, hr.sourceFrom_eq], ?_, hcat⟩
  obtain ⟨c, cs, hlist⟩ := List.exists_cons_of_ne_nil (mt String.toList_eq_nil_iff.mp hp)
  rw [window_current, hu, hlist, List.cons_append, List.head?_cons, List.head?_cons]

/-- A token that does not begin with a blank is opened by a step. -/
theorem exists_opening {before after : List Token} {token : Token}
    (h : tokens text = before ++ token :: after) (hc : token.text.toList.head? = some c)
    (hspace : isSpace c = false) :
    ∃ yielded s, Reaches text yielded s ∧ before = yielded ++ s.pendingToken.toList ∧
      s.unread = sourceFrom text before ∧ s.unread.head? = some c ∧ s.endsHere = true ∧
      token.category = .startingAt s.window s.significantAfter := by
  obtain ⟨s, hr, -, ht⟩ := exists_reaches h
  obtain ⟨-, rfl, hp⟩ := endsHere_of_step ht
  obtain ⟨yielded₀, s₀, d, ds, hr₀, hu, hsource, hy, -, hcat, hends⟩ := hr.exists_opened hp
  have hhead : s₀.unread.head? = some c := by rw [hsource, List.head?_append, hc, Option.some_or]
  refine ⟨yielded₀, s₀, hr₀, hy, by rw [hsource, hr.sourceFrom_eq], hhead, ?_, hcat⟩
  rw [hu, List.head?_cons, Option.some.injEq] at hhead
  exact hends.resolve_right (by rw [hhead, hspace]; exact Bool.false_ne_true)

/-! ## The end of a token -/

/-- `word` is the part of `source` up to and with the first index that meets the test, or all of
`source` if none does. -/
def RunsThrough (closes : Nat → Prop) (source word : List Char) : Prop :=
  (∃ i, closes i ∧ (∀ j < i, ¬ closes j) ∧ word = source.take (i + 1)) ∨
    (∀ i, ¬ closes i) ∧ word = source

/-- The same places end the same part of the text. -/
theorem RunsThrough.congr {closes closes' : Nat → Prop} {source word : List Char}
    (h : ∀ i, closes i ↔ closes' i) :
    RunsThrough closes source word ↔ RunsThrough closes' source word := by
  rw [show closes = closes' from funext fun i => propext (h i)]

/-- There is one part of a text that ends where the test is first met. -/
theorem RunsThrough.unique {closes : Nat → Prop} {source word word' : List Char}
    (h : RunsThrough closes source word) (h' : RunsThrough closes source word') : word = word' := by
  rcases h with ⟨i, hi, hbefore, rfl⟩ | ⟨hnone, rfl⟩
  · rcases h' with ⟨j, hj, hbefore', rfl⟩ | ⟨hnone, -⟩
    · have hij : i = j := by
        rcases Nat.lt_trichotomy i j with hlt | heq | hlt
        · exact absurd hi (hbefore' i hlt)
        · exact heq
        · exact absurd hj (hbefore j hlt)
      rw [hij]
    · exact absurd hi (hnone i)
  · rcases h' with ⟨j, hj, -, -⟩ | ⟨-, rfl⟩
    · exact absurd hj (hnone j)
    · rfl

/-- Where the first character meets the test, it is all. -/
theorem RunsThrough.eq_take_one {closes : Nat → Prop} {source word : List Char}
    (h : RunsThrough closes source word) (hfirst : closes 0) : word = source.take 1 :=
  h.unique (.inl ⟨0, hfirst, fun j hj => absurd hj (Nat.not_lt_zero j), rfl⟩)

variable {category : Category} {closes : List Char → Nat → Prop}

/-- The tokens of `category` end where the text from their first character on meets `closes`. -/
def EndsWhere (text : String) (category : Category) (closes : List Char → Nat → Prop) : Prop :=
  ∀ yielded s c cs, Reaches text yielded s → s.category = category → s.pending ≠ "" →
    s.unread = c :: cs →
    (s.endsHere = true ↔
      closes (s.pending.toList ++ s.unread) (s.pending.toList.length - 1))

/-- Up to the last character read the test has not been met. -/
theorem EndsWhere.not_closes (hends : EndsWhere text category closes)
    (h : Reaches text yielded s) (hc : s.category = category) :
    ∀ i < s.pending.toList.length - 1, ¬ closes (s.pending.toList ++ s.unread) i := by
  induction h with
  | start => simp [ofString]
  | @grown yielded s c cs h hu he ih =>
    intro i hi
    have hsource : (s.grown c).pending.toList ++ (s.grown c).unread =
        s.pending.toList ++ s.unread := by simp [hu]
    have hlen : i < s.pending.toList.length := by simpa using hi
    rw [hsource]
    by_cases hlast : i = s.pending.toList.length - 1
    · have hp : s.pending ≠ "" := by
        intro hp
        simp [hp] at hlen
      intro hclose
      rw [hlast] at hclose
      rw [(hends yielded s c cs h hc hp hu).mpr hclose] at he
      cases he
    · exact ih hc i (by omega)
  | opened => simp
  | finished => intro i hi; simp [begun] at hi

/-- **Extent**: a token runs through the first place where its test is met. -/
theorem runsThrough_of_endsWhere (hends : EndsWhere text category closes)
    (hbound : ∀ source i, closes source i → i < source.length)
    {before after : List Token} {token : Token} (h : tokens text = before ++ token :: after)
    (hc : token.category = category) :
    RunsThrough (closes (sourceFrom text before)) (sourceFrom text before) token.text.toList := by
  obtain ⟨s, hr, -, ht⟩ := exists_reaches h
  obtain ⟨he, rfl, hp⟩ := endsHere_of_step ht
  have hopen := hends.not_closes hr hc
  have hpos := length_toList_pos hp
  have hlen : s.pending.toList.length - 1 + 1 = s.pending.toList.length := by omega
  rw [hr.sourceFrom_eq]
  by_cases hlast : closes (s.pending.toList ++ s.unread) (s.pending.toList.length - 1)
  · refine Or.inl ⟨_, hlast, hopen, ?_⟩
    rw [hlen, List.take_left]
  · -- only the end of the text can have ended the token then
    have hu : s.unread = [] := by
      cases hu : s.unread with
      | nil => rfl
      | cons c cs => exact absurd ((hends before s c cs hr hc hp hu).mp he) hlast
    rw [hu, List.append_nil] at hopen hlast ⊢
    refine Or.inr ⟨fun i hi => ?_, rfl⟩
    have hlt := hbound _ i hi
    by_cases hi' : i = s.pending.toList.length - 1
    · exact hlast (hi' ▸ hi)
    · exact hopen i (by omega) hi

end Scanner

end CodeHighlight
