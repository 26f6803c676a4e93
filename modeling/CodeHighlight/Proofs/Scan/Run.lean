import CodeHighlight.Scanner

/-!
# Proofs.Scan.Run — what a scan does, step by step

A step that reads a character either lets it join the token under way (`grown`) or begins a new
token with it (`opened`); the step at the end of the text only closes the token under way.
`Reaches text yielded s` says that the scan of `text` can be in the state `s` with the tokens
`yielded` given back, so that an invariant of a scan is an induction over `Reaches` with one case
for each kind of step.  `Reaches.of_step`, `Reaches.of_next?` and `exists_reaches` tie it to the
functions that run.
-/

namespace CodeHighlight

/-- The characters of some tokens, in order. -/
def spell (tokens : List Token) : List Char := tokens.flatMap (·.text.toList)

@[simp] theorem spell_nil : spell [] = [] := rfl

@[simp] theorem spell_cons (token : Token) (tokens : List Token) :
    spell (token :: tokens) = token.text.toList ++ spell tokens := rfl

@[simp] theorem spell_append (tokens tokens' : List Token) :
    spell (tokens ++ tokens') = spell tokens ++ spell tokens' := by
  simp [spell]

theorem length_toList_pos {text : String} (h : text ≠ "") : 0 < text.toList.length :=
  List.length_pos_iff.mpr (mt String.toList_eq_nil_iff.mp h)

namespace Scanner

variable {s : Scanner} {c : Char} {cs : List Char}

/-! ## The three kinds of steps -/

/-- The characters that no step has read yet. -/
def unread (s : Scanner) : List Char := s.chars.toList.drop s.pos

/-- The token under way ends before the character that the next step reads. -/
def endsHere (s : Scanner) : Bool := s.category.endsBefore s.window (1 < s.pendingLength)

/-- The scan after a step that lets `c` join the token under way. -/
def grown (s : Scanner) (c : Char) : Scanner :=
  { s.moved with pending := s.pending.push c, pendingLength := s.pendingLength + 1 }

/-- The scan after a step that begins a new token with `c`. -/
def opened (s : Scanner) (c : Char) : Scanner :=
  { s.begun with pending := String.singleton c, pendingLength := 1 }

theorem window_current (s : Scanner) : s.window.current = s.unread.head? := by
  simp [window, unread, List.head?_drop]

theorem window_current_of_unread (h : s.unread = c :: cs) : s.window.current = some c := by
  rw [window_current, h, List.head?_cons]

@[simp] theorem unread_moved (s : Scanner) : s.moved.unread = s.unread.tail := by
  simp [unread, moved, List.tail_drop]

@[simp] theorem unread_begun (s : Scanner) : s.begun.unread = s.unread.tail := unread_moved s

@[simp] theorem unread_grown (s : Scanner) (c : Char) : (s.grown c).unread = s.unread.tail :=
  unread_moved s

@[simp] theorem unread_opened (s : Scanner) (c : Char) : (s.opened c).unread = s.unread.tail :=
  unread_moved s

theorem current_grown (h : s.unread = c :: cs) : (s.grown c).current = some c :=
  window_current_of_unread h

theorem current_opened (h : s.unread = c :: cs) : (s.opened c).current = some c :=
  window_current_of_unread h

theorem current_begun (h : s.unread = []) : s.begun.current = none :=
  (window_current s).trans (by rw [h, List.head?_nil])

@[simp] theorem toList_pending_grown (s : Scanner) (c : Char) :
    (s.grown c).pending.toList = s.pending.toList ++ [c] := String.toList_push c

@[simp] theorem toList_pending_opened (s : Scanner) (c : Char) :
    (s.opened c).pending.toList = [c] := String.toList_singleton c

@[simp] theorem spell_pendingToken (s : Scanner) :
    spell s.pendingToken.toList = s.pending.toList := by
  unfold pendingToken
  split
  · rename_i h
    rw [String.isEmpty_iff.mp h]
    rfl
  · simp

theorem mem_pendingToken {token : Token} (h : s.pendingToken = some token) :
    token = ⟨s.pending, s.category⟩ ∧ s.pending ≠ "" := by
  unfold pendingToken at h
  split at h
  · cases h
  · rename_i hne
    exact ⟨(Option.some.inj h).symm, fun he => hne (String.isEmpty_iff.mpr he)⟩

theorem pendingToken_of_empty (hp : s.pending = "") : s.pendingToken = none :=
  if_pos (String.isEmpty_iff.mpr hp)

theorem pendingToken_of_ne_empty (hp : s.pending ≠ "") :
    s.pendingToken = some ⟨s.pending, s.category⟩ :=
  if_neg (mt String.isEmpty_iff.mp hp)

theorem absorb_of_some (h : s.current = some c) :
    s.absorb = { s with pending := s.pending.push c, pendingLength := s.pendingLength + 1 } := by
  unfold absorb
  split
  · rename_i d hd
    rw [h, Option.some.injEq] at hd
    rw [hd]
  · rename_i hd
    rw [h] at hd
    cases hd

theorem absorb_of_none (h : s.current = none) : s.absorb = s := by
  unfold absorb
  rw [h]

theorem step_of_grown (h : s.unread = c :: cs) (he : s.endsHere = false) :
    s.step = (none, s.grown c) := by
  have hc : s.moved.current = some c := window_current_of_unread h
  rw [endsHere] at he
  rw [step, he, absorb_of_some hc]
  rfl

theorem step_of_opened (h : s.unread = c :: cs) (he : s.endsHere = true) :
    s.step = (s.pendingToken, s.opened c) := by
  have hc : s.begun.current = some c := window_current_of_unread h
  rw [endsHere] at he
  rw [step, he, absorb_of_some hc]
  rfl

theorem endsHere_of_unread_eq_nil (h : s.unread = []) : s.endsHere = true := by
  have hc : s.window.current = none := by rw [window_current, h, List.head?_nil]
  unfold endsHere Category.endsBefore
  rw [hc]

theorem step_of_finished (h : s.unread = []) : s.step = (s.pendingToken, s.begun) := by
  have he := endsHere_of_unread_eq_nil h
  rw [endsHere] at he
  rw [step, he, absorb_of_none (current_begun h)]
  rfl

/-- A step gives back nothing but the token under way, and only where that ends. -/
theorem endsHere_of_step {token : Token} (h : s.step.1 = some token) :
    s.endsHere = true ∧ token = ⟨s.pending, s.category⟩ ∧ s.pending ≠ "" := by
  cases hu : s.unread with
  | nil =>
    rw [step_of_finished hu] at h
    exact ⟨endsHere_of_unread_eq_nil hu, mem_pendingToken h⟩
  | cons c cs =>
    cases he : s.endsHere with
    | false =>
      rw [step_of_grown hu he] at h
      cases h
    | true =>
      rw [step_of_opened hu he] at h
      exact ⟨rfl, mem_pendingToken h⟩

theorem pos_lt_of_unread (h : s.unread = c :: cs) : s.pos < s.chars.size := by
  refine Nat.lt_of_not_le fun hge => ?_
  rw [unread, List.drop_eq_nil_of_le (by simpa using hge)] at h
  cases h

theorem isDone_eq_false_iff : s.isDone = false ↔ s.pos ≤ s.chars.size := by
  simp only [isDone, remaining, beq_eq_false_iff_ne, ne_eq]
  omega

theorem isDone_of_unread (h : s.unread = c :: cs) : s.isDone = false :=
  isDone_eq_false_iff.mpr (Nat.le_of_lt (pos_lt_of_unread h))

theorem isDone_grown (h : s.unread = c :: cs) : (s.grown c).isDone = false :=
  isDone_eq_false_iff.mpr (pos_lt_of_unread h)

theorem isDone_opened (h : s.unread = c :: cs) : (s.opened c).isDone = false :=
  isDone_eq_false_iff.mpr (pos_lt_of_unread h)

theorem isDone_begun (hu : s.unread = []) : s.begun.isDone = true := by
  have hsize : s.chars.size ≤ s.pos := by simpa [unread] using hu
  have hpos : s.begun.pos = s.pos + 1 := rfl
  have hchars : s.begun.chars = s.chars := rfl
  simp only [isDone, remaining, hpos, hchars, beq_iff_eq]
  omega

/-! ## Reachable states -/

/-- The scan of `text` gets to `s` and has given back `yielded` by then. -/
inductive Reaches (text : String) : List Token → Scanner → Prop
  | start : Reaches text [] (ofString text)
  | grown {yielded : List Token} {s : Scanner} {c : Char} {cs : List Char} :
      Reaches text yielded s → s.unread = c :: cs → s.endsHere = false →
      Reaches text yielded (s.grown c)
  | opened {yielded : List Token} {s : Scanner} {c : Char} {cs : List Char} :
      Reaches text yielded s → s.unread = c :: cs → s.endsHere = true →
      Reaches text (yielded ++ s.pendingToken.toList) (s.opened c)
  | finished {yielded : List Token} {s : Scanner} :
      Reaches text yielded s → s.isDone = false → s.unread = [] →
      Reaches text (yielded ++ s.pendingToken.toList) s.begun

variable {text : String} {yielded : List Token}

theorem Reaches.of_step (h : Reaches text yielded s) (hs : s.isDone = false) :
    Reaches text (yielded ++ s.step.1.toList) s.step.2 := by
  cases hu : s.unread with
  | nil =>
    rw [step_of_finished hu]
    exact h.finished hs hu
  | cons c cs =>
    cases he : s.endsHere with
    | false =>
      rw [step_of_grown hu he]
      simpa using h.grown hu he
    | true =>
      rw [step_of_opened hu he]
      exact h.opened hu he

/-! ## Many steps -/

theorem remaining_step (s : Scanner) : s.step.2.remaining = s.remaining - 1 := by
  have habsorb (s : Scanner) : s.absorb.remaining = s.remaining := by
    unfold absorb
    split <;> rfl
  unfold step
  split <;> rw [habsorb] <;> simp only [remaining, begun, moved] <;> omega

/-- Every scan comes to its end, step by step. -/
@[elab_as_elim] theorem step_induction {motive : Scanner → Prop}
    (done : ∀ s, s.isDone = true → motive s)
    (step : ∀ s, s.isDone = false → motive s.step.2 → motive s) (s : Scanner) : motive s := by
  generalize hn : s.remaining = n
  induction n generalizing s with
  | zero => exact done s (by simp [isDone, hn])
  | succ n ih =>
    refine step s (by simp [isDone, hn]) (ih s.step.2 ?_)
    rw [remaining_step, hn, Nat.add_sub_cancel]

theorem remaining_eq_succ (h : s.isDone = false) : s.remaining = s.step.2.remaining + 1 := by
  have hne : s.remaining ≠ 0 := by simpa [isDone] using h
  rw [remaining_step]
  omega

theorem rest_of_isDone (h : s.isDone = true) : s.rest = ([], s) := by
  have h0 : s.remaining = 0 := by simpa [isDone] using h
  rw [rest, h0, tokensWithin]

theorem rest_of_step (h : s.isDone = false) :
    s.rest = (s.step.1.toList ++ s.step.2.rest.1, s.step.2.rest.2) := by
  rw [rest, remaining_eq_succ h, tokensWithin, rest]

theorem rest_of_grown (hu : s.unread = c :: cs) (he : s.endsHere = false) :
    s.rest.1 = (s.grown c).rest.1 := by
  rw [rest_of_step (isDone_of_unread hu), step_of_grown hu he]
  rfl

theorem rest_of_opened (hu : s.unread = c :: cs) (he : s.endsHere = true) :
    s.rest.1 = s.pendingToken.toList ++ (s.opened c).rest.1 := by
  rw [rest_of_step (isDone_of_unread hu), step_of_opened hu he]

theorem rest_of_finished (hd : s.isDone = false) (hu : s.unread = []) :
    s.rest.1 = s.pendingToken.toList := by
  rw [rest_of_step hd, step_of_finished hu, rest_of_isDone (isDone_begun hu), List.append_nil]

theorem next?_of_isDone (h : s.isDone = true) : s.next? = (none, s) := by
  have h0 : s.remaining = 0 := by simpa [isDone] using h
  rw [next?, h0, nextWithin]

theorem next?_of_step_some {token : Token} (h : s.isDone = false) (ht : s.step.1 = some token) :
    s.next? = s.step := by
  have hstep : s.step = (some token, s.step.2) := Prod.ext ht rfl
  rw [next?, remaining_eq_succ h, nextWithin, hstep]

theorem next?_of_step_none (h : s.isDone = false) (ht : s.step.1 = none) :
    s.next? = s.step.2.next? := by
  have hstep : s.step = (none, s.step.2) := Prod.ext ht rfl
  rw [next?, remaining_eq_succ h, nextWithin, hstep, next?]

/-- A scan that answers with no token is at its end. -/
theorem isDone_of_next?_none (h : s.next?.1 = none) : s.next?.2.isDone = true := by
  induction s using step_induction with
  | done s hs => rwa [next?_of_isDone hs]
  | step s hs ih =>
    cases ht : s.step.1 with
    | none =>
      rw [next?_of_step_none hs ht] at h ⊢
      exact ih h
    | some token => rw [next?_of_step_some hs ht, ht] at h; cases h

/-- The tokens that are left are the next one and those left after it. -/
theorem rest_eq_next? (s : Scanner) : s.rest.1 = s.next?.1.toList ++ s.next?.2.rest.1 := by
  induction s using step_induction with
  | done s hs => rw [next?_of_isDone hs, Option.toList_none, List.nil_append]
  | step s hs ih =>
    cases ht : s.step.1 with
    | none => rw [next?_of_step_none hs ht, rest_of_step hs, ht, ih, Option.toList_none,
        List.nil_append]
    | some token => rw [next?_of_step_some hs ht, rest_of_step hs]

theorem isDone_rest (s : Scanner) : s.rest.2.isDone = true := by
  induction s using step_induction with
  | done s hs => rwa [rest_of_isDone hs]
  | step s hs ih => rwa [rest_of_step hs]

theorem Reaches.of_rest (h : Reaches text yielded s) :
    Reaches text (yielded ++ s.rest.1) s.rest.2 := by
  induction s using step_induction generalizing yielded with
  | done s hs => simpa [rest_of_isDone hs] using h
  | step s hs ih => simpa [rest_of_step hs] using ih (h.of_step hs)

theorem Reaches.of_next? (h : Reaches text yielded s) :
    Reaches text (yielded ++ s.next?.1.toList) s.next?.2 := by
  induction s using step_induction with
  | done s hs => simpa [next?_of_isDone hs] using h
  | step s hs ih =>
    cases ht : s.step.1 with
    | none =>
      rw [next?_of_step_none hs ht]
      exact ih (by simpa [ht] using h.of_step hs)
    | some token =>
      rw [next?_of_step_some hs ht]
      exact h.of_step hs

/-- What a scan has given back is the first part of the tokens of its text. -/
theorem Reaches.tokens_eq (h : Reaches text yielded s) : tokens text = yielded ++ s.rest.1 := by
  induction h with
  | start => rfl
  | grown _ hu he ih =>
    rw [ih, rest_of_step (isDone_of_unread hu), step_of_grown hu he]
    rfl
  | opened _ hu he ih =>
    rw [ih, rest_of_step (isDone_of_unread hu), step_of_opened hu he, List.append_assoc]
  | finished _ hd hu ih => rw [ih, rest_of_step hd, step_of_finished hu, List.append_assoc]

/-- Each token of a text is given back by a step of its scan, when those before it have been. -/
theorem exists_reaches {before after : List Token} {token : Token}
    (h : tokens text = before ++ token :: after) :
    ∃ s, Reaches text before s ∧ s.isDone = false ∧ s.step.1 = some token := by
  -- from any reachable state on, with the tokens given back by then split off
  have key : ∀ (s : Scanner) (yielded before : List Token), Reaches text yielded s →
      s.rest.1 = before ++ token :: after →
      ∃ s', Reaches text (yielded ++ before) s' ∧ s'.isDone = false ∧ s'.step.1 = some token := by
    intro s
    induction s using step_induction with
    | done s hs =>
      intro yielded before _ hrest
      rw [rest_of_isDone hs] at hrest
      simp at hrest
    | step s hs ih =>
      intro yielded before hr hrest
      have hnext := hr.of_step hs
      rw [rest_of_step hs] at hrest
      cases ht : s.step.1 with
      | none =>
        rw [ht] at hrest hnext
        simpa using ih _ before hnext hrest
      | some first =>
        rw [ht] at hrest hnext
        cases before with
        | nil =>
          obtain ⟨rfl, -⟩ := List.cons_eq_cons.mp hrest
          exact ⟨s, by simpa using hr, hs, ht⟩
        | cons first' before =>
          obtain ⟨rfl, htail⟩ := List.cons_eq_cons.mp hrest
          simpa using ih _ before hnext htail
  simpa using key (ofString text) [] before .start h

end Scanner

end CodeHighlight
