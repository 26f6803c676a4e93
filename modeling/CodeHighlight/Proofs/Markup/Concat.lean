import CodeHighlight.Proofs.Markup.Decode
import CodeHighlight.Proofs.Scan.Agreement
import CodeHighlight.Proofs.Scan.Maximal

/-!
# Proofs.Markup.Concat — highlighting a text in parts

A text can be cut behind a plain token and its parts highlighted on their own, unless an operator
before the cut would let a slash after it open a regex literal (`run_append`).  The scan of the
whole text gets to the cut as the scan of the first part does, because the characters of plain
tokens are no operators and so no test waits for more (`Reaches.extend`).  From there on it runs
beside the scan of the second part: at first both read blanks, which the one of them adds to the
token before the cut (`renderAll_rest_of_plain`), and then they agree.
-/

namespace CodeHighlight

theorem isOperator_eq_false_of_isSpace {c : Char} (h : isSpace c = true) : isOperator c = false :=
  eq_false_of_isSpace isVisible_of_isOperator h

namespace Scanner

variable {text : String} {yielded : List Token} {s : Scanner} {c d : Char} {cs : List Char}

/-! ## Plain tokens -/

theorem endsHere_plain (hcat : s.category = .plain) (hu : s.unread = c :: cs) :
    s.endsHere = !isSpace c :=
  endsHere_of_continuing (by rw [hcat]; rfl) hu

/-- A plain token holds no operator: it is an unknown character or a blank, and blanks after it. -/
theorem Reaches.isOperator_eq_false_of_plain (h : Reaches text yielded s)
    (hcat : s.category = .plain) : ∀ c ∈ s.pending.toList, isOperator c = false := by
  by_cases hp : s.pending = ""
  · simp [hp]
  · have hgo : s.category.continuing? = some isSpace := by rw [hcat]; rfl
    obtain ⟨_, _, c, cs, hbegins, hlist, hblank⟩ := h.pending_of_continuing hgo hp
    rw [hcat] at hbegins
    cases hbegins with
    | plain _ _ _ _ _ hop =>
      rw [hlist]
      exact List.forall_mem_cons.mpr ⟨hop, fun d hd => isOperator_eq_false_of_isSpace (hblank d hd)⟩

/-- After a plain token no test sees an operator before the cursor. -/
theorem Reaches.window_prev_ne_of_plain (h : Reaches text yielded s) (hcat : s.category = .plain)
    (hop : isOperator d = true) : s.window.prev ≠ some d := by
  intro hprev
  have hmem := List.mem_of_getLast? (h.getLast?_pending hprev)
  rw [h.isOperator_eq_false_of_plain hcat d hmem] at hop
  cases hop

/-- A text that ends with a plain token is read to its end with this token under way. -/
theorem exists_last_plain (hlast : (tokens text).getLast?.map (·.category) = some .plain) :
    ∃ yielded s, Reaches text yielded s ∧ s.isDone = false ∧ s.unread = [] ∧
      s.category = .plain ∧ s.pending ≠ "" ∧ tokens text = yielded ++ s.pendingToken.toList ∧
      (ofString text).rest.2.lastSignificant = s.lastSignificant := by
  obtain ⟨token, hget, hcat⟩ := Option.map_eq_some_iff.mp hlast
  obtain ⟨yielded, htokens⟩ := List.getLast?_eq_some_iff.mp hget
  obtain ⟨s, hr, hd, ht⟩ := exists_reaches htokens
  obtain ⟨-, rfl, hp⟩ := endsHere_of_step ht
  have hunread : s.unread = [] := by
    have hspell := hr.spell_eq
    rw [← spell_tokens text, htokens, spell_append] at hspell
    simpa using hspell
  rw [← Option.toList_some, ← pendingToken_of_ne_empty hp] at htokens
  have hsig : s.significantAfter = s.lastSignificant := by
    rw [significantAfter, show s.category = .plain from hcat]
    rfl
  refine ⟨yielded, s, hr, hd, hunread, hcat, hp, htokens, ?_⟩
  rw [(reaches_rest text).lastSignificant_eq, htokens, ← hr.significantAfter_eq, hsig]

/-- A scan that ends in a plain token goes on the same way with more text behind. -/
theorem Reaches.extend_of_plain (h : Reaches text yielded s) (hd : s.isDone = false)
    (hu : s.unread = []) (hcat : s.category = .plain) (hp : s.pending ≠ "") (more : String) :
    Reaches (text ++ more) yielded (s.extend more) := by
  obtain ⟨front, last, hlist⟩ := pending_eq_concat hp
  have hop : isOperator last = false := h.isOperator_eq_false_of_plain hcat last (by simp [hlist])
  have htext : text.toList.getLast? = some last := by
    rw [← h.spell_eq, hu, List.append_nil, hlist, ← List.append_assoc, List.getLast?_concat]
  -- whatever is left of the text ends with the last character of the token
  refine h.extend hd (fun cs hsuffix hlen => .inr ⟨last, ?_, hop⟩) more
  obtain ⟨read, hread⟩ := hsuffix
  have hne : cs ≠ [] := List.ne_nil_of_length_pos (Nat.lt_of_le_of_lt (Nat.zero_le _) hlen)
  rw [← hread, List.getLast?_append_of_ne_nil _ hne] at htext
  exact List.mem_of_getLast? htext

end Scanner

namespace Highlighter

open Scanner
open Markup (escape)

theorem toList_escape_append (front back : String) :
    (escape (front ++ back)).toList = (escape front).toList ++ (escape back).toList := by
  rw [Markup.toList_escape, Markup.toList_escape, Markup.toList_escape, String.toList_append,
    List.flatMap_append]

theorem renderAll_append (h : Highlighter) (tokens tokens' : List Token) :
    h.renderAll (tokens ++ tokens') = h.renderAll tokens ++ h.renderAll tokens' :=
  List.flatMap_append

theorem render_of_plain (h : Highlighter) {token : Token} (hcat : token.category = .plain) :
    h.render token = escape token.text := by
  have hgroup : h.group token = none := by
    rw [group, hcat]
    rfl
  rw [render, renderWith_of_group_none hgroup]

theorem renderAll_pendingToken (h : Highlighter) {s : Scanner} (hcat : s.category = .plain) :
    h.renderAll s.pendingToken.toList = (escape s.pending).toList := by
  by_cases hp : s.pending = ""
  · rw [pendingToken_of_empty hp, hp]
    rfl
  · rw [pendingToken_of_ne_empty hp, Option.toList_some, renderAll_cons, renderAll_nil,
      List.append_nil, h.render_of_plain hcat]

/-! ## The cut -/

variable {text text' : String} {yielded yielded' : List Token} {s s' : Scanner}

/-- Two scans in plain tokens, one of which holds more characters already, write the same HTML from
there on up to these characters. -/
theorem renderAll_rest_of_plain (h : Highlighter) {front : String} (hr : Reaches text yielded s)
    (hr' : Reaches text' yielded' s') (hd : s.isDone = false) (hd' : s'.isDone = false)
    (hcat : s.category = .plain) (hcat' : s'.category = .plain) (hunread : s.unread = s'.unread)
    (hpending : s.pending = front ++ s'.pending) (hsig : s.lastSignificant ≠ some .operator)
    (hsig' : s'.lastSignificant ≠ some .operator) :
    h.renderAll s.rest.1 = (escape front).toList ++ h.renderAll s'.rest.1 := by
  have hescape : (escape s.pending).toList =
      (escape front).toList ++ (escape s'.pending).toList := by
    rw [hpending, toList_escape_append]
  induction hu : s.unread generalizing s s' yielded yielded' with
  | nil =>
    rw [rest_of_finished hd hu, rest_of_finished hd' (hunread ▸ hu),
      h.renderAll_pendingToken hcat, h.renderAll_pendingToken hcat', hescape]
  | cons c cs ih =>
    have hu' : s'.unread = c :: cs := hunread ▸ hu
    by_cases hspace : isSpace c = true
    · have he : s.endsHere = false := by rw [endsHere_plain hcat hu, hspace]; rfl
      have he' : s'.endsHere = false := by rw [endsHere_plain hcat' hu', hspace]; rfl
      have hgrown : (s.grown c).pending = front ++ (s'.grown c).pending := by
        rw [← String.toList_inj, String.toList_append, toList_pending_grown, toList_pending_grown,
          hpending, String.toList_append, List.append_assoc]
      rw [rest_of_grown hu he, rest_of_grown hu' he']
      refine ih (hr.grown hu he) (hr'.grown hu' he') (isDone_grown hu) (isDone_grown hu') hcat hcat'
        ?_ hgrown hsig hsig' ?_ ?_
      · rw [unread_grown, unread_grown, hunread]
      · rw [hgrown, toList_escape_append]
      · rw [unread_grown, hu, List.tail_cons]
    · -- the next token begins in both scans, and nothing before the cut has a say in it
      have hspace := Bool.not_eq_true _ ▸ hspace
      have he : s.endsHere = true := by rw [endsHere_plain hcat hu, hspace]; rfl
      have he' : s'.endsHere = true := by rw [endsHere_plain hcat' hu', hspace]; rfl
      have hprev : ∀ d ∈ ['<', '*', '\\'], s.window.prev = some d ↔ s'.window.prev = some d := by
        intro d hd
        have hall : ['<', '*', '\\'].all isOperator = true := by decide
        have hop := List.all_eq_true.mp hall d hd
        exact iff_of_false (hr.window_prev_ne_of_plain hcat hop)
          (hr'.window_prev_ne_of_plain hcat' hop)
      have hafter : s.significantAfter = some .operator ↔ s'.significantAfter = some .operator := by
        rw [significantAfter, significantAfter, hcat, hcat']
        exact iff_of_false hsig hsig'
      have hrest := (agrees_opened hu hu' hprev hafter).rest_eq (hr.opened hu he)
        (hr'.opened hu' he') (isDone_opened hu) (isDone_opened hu') (pending_opened_ne_empty s c)
      rw [rest_of_opened hu he, rest_of_opened hu' he', renderAll_append, renderAll_append,
        h.renderAll_pendingToken hcat, h.renderAll_pendingToken hcat', hescape, hrest,
        List.append_assoc]

/-- **Highlighting in parts**: the HTML of a text is that of its first part and that of the rest, if
the first part ends with a plain token and its latest significant token is no operator. -/
theorem run_append (h : Highlighter) (a b : String)
    (hcut : a = "" ∨ (tokens a).getLast?.map (·.category) = some .plain ∧
      (ofString a).rest.2.lastSignificant ≠ some .operator) :
    h.run (a ++ b) = h.run a ++ h.run b := by
  rw [← String.toList_inj, String.toList_append, toList_run, toList_run, toList_run]
  rcases hcut with rfl | ⟨hlast, hsig⟩
  · rw [String.empty_append]
    rfl
  · obtain ⟨yielded, s, hr, hd, hu, hcat, hp, htokens, hfinal⟩ := exists_last_plain hlast
    have hextended := hr.extend_of_plain hd hu hcat hp b
    have hstart : (ofString b).isDone = false := isDone_eq_false_iff.mpr (Nat.zero_le _)
    have hunread : (s.extend b).unread = (ofString b).unread := by
      rw [unread_extend hd, hu]
      rfl
    have hpending : (s.extend b).pending = s.pending ++ (ofString b).pending :=
      String.append_empty.symm
    have hrest := h.renderAll_rest_of_plain hextended .start (isDone_extend hd b) hstart hcat rfl
      hunread hpending
      (fun hop => hsig (hfinal.trans hop)) (fun hop => by cases hop)
    have htail : (ofString b).rest.1 = tokens b := rfl
    rw [hextended.tokens_eq, renderAll_append, hrest, htokens, renderAll_append,
      h.renderAll_pendingToken hcat, htail, List.append_assoc]

/-- A cut in front of a slash that is a division in the whole text and in the rest alone. -/
theorem run_append_before_division :
    (tokens "f(x) ").getLast?.map (·.category) = some .plain ∧
      (ofString "f(x) ").rest.2.lastSignificant ≠ some .operator ∧
      default.run ("f(x) " ++ " / 2") = default.run "f(x) " ++ default.run " / 2" :=
  have hlast : (tokens "f(x) ").getLast?.map (·.category) = some .plain := by decide
  have hsig : (ofString "f(x) ").rest.2.lastSignificant ≠ some .operator := by decide
  ⟨hlast, hsig, default.run_append "f(x) " " / 2" (.inr ⟨hlast, hsig⟩)⟩

end Highlighter

end CodeHighlight
