import CodeHighlight.Proofs.Scan.Comment
import CodeHighlight.Proofs.Scan.Online

/-!
# Proofs.Scan.Agreement — scans that go on alike

Two scans of different texts give back the same tokens from some point on if they agree there on the
token under way and on what is unread, and on the little that the tests can tell of what stands
before (`Agrees`).  A step takes states that agree to states that agree again, so the rest of both
scans is the same (`Agrees.rest_eq`).  Where both begin a token with the same character it takes
still less to agree (`agrees_opened`).
-/

namespace CodeHighlight

namespace Scanner

variable {text text' : String} {yielded yielded' : List Token} {s s' : Scanner} {c : Char}
  {cs : List Char}

/-- No test tells the two scans apart from here on.  The character two before the cursor counts only
as the star that a block comment may end with, and the latest significant category only as the
operator that a regex literal may follow. -/
structure Agrees (s s' : Scanner) : Prop where
  unread : s.unread = s'.unread
  category : s.category = s'.category
  pending : s.pending = s'.pending
  pendingLength : s.pendingLength = s'.pendingLength
  prev : s.window.prev = s'.window.prev
  prev2 : s.window.prev2 = some '*' ↔ s'.window.prev2 = some '*'
  significant : s.lastSignificant = some .operator ↔ s'.lastSignificant = some .operator

theorem beq_eq_beq_of_iff {x y : Option Char} {d : Char} (h : x = some d ↔ y = some d) :
    (x == some d) = (y == some d) := by
  rw [Bool.eq_iff_iff, beq_iff_eq, beq_iff_eq, h]

/-- States that begin a token with the same character agree if the tests on its beginning do. -/
theorem agrees_opened (hu : s.unread = c :: cs) (hu' : s'.unread = c :: cs)
    (hprev : ∀ d ∈ ['<', '*', '\\'], s.window.prev = some d ↔ s'.window.prev = some d)
    (hsig : s.significantAfter = some .operator ↔ s'.significantAfter = some .operator) :
    Agrees (s.opened c) (s'.opened c) := by
  have hunread : s.unread = s'.unread := hu.trans hu'.symm
  have hregex : Category.slashOpensRegex s.window s.significantAfter =
      Category.slashOpensRegex s'.window s'.significantAfter := by
    have htag := beq_eq_beq_of_iff (hprev '<' (by decide))
    have hop : (s.significantAfter == some .operator) = (s'.significantAfter == some .operator) := by
      rw [Bool.eq_iff_iff, beq_iff_eq, beq_iff_eq, hsig]
    rw [Category.slashOpensRegex, Category.slashOpensRegex, bne, bne, htag, hop]
  have hcat : (s.opened c).category = (s'.opened c).category := by
    refine Category.startingAt_congr ?_ (fun _ => ?_) ?_ hregex
    · rw [window_current, window_current, hunread]
    · rw [window_ahead, window_ahead, hunread]
    · rw [Bool.eq_iff_iff, window_reads_iff, window_reads_iff, hunread]
  exact {
    unread := by rw [unread_opened, unread_opened, hunread]
    category := hcat
    pending := rfl
    pendingLength := rfl
    prev := by
      rw [window_prev_opened hu, window_prev_opened hu', hcat,
        beq_eq_beq_of_iff (hprev '\\' (by decide))]
    prev2 := hprev '*' (by decide)
    significant := hsig }

namespace Agrees

theorem grown (h : Agrees s s') (hu : s.unread = c :: cs) : Agrees (s.grown c) (s'.grown c) where
  unread := by rw [unread_grown, unread_grown, h.unread]
  category := h.category
  pending := congrArg (·.push c) h.pending
  pendingLength := congrArg (· + 1) h.pendingLength
  prev := by
    rw [window_prev_of_grown hu, window_prev_of_grown (h.unread ▸ hu), h.category, h.prev]
  prev2 := by
    show s.window.prev = some '*' ↔ s'.window.prev = some '*'
    rw [h.prev]
  significant := h.significant

theorem significantAfter (h : Agrees s s') :
    s.significantAfter = some .operator ↔ s'.significantAfter = some .operator := by
  rw [Scanner.significantAfter, Scanner.significantAfter, h.category]
  split
  · exact Iff.rfl
  · exact h.significant

theorem pendingToken (h : Agrees s s') : s.pendingToken = s'.pendingToken := by
  rw [Scanner.pendingToken, Scanner.pendingToken, h.pending, h.category]

theorem opened (h : Agrees s s') (hu : s.unread = c :: cs) : Agrees (s.opened c) (s'.opened c) :=
  agrees_opened hu (h.unread ▸ hu) (fun d _ => by rw [h.prev]) h.significantAfter

theorem endsHere_eq (h : Agrees s s') (hr : Reaches text yielded s) (hr' : Reaches text' yielded' s')
    (hp : s.pending ≠ "") (hu : s.unread = c :: cs) : s.endsHere = s'.endsHere := by
  have hu' : s'.unread = c :: cs := h.unread ▸ hu
  cases hcat : s.category with
  | xmlComment =>
    -- the test looks three characters back, but not beyond the comment
    have hends := endsWhere_xmlComment text yielded s c cs hr hcat hp hu
    have hends' := endsWhere_xmlComment text' yielded' s' c cs hr' (h.category ▸ hcat)
      (h.pending ▸ hp) hu'
    rw [Bool.eq_iff_iff, hends, hends', h.pending, h.unread]
  | _ =>
    unfold endsHere Category.endsBefore
    rw [window_current_of_unread hu, window_current_of_unread hu', ← h.category, ← h.prev,
      ← h.pendingLength, beq_eq_beq_of_iff h.prev2, hcat]

/-- **Agreement**: scans that agree give back the same tokens from there on. -/
theorem rest_eq (h : Agrees s s') (hr : Reaches text yielded s) (hr' : Reaches text' yielded' s')
    (hd : s.isDone = false) (hd' : s'.isDone = false) (hp : s.pending ≠ "") :
    s.rest.1 = s'.rest.1 := by
  induction hu : s.unread generalizing s s' yielded yielded' with
  | nil =>
    rw [rest_of_finished hd hu, rest_of_finished hd' (h.unread ▸ hu), h.pendingToken]
  | cons c cs ih =>
    have hu' : s'.unread = c :: cs := h.unread ▸ hu
    have hends := h.endsHere_eq hr hr' hp hu
    cases he : s.endsHere with
    | false =>
      have he' : s'.endsHere = false := hends ▸ he
      rw [rest_of_grown hu he, rest_of_grown hu' he']
      exact ih (h.grown hu) (hr.grown hu he) (hr'.grown hu' he') (isDone_grown hu)
        (isDone_grown hu') (pending_grown_ne_empty s c) (by rw [unread_grown, hu, List.tail_cons])
    | true =>
      have he' : s'.endsHere = true := hends ▸ he
      have hrest := ih (h.opened hu) (hr.opened hu he) (hr'.opened hu' he') (isDone_opened hu)
        (isDone_opened hu') (pending_opened_ne_empty s c) (by rw [unread_opened, hu, List.tail_cons])
      rw [rest_of_opened hu he, rest_of_opened hu' he', h.pendingToken, hrest]

end Agrees

end Scanner

end CodeHighlight
