import CodeHighlight.Proofs.Scan.History
import Mathlib.Data.List.Induction

/-!
# Proofs.Scan.Session — scans that are called and copied

A scan may be copied at any point, and from then on both go on by themselves.  `session` follows any
sequence of calls and copies that starts with one scan of a text, and notes beside each scan the
tokens it has given back.  However the calls are spread over the copies, each of them is in a state
that the scan of the text reaches without any copying (`reaches_of_mem_session`), and so it holds
the category of the last token given back that decides what a slash means
(`lastSignificant_of_mem_session`).
-/

namespace CodeHighlight

/-! ## The last significant token -/

/-- The categories of the tokens that decide what a slash means. -/
def significantCategories : List Category :=
  [.operator, .closingBrace, .word, .regex, .doubleQuoted, .singleQuoted]

theorem mem_significantCategories {category : Category} :
    category ∈ significantCategories ↔ category.isSignificant = true := by
  cases category <;> decide

/-- The category of the last of the tokens that is significant, or none if none of them is. -/
inductive IsLatestSignificant (tokens : List Token) : Option Category → Prop
  | none : (∀ token ∈ tokens, token.category ∉ significantCategories) →
      IsLatestSignificant tokens none
  | some {before after : List Token} {token : Token} : tokens = before ++ token :: after →
      token.category ∈ significantCategories →
      (∀ later ∈ after, later.category ∉ significantCategories) →
      IsLatestSignificant tokens (some token.category)

theorem IsLatestSignificant.concat {tokens : List Token} {latest : Option Category}
    (h : IsLatestSignificant tokens latest) {token : Token}
    (ht : token.category ∉ significantCategories) :
    IsLatestSignificant (tokens ++ [token]) latest := by
  have hconcat {list : List Token} (hlist : ∀ t ∈ list, t.category ∉ significantCategories) :
      ∀ t ∈ list ++ [token], t.category ∉ significantCategories := by
    intro t hmem
    rcases List.mem_append.mp hmem with hmem | hmem
    · exact hlist t hmem
    · rwa [List.mem_singleton.mp hmem]
  cases h with
  | none hnone => exact .none (hconcat hnone)
  | @some before after last hsplit hsig hafter =>
    have hsplit' : tokens ++ [token] = before ++ last :: (after ++ [token]) := by
      rw [hsplit, List.append_assoc, List.cons_append]
    exact .some hsplit' hsig (hconcat hafter)

theorem isLatestSignificant_latestSignificant (tokens : List Token) :
    IsLatestSignificant tokens (latestSignificant tokens) := by
  induction tokens using List.reverseRecOn with
  | nil => exact .none (by simp)
  | append_singleton tokens token ih =>
    rw [latestSignificant_concat]
    by_cases hsig : token.category.isSignificant = true
    · rw [if_pos hsig]
      exact .some rfl (mem_significantCategories.mpr hsig) (by simp)
    · rw [if_neg hsig]
      exact ih.concat (mt mem_significantCategories.mp hsig)

namespace Scanner

/-! ## Sessions -/

/-- A scan that is held, and the tokens it has given back; those that the scan it is a copy of had
given back by then are among them. -/
structure Held where
  yielded : List Token
  scanner : Scanner

/-- The scan after a call of `next?`. -/
def Held.called (held : Held) : Held :=
  ⟨held.yielded ++ held.scanner.next?.1.toList, held.scanner.next?.2⟩

/-- What can be asked of the scans that are held. -/
inductive Request where
  /-- The next token of the scan at this place. -/
  | next (place : Nat)
  /-- A copy of the scan at this place, to be put behind all others. -/
  | copy (place : Nat)

/-- The scans that are held after a request.  At a place where there is none nothing is done. -/
def perform (scans : List Held) : Request → List Held
  | .next place => scans.modify place Held.called
  | .copy place => scans ++ scans[place]?.toList

/-- The scans that are held after some requests, at first a single one of the text. -/
def session (text : String) (requests : List Request) : List Held :=
  requests.foldl perform [⟨[], ofString text⟩]

variable {text : String} {requests : List Request} {held : Held} {s : Scanner}
  {yielded : List Token}

theorem mem_perform_next {scans : List Held} {place : Nat}
    (h : held ∈ perform scans (.next place)) :
    held ∈ scans ∨ ∃ old ∈ scans, held = old.called := by
  obtain ⟨i, hi⟩ := List.mem_iff_getElem?.mp h
  rw [perform, List.getElem?_modify, Option.map_eq_map, Option.map_eq_some_iff] at hi
  obtain ⟨old, hold, rfl⟩ := hi
  have hmem := List.mem_of_getElem? hold
  by_cases hplace : place = i
  · exact .inr ⟨old, hmem, if_pos hplace⟩
  · exact .inl (by rwa [if_neg hplace])

theorem mem_perform_copy {scans : List Held} {place : Nat}
    (h : held ∈ perform scans (.copy place)) : held ∈ scans := by
  rcases List.mem_append.mp h with h | h
  · exact h
  · exact List.mem_of_getElem? (Option.mem_toList.mp h)

/-- Neither a call nor a copy brings about a state that the scan of the text does not reach. -/
theorem reaches_of_mem_perform {scans : List Held}
    (h : ∀ held ∈ scans, Reaches text held.yielded held.scanner) (request : Request) :
    ∀ held ∈ perform scans request, Reaches text held.yielded held.scanner := by
  intro held hmem
  cases request with
  | next place =>
    rcases mem_perform_next hmem with hold | ⟨old, hold, rfl⟩
    · exact h held hold
    · exact (h old hold).of_next?
  | copy place => exact h held (mem_perform_copy hmem)

theorem reaches_of_mem_foldl {scans : List Held}
    (h : ∀ held ∈ scans, Reaches text held.yielded held.scanner) (requests : List Request) :
    ∀ held ∈ requests.foldl perform scans, Reaches text held.yielded held.scanner := by
  induction requests generalizing scans with
  | nil => exact h
  | cons request requests ih => exact ih (reaches_of_mem_perform h request)

/-- Every scan that is held is in a state that the scan of the text reaches without copies. -/
theorem reaches_of_mem_session (h : held ∈ session text requests) :
    Reaches text held.yielded held.scanner := by
  refine reaches_of_mem_foldl (fun first hfirst => ?_) requests held h
  obtain rfl := List.mem_singleton.mp hfirst
  exact .start

/-! ## What a scan holds -/

/-- A call that gives back a token without significance leaves the category that is held alone. -/
theorem Reaches.lastSignificant_next? (h : Reaches text yielded s) {token : Token}
    (ht : s.next?.1 = some token) (hsig : token.category.isSignificant = false) :
    s.next?.2.lastSignificant = s.lastSignificant := by
  have hnext := h.of_next?
  rw [ht, Option.toList_some] at hnext
  rw [hnext.lastSignificant_eq, latestSignificant_concat, hsig, h.lastSignificant_eq]
  rfl

/-- **The last significant category**: after any number of calls, on the first scan or on a copy
that was made at any point, a scan holds the category of the last token it has given back that is an
operator, a closing brace, a word, a regex literal or a string, and none if there is no such token.
The token under way does not count, however far it has come, and a blank or a comment that is given
back changes nothing. -/
theorem lastSignificant_of_mem_session (h : held ∈ session text requests) :
    IsLatestSignificant held.yielded held.scanner.lastSignificant ∧
      (∀ s, Reaches text held.yielded s → s.lastSignificant = held.scanner.lastSignificant) ∧
      ∀ token, held.scanner.next?.1 = some token →
        token.category ∈ [.plain, .xmlComment, .blockComment, .slashComment, .hashComment] →
        held.called.scanner.lastSignificant = held.scanner.lastSignificant := by
  have hreach := reaches_of_mem_session h
  have heq := hreach.lastSignificant_eq
  refine ⟨?_, fun s hs => hs.lastSignificant_eq.trans heq.symm, fun token ht hcat => ?_⟩
  · rw [heq]
    exact isLatestSignificant_latestSignificant held.yielded
  · have hsig : ∀ category ∈
        [Category.plain, .xmlComment, .blockComment, .slashComment, .hashComment],
        category.isSignificant = false := by decide
    exact hreach.lastSignificant_next? ht (hsig token.category hcat)

/-- A copy that has gone on to a regex literal holds its category. -/
theorem lastSignificant_of_copy_behind_regex :
    ∃ held ∈ session "= /x" [.next 0, .copy 0, .next 1, .next 1],
      held.scanner.lastSignificant = some .regex ∧
        IsLatestSignificant held.yielded (some .regex) := by
  have hregex : ((session "= /x" [.next 0, .copy 0, .next 1, .next 1])[1]?.map
      (·.scanner.lastSignificant)) = some (some .regex) := by decide +kernel
  obtain ⟨held, hheld, hregex⟩ := Option.map_eq_some_iff.mp hregex
  have hmem := List.mem_of_getElem? hheld
  refine ⟨held, hmem, hregex, ?_⟩
  rw [← hregex]
  exact (lastSignificant_of_mem_session hmem).1

end Scanner

end CodeHighlight
