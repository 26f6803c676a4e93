import CodeHighlight.Pattern.Matching
import Mathlib.Logic.Basic
import Std.Data.HashSet.Lemmas

/-!
# Proofs.Pattern.Meaning — what a pattern matches

`Matches` says which pieces of a text a pattern matches, as a condition on the piece and on the
characters on both sides of it.  The matcher that reads character by character finds a pattern in a
text exactly if the pattern matches a piece of the text (`isMatch_iff`): after each character the
residuals of a pattern match what the pattern matches with this character in front
(`matches_cons_iff`).
-/

namespace CodeHighlight.Pattern

/-! ## Languages -/

/-- A condition on a piece of a text and on the characters before and after it, of which there is
none at an end. -/
abbrev Language := Option Char → List Char → Option Char → Prop

namespace Language

/-- One character that meets a condition. -/
def one (P : Char → Prop) : Language := fun _ cs _ => ∃ c, P c ∧ cs = [c]

/-- A piece of the first and then one of the second. -/
def seq (K L : Language) : Language := fun before cs after =>
  ∃ front back, cs = front ++ back ∧ K before front (back.head?.or after) ∧
    L (front.getLast?.or before) back after

/-- So many pieces, one after the other. -/
def times (L : Language) : Nat → Language
  | 0 => fun _ cs _ => cs = []
  | n + 1 => L.seq (L.times n)

/-- What is left of the pieces after `before` that begin with `c`. -/
def rest (L : Language) (before : Option Char) (c : Char) : Language :=
  fun _ cs after => L before (c :: cs) after

/-- A piece stands at the beginning of a text. -/
def Begins (L : Language) (before : Option Char) (cs : List Char) : Prop :=
  ∃ front back, cs = front ++ back ∧ L before front back.head?

/-- A piece stands somewhere in a text. -/
def Occurs (L : Language) (before : Option Char) (cs : List Char) : Prop :=
  ∃ skipped back, cs = skipped ++ back ∧ L.Begins (skipped.getLast?.or before) back

variable {K L : Language} {before after : Option Char} {c : Char} {cs : List Char} {n : Nat}

theorem getLast?_cons_or (c : Char) (front : List Char) (before : Option Char) :
    (c :: front).getLast?.or before = front.getLast?.or (some c) := by
  rw [List.getLast?_cons, Option.or_some]
  rfl

theorem one_cons_iff {P : Char → Prop} : one P before (c :: cs) after ↔ P c ∧ cs = [] := by
  constructor
  · rintro ⟨d, hd, hcs⟩
    obtain ⟨rfl, rfl⟩ := List.cons.inj hcs
    exact ⟨hd, rfl⟩
  · rintro ⟨hc, rfl⟩
    exact ⟨c, hc, rfl⟩

theorem seq_nil_iff : K.seq L before [] after ↔ K before [] after ∧ L before [] after := by
  constructor
  · rintro ⟨front, back, hsplit, hK, hL⟩
    obtain ⟨rfl, rfl⟩ := List.nil_eq_append_iff.mp hsplit
    exact ⟨hK, hL⟩
  · rintro ⟨hK, hL⟩
    exact ⟨[], [], rfl, hK, hL⟩

/-- The first piece is empty, or the first character is its first. -/
theorem seq_cons_iff :
    K.seq L before (c :: cs) after ↔
      K before [] (some c) ∧ L before (c :: cs) after ∨
        (K.rest before c).seq L (some c) cs after := by
  constructor
  · rintro ⟨front, back, hsplit, hK, hL⟩
    rcases List.cons_eq_append_iff.mp hsplit with ⟨rfl, rfl⟩ | ⟨front', rfl, rfl⟩
    · exact .inl ⟨hK, hL⟩
    · rw [getLast?_cons_or] at hL
      exact .inr ⟨front', back, rfl, hK, hL⟩
  · rintro (⟨hK, hL⟩ | ⟨front, back, rfl, hK, hL⟩)
    · exact ⟨[], c :: cs, rfl, hK, hL⟩
    · exact ⟨c :: front, back, rfl, hK, by rwa [getLast?_cons_or]⟩

theorem times_nil_iff : L.times n before [] after ↔ n = 0 ∨ L before [] after := by
  induction n with
  | zero => exact ⟨fun _ => .inl rfl, fun _ => rfl⟩
  | succ n ih =>
    rw [times, seq_nil_iff, ih]
    constructor
    · exact fun h => .inr h.1
    · rintro (h | h)
      · cases h
      · exact ⟨h, .inr h⟩

/-- The first piece that is not empty takes the first character.  Those before it are empty. -/
theorem times_cons_iff :
    L.times n before (c :: cs) after ↔
      ∃ j < n, (j + 1 = n ∨ L before [] (some c)) ∧
        (L.rest before c).seq (L.times j) (some c) cs after := by
  induction n with
  | zero => exact ⟨fun h => (nomatch h), fun ⟨j, hj, _⟩ => absurd hj (Nat.not_lt_zero j)⟩
  | succ n ih =>
    rw [times, seq_cons_iff, ih]
    constructor
    · rintro (⟨hempty, j, hj, -, hrest⟩ | hrest)
      · exact ⟨j, by omega, .inr hempty, hrest⟩
      · exact ⟨n, by omega, .inl rfl, hrest⟩
    · rintro ⟨j, hj, hskip, hrest⟩
      rcases Nat.lt_or_eq_of_le (Nat.le_of_lt_succ hj) with hlt | rfl
      · have hempty : L before [] (some c) := hskip.resolve_left (by omega)
        exact .inl ⟨hempty, j, hlt, .inr hempty, hrest⟩
      · exact .inr hrest

theorem begins_nil_iff : L.Begins before [] ↔ L before [] none := by
  constructor
  · rintro ⟨front, back, hsplit, hL⟩
    obtain ⟨rfl, rfl⟩ := List.nil_eq_append_iff.mp hsplit
    exact hL
  · exact fun hL => ⟨[], [], rfl, hL⟩

theorem begins_cons_iff :
    L.Begins before (c :: cs) ↔ L before [] (some c) ∨ (L.rest before c).Begins (some c) cs := by
  constructor
  · rintro ⟨front, back, hsplit, hL⟩
    rcases List.cons_eq_append_iff.mp hsplit with ⟨rfl, rfl⟩ | ⟨front', rfl, rfl⟩
    · exact .inl hL
    · exact .inr ⟨front', back, rfl, hL⟩
  · rintro (hL | ⟨front, back, rfl, hL⟩)
    · exact ⟨[], c :: cs, rfl, hL⟩
    · exact ⟨c :: front, back, rfl, hL⟩

theorem occurs_nil_iff : L.Occurs before [] ↔ L before [] none := by
  refine Iff.trans ?_ begins_nil_iff
  constructor
  · rintro ⟨skipped, back, hsplit, hL⟩
    obtain ⟨rfl, rfl⟩ := List.nil_eq_append_iff.mp hsplit
    exact hL
  · exact fun hL => ⟨[], [], rfl, hL⟩

theorem occurs_cons_iff :
    L.Occurs before (c :: cs) ↔ L.Begins before (c :: cs) ∨ L.Occurs (some c) cs := by
  constructor
  · rintro ⟨skipped, back, hsplit, hL⟩
    rcases List.cons_eq_append_iff.mp hsplit with ⟨rfl, rfl⟩ | ⟨skipped', rfl, rfl⟩
    · exact .inl hL
    · rw [getLast?_cons_or] at hL
      exact .inr ⟨skipped', back, rfl, hL⟩
  · rintro (hL | ⟨skipped, back, rfl, hL⟩)
    · exact ⟨[], c :: cs, rfl, hL⟩
    · exact ⟨c :: skipped, back, rfl, by rwa [getLast?_cons_or]⟩

end Language

/-! ## The meaning of a pattern -/

/-- The pieces of a text that a pattern matches. -/
def Matches : Pattern → Language
  | .empty => fun _ cs _ => cs = []
  | .char d => .one (· = d)
  | .any => .one (· ≠ '\n')
  | .oneOf set => .one (set.contains · = true)
  | .anchor condition => fun before cs after =>
    cs = [] ∧ condition.holds ⟨before, after⟩ = true
  | .group _ p => p.Matches
  | .seq p q => p.Matches.seq q.Matches
  | .alt p q => fun before cs after => p.Matches before cs after ∨ q.Matches before cs after
  | .repeated p bounds => fun before cs after =>
    ∃ count, bounds.least ≤ count ∧ (∀ most ∈ bounds.most, count ≤ most) ∧
      p.Matches.times count before cs after

/-- No repetition in the pattern has to happen more often than it may. -/
def IsProper : Pattern → Prop
  | .empty | .char _ | .any | .oneOf _ | .anchor _ => True
  | .group _ p => p.IsProper
  | .seq p q | .alt p q => p.IsProper ∧ q.IsProper
  | .repeated p bounds => (∀ most ∈ bounds.most, bounds.least ≤ most) ∧ p.IsProper

variable {before after : Option Char} {c : Char} {cs : List Char} {p : Pattern}

theorem acceptsEmpty_iff (hp : p.IsProper) :
    p.acceptsEmpty ⟨before, after⟩ = true ↔ p.Matches before [] after := by
  induction p with
  | empty => exact ⟨fun _ => rfl, fun _ => rfl⟩
  | char d => exact ⟨fun h => (nomatch h), fun ⟨_, _, h⟩ => nomatch h⟩
  | any => exact ⟨fun h => (nomatch h), fun ⟨_, _, h⟩ => nomatch h⟩
  | oneOf set => exact ⟨fun h => (nomatch h), fun ⟨_, _, h⟩ => nomatch h⟩
  | anchor condition => exact ⟨fun h => ⟨rfl, h⟩, fun h => h.2⟩
  | group capturing p ih => exact ih hp
  | seq p q ihp ihq =>
    rw [acceptsEmpty, Bool.and_eq_true, ihp hp.1, ihq hp.2]
    exact Language.seq_nil_iff.symm
  | alt p q ihp ihq =>
    rw [acceptsEmpty, Bool.or_eq_true, ihp hp.1, ihq hp.2]
    rfl
  | repeated p bounds ih =>
    rw [acceptsEmpty, Bool.or_eq_true, beq_iff_eq, ih hp.2]
    simp only [Matches, Language.times_nil_iff]
    constructor
    · intro h
      refine ⟨bounds.least, Nat.le_refl _, hp.1, h⟩
    · rintro ⟨count, hle, -, rfl | hempty⟩
      · exact .inl (Nat.le_zero.mp hle)
      · exact .inr hempty

theorem isProper_of_mem_residuals {r : Pattern} (hp : p.IsProper)
    (hr : r ∈ p.residuals before c) : r.IsProper := by
  induction p generalizing r with
  | empty => cases hr
  | anchor condition => cases hr
  | char d =>
    rw [residuals] at hr
    split at hr
    · exact List.mem_singleton.mp hr ▸ trivial
    · cases hr
  | any =>
    rw [residuals] at hr
    split at hr
    · cases hr
    · exact List.mem_singleton.mp hr ▸ trivial
  | oneOf set =>
    rw [residuals] at hr
    split at hr
    · exact List.mem_singleton.mp hr ▸ trivial
    · cases hr
  | group capturing p ih => exact ih hp hr
  | seq p q ihp ihq =>
    rw [residuals, List.mem_append] at hr
    rcases hr with hr | hr
    · obtain ⟨r', hr', rfl⟩ := List.mem_map.mp hr
      exact ⟨ihp hp.1 hr', hp.2⟩
    · split at hr
      · exact ihq hp.2 hr
      · cases hr
  | alt p q ihp ihq =>
    rw [residuals, List.mem_append] at hr
    exact hr.elim (ihp hp.1) (ihq hp.2)
  | repeated p bounds ih =>
    rw [residuals] at hr
    split at hr
    · cases hr
    · obtain ⟨r', hr', rfl⟩ := List.mem_map.mp hr
      refine ⟨ih hp.2 hr', fun most hmost => ?_, hp.2⟩
      obtain ⟨most', hmost', rfl⟩ := Option.map_eq_some_iff.mp hmost
      have hle := hp.1 most' hmost'
      dsimp only
      split <;> omega

/-- What a repetition matches after it has read a character in one of its copies. -/
theorem times_cons_of_bounds {L : Language} {bounds : Bounds} {empty : Bool}
    (hbounds : ∀ most ∈ bounds.most, bounds.least ≤ most) (hmost : bounds.most ≠ some 0)
    (hempty : empty = true ↔ L before [] (some c)) :
    (∃ count, bounds.least ≤ count ∧ (∀ most ∈ bounds.most, count ≤ most) ∧
        L.times count before (c :: cs) after) ↔
      ∃ j, (if empty then 0 else bounds.least - 1) ≤ j ∧
        (∀ most ∈ bounds.most.map (· - 1), j ≤ most) ∧
        (L.rest before c).seq (L.times j) (some c) cs after := by
  constructor
  · rintro ⟨count, hleast, hcount, htimes⟩
    obtain ⟨j, hj, hskip, hrest⟩ := Language.times_cons_iff.mp htimes
    refine ⟨j, ?_, fun most hmem => ?_, hrest⟩
    · split
      · exact Nat.zero_le j
      · rename_i hnot
        have := hskip.resolve_right (mt hempty.mpr hnot)
        omega
    · obtain ⟨most', hmost', rfl⟩ := Option.map_eq_some_iff.mp hmem
      have := hcount most' hmost'
      omega
  · rintro ⟨j, hj, hcount, hrest⟩
    have hpos : ∀ most ∈ bounds.most, j + 1 ≤ most := fun most hmem => by
      have hle := hcount _ (Option.map_eq_some_iff.mpr ⟨most, hmem, rfl⟩)
      have hne : most ≠ 0 := fun h => hmost (h ▸ hmem)
      omega
    split at hj
    · -- as many copies as are still needed are empty
      rename_i hyes
      refine ⟨max (j + 1) bounds.least, Nat.le_max_right .., fun most hmem => ?_, ?_⟩
      · exact Nat.max_le.mpr ⟨hpos most hmem, hbounds most hmem⟩
      · exact Language.times_cons_iff.mpr ⟨j, by omega, .inr (hempty.mp hyes), hrest⟩
    · exact ⟨j + 1, by omega, hpos, Language.times_cons_iff.mpr ⟨j, by omega, .inl rfl, hrest⟩⟩

/-- A pattern that has read a character and goes on with `q`, in all possible ways. -/
theorem seq_rest_iff {L : Language} {q : Pattern} {rs : List Pattern}
    (hL : ∀ front after, L before (c :: front) after ↔ ∃ r ∈ rs, r.Matches (some c) front after) :
    (L.rest before c).seq q.Matches (some c) cs after ↔
      ∃ r ∈ rs.map (Pattern.seq · q), r.Matches (some c) cs after := by
  constructor
  · rintro ⟨front, back, hsplit, hfront, hback⟩
    obtain ⟨r, hr, hmatch⟩ := (hL _ _).mp hfront
    exact ⟨.seq r q, List.mem_map.mpr ⟨r, hr, rfl⟩, front, back, hsplit, hmatch, hback⟩
  · rintro ⟨_, hmem, hmatch⟩
    obtain ⟨r, hr, rfl⟩ := List.mem_map.mp hmem
    obtain ⟨front, back, hsplit, hfront, hback⟩ := hmatch
    exact ⟨front, back, hsplit, (hL _ _).mpr ⟨r, hr, hfront⟩, hback⟩

/-- The residuals match what the pattern matches with the character in front. -/
theorem matches_cons_iff (hp : p.IsProper) :
    p.Matches before (c :: cs) after ↔
      ∃ r ∈ p.residuals before c, r.Matches (some c) cs after := by
  induction p generalizing cs after with
  | empty => exact ⟨fun h => (nomatch h), fun ⟨_, h, _⟩ => nomatch h⟩
  | anchor condition => exact ⟨fun h => (nomatch h.1), fun ⟨_, h, _⟩ => nomatch h⟩
  | char d =>
    rw [Matches, Language.one_cons_iff, residuals]
    split <;> simp_all [Matches]
  | any =>
    rw [Matches, Language.one_cons_iff, residuals]
    split <;> simp_all [Matches]
  | oneOf set =>
    rw [Matches, Language.one_cons_iff, residuals]
    split <;> simp_all [Matches]
  | group capturing p ih => exact ih hp
  | seq p q ihp ihq =>
    have hfirst : (p.Matches.rest before c).seq q.Matches (some c) cs after ↔
        ∃ r ∈ (p.residuals before c).map (Pattern.seq · q), r.Matches (some c) cs after :=
      seq_rest_iff fun _ _ => ihp hp.1
    rw [Matches, Language.seq_cons_iff, hfirst, ← acceptsEmpty_iff hp.1, ihq hp.2, residuals]
    simp only [List.mem_append, or_and_right, exists_or]
    rw [or_comm]
    refine or_congr_right ?_
    split <;> simp_all
  | alt p q ihp ihq =>
    rw [residuals]
    simp only [List.mem_append, or_and_right, exists_or]
    exact or_congr (ihp hp.1) (ihq hp.2)
  | repeated p bounds ih =>
    rw [residuals]
    split <;> rename_i hmost
    · -- with no copy there is nothing to read
      refine iff_of_false ?_ fun ⟨_, hr, _⟩ => nomatch hr
      rintro ⟨count, -, hcount, htimes⟩
      obtain rfl : count = 0 := Nat.le_zero.mp (hcount 0 (eq_of_beq hmost))
      cases htimes
    · refine (times_cons_of_bounds hp.1 (by simpa using hmost) (acceptsEmpty_iff hp.2)).trans ?_
      refine Iff.trans ?_ (seq_rest_iff fun _ _ => ih hp.2)
      constructor
      · rintro ⟨j, hleast, hcount, front, back, hsplit, hfront, hback⟩
        exact ⟨front, back, hsplit, hfront, j, hleast, hcount, hback⟩
      · rintro ⟨front, back, hsplit, hfront, j, hleast, hcount, hback⟩
        exact ⟨j, hleast, hcount, front, back, hsplit, hfront, hback⟩

/-! ## The matcher -/

theorem mem_distinct {patterns : List Pattern} : p ∈ distinct patterns ↔ p ∈ patterns := by
  unfold distinct
  split
  · exact List.mem_eraseDups
  · rw [Std.HashSet.mem_toList, Std.HashSet.mem_ofList, List.contains_iff_mem]

theorem any_acceptsEmpty_iff {patterns : List Pattern} (h : ∀ q ∈ patterns, q.IsProper) :
    patterns.any (acceptsEmpty ⟨before, after⟩) = true ↔
      ∃ q ∈ patterns, q.Matches before [] after := by
  rw [List.any_eq_true]
  exact exists_congr fun q => and_congr_right fun hq => acceptsEmpty_iff (h q hq)

/-- What the matcher finds: a live pattern here, or the pattern itself here or later. -/
theorem isMatchFrom_iff (hp : p.IsProper) {live : List Pattern} (hlive : ∀ q ∈ live, q.IsProper) :
    p.isMatchFrom before live cs = true ↔
      (∃ q ∈ live, q.Matches.Begins before cs) ∨ p.Matches.Occurs before cs := by
  induction cs generalizing before live with
  | nil =>
    rw [isMatchFrom, any_acceptsEmpty_iff (List.forall_mem_cons.mpr ⟨hp, hlive⟩),
      Language.occurs_nil_iff]
    simp only [Language.begins_nil_iff, List.mem_cons, exists_eq_or_imp]
    rw [or_comm]
  | cons c cs ih =>
    have hall : ∀ q ∈ p :: live, q.IsProper := List.forall_mem_cons.mpr ⟨hp, hlive⟩
    have hnext : ∀ r ∈ distinct ((p :: live).flatMap (residuals before c)), r.IsProper := by
      intro r hr
      obtain ⟨q, hq, hr⟩ := List.mem_flatMap.mp (mem_distinct.mp hr)
      exact isProper_of_mem_residuals (hall q hq) hr
    -- what is live after the character matches what was live before it with the character in front
    have hread : (∃ r ∈ distinct ((p :: live).flatMap (residuals before c)),
        r.Matches.Begins (some c) cs) ↔
      ∃ q ∈ p :: live, (q.Matches.rest before c).Begins (some c) cs := by
      constructor
      · rintro ⟨r, hr, front, back, hsplit, hmatch⟩
        obtain ⟨q, hq, hr⟩ := List.mem_flatMap.mp (mem_distinct.mp hr)
        exact ⟨q, hq, front, back, hsplit, (matches_cons_iff (hall q hq)).mpr ⟨r, hr, hmatch⟩⟩
      · rintro ⟨q, hq, front, back, hsplit, hmatch⟩
        obtain ⟨r, hr, hmatch⟩ := (matches_cons_iff (hall q hq)).mp hmatch
        exact ⟨r, mem_distinct.mpr (List.mem_flatMap.mpr ⟨q, hq, hr⟩), front, back, hsplit, hmatch⟩
    rw [isMatchFrom, Bool.or_eq_true, any_acceptsEmpty_iff hall, ih hnext, hread,
      Language.occurs_cons_iff, ← or_assoc, ← or_assoc]
    refine or_congr_left ?_
    simp only [Language.begins_cons_iff, List.mem_cons, exists_eq_or_imp, and_or_left, exists_or]
    rw [or_or_or_comm, or_comm]

/-- **What a search finds**: the matcher finds a pattern in a text exactly if the pattern matches a
piece of the text. -/
theorem isMatch_iff (hp : p.IsProper) (text : String) :
    p.isMatch text = true ↔ p.Matches.Occurs none text.toList := by
  rw [isMatch, isMatchFrom_iff hp (List.forall_mem_nil _)]
  simp

end CodeHighlight.Pattern
