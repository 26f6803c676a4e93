import CodeHighlight.Proofs.Pattern.WordList

/-!
# Proofs.Pattern.Choices — patterns for finitely many words

A pattern made of characters, groups, sequences, choices and options only (`isFinitary`) matches
finitely many texts.  `choices` lists them: one for each way to take a branch at every choice and to
take or leave every option.  Such a pattern between the two ends of a text is found exactly in the
texts of this list (`isMatch_iff_mem_choices`).
-/

namespace CodeHighlight.Pattern

/-- The pattern is made of characters, groups, sequences, choices and options only. -/
def isFinitary : Pattern → Bool
  | .empty | .char _ => true
  | .any | .oneOf _ | .anchor _ => false
  | .group _ p => p.isFinitary
  | .seq p q | .alt p q => p.isFinitary && q.isFinitary
  | .repeated p bounds => p.isFinitary && bounds.least == 0 && bounds.most == some 1

/-- The texts that come of taking one branch at every choice, and of taking or leaving every option.
Anchors are no part of a text. -/
def choices : Pattern → List (List Char)
  | .empty | .anchor _ => [[]]
  | .char c => [[c]]
  | .any | .oneOf _ => []
  | .group _ p => p.choices
  | .seq p q => p.choices.flatMap fun front => q.choices.map (front ++ ·)
  | .alt p q => p.choices ++ q.choices
  | .repeated p _ => [] :: p.choices

/-- The pattern is one for whole texts: a finitary one between the two ends. -/
def isWhole : Pattern → Bool
  | .seq (.anchor .start) (.seq p (.anchor .stop)) => p.isFinitary
  | _ => false

variable {p : Pattern} {before after : Option Char} {cs : List Char}

theorem isProper_of_isFinitary (hp : p.isFinitary = true) : p.IsProper := by
  induction p with
  | empty | char _ | any | oneOf _ | anchor _ => trivial
  | group _ p ih => exact ih hp
  | seq p q ihp ihq | alt p q ihp ihq =>
    obtain ⟨hp, hq⟩ := Bool.and_eq_true_iff.mp hp
    exact ⟨ihp hp, ihq hq⟩
  | repeated p bounds ih =>
    simp only [isFinitary, Bool.and_eq_true, beq_iff_eq] at hp
    obtain ⟨⟨hp, hleast⟩, -⟩ := hp
    exact ⟨fun most _ => hleast ▸ Nat.zero_le most, ih hp⟩

/-- An option is left or taken. -/
theorem matches_option {bounds : Bounds} (hleast : bounds.least = 0)
    (hmost : bounds.most = some 1) :
    (Pattern.repeated p bounds).Matches before cs after ↔ cs = [] ∨ p.Matches before cs after := by
  have hone : p.Matches.times 1 before cs after ↔ p.Matches before cs after := by
    constructor
    · rintro ⟨front, back, rfl, hp, rfl⟩
      rwa [List.append_nil]
    · exact fun hp => ⟨cs, [], (List.append_nil cs).symm, hp, rfl⟩
  rw [Matches, hleast, hmost]
  constructor
  · rintro ⟨count, -, hcount, htimes⟩
    obtain rfl | rfl := Nat.le_one_iff_eq_zero_or_eq_one.mp (hcount 1 rfl)
    · exact .inl htimes
    · exact .inr (hone.mp htimes)
  · rintro (rfl | hp)
    · exact ⟨0, Nat.zero_le 0, fun most _ => Nat.zero_le most, rfl⟩
    · exact ⟨1, Nat.zero_le 1, fun _ heq => Nat.le_of_eq (Option.some.inj heq), hone.mpr hp⟩

/-- A finitary pattern matches its choices, whatever stands around them. -/
theorem matches_iff_mem_choices (hp : p.isFinitary = true) :
    p.Matches before cs after ↔ cs ∈ p.choices := by
  induction p generalizing before cs after with
  | empty => exact List.mem_singleton.symm
  | char d =>
    rw [choices, List.mem_singleton]
    exact ⟨fun ⟨_, hc, hcs⟩ => hc ▸ hcs, fun hcs => ⟨d, rfl, hcs⟩⟩
  | any | oneOf _ | anchor _ => cases hp
  | group _ p ih => exact ih hp
  | seq p q ihp ihq =>
    obtain ⟨hp, hq⟩ := Bool.and_eq_true_iff.mp hp
    simp only [choices, List.mem_flatMap, List.mem_map]
    constructor
    · rintro ⟨front, back, rfl, hfront, hback⟩
      exact ⟨front, (ihp hp).mp hfront, back, (ihq hq).mp hback, rfl⟩
    · rintro ⟨front, hfront, back, hback, rfl⟩
      exact ⟨front, back, rfl, (ihp hp).mpr hfront, (ihq hq).mpr hback⟩
  | alt p q ihp ihq =>
    obtain ⟨hp, hq⟩ := Bool.and_eq_true_iff.mp hp
    rw [choices, List.mem_append, ← ihp hp, ← ihq hq]
    rfl
  | repeated p bounds ih =>
    simp only [isFinitary, Bool.and_eq_true, beq_iff_eq] at hp
    obtain ⟨⟨hp, hleast⟩, hmost⟩ := hp
    rw [matches_option hleast hmost, choices, List.mem_cons, ih hp]

/-- **Finite sets of words**: a finitary pattern between the two ends of a text is found exactly in
the texts among its choices. -/
theorem isMatch_iff_mem_choices (hp : p.isWhole = true) (text : String) :
    p.isMatch text = true ↔ text.toList ∈ p.choices := by
  unfold isWhole at hp
  split at hp
  · rename_i q
    have hproper : (Pattern.seq (.anchor .start) (.seq q (.anchor .stop))).IsProper :=
      ⟨trivial, isProper_of_isFinitary hp, trivial⟩
    rw [isMatch_iff hproper, occurs_between_ends, matches_iff_mem_choices hp]
    simp [choices]
  · cases hp

end CodeHighlight.Pattern
