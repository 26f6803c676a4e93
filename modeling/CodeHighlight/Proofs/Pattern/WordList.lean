import CodeHighlight.Pattern.Literal
import CodeHighlight.Proofs.Pattern.Meaning

/-!
# Proofs.Pattern.WordList — the written pattern of a list of words

The text that `ofWords` writes is read as the pattern that it is meant to be: a choice of words
between the two ends of the text (`parse_ofWords`).  Characters with a special meaning are escaped,
so each character of a word is read as itself, and nothing in a word ends a branch or the group.
The pattern is found in a text exactly if the text is one of the words (`isMatch_wordList`).
-/

namespace CodeHighlight.Pattern

/-! ## Patterns of words -/

/-- The pattern of a text. -/
def word (cs : List Char) : Pattern := seqs (cs.map .char)

/-- A choice of patterns.  One without any branch matches the empty text. -/
def choiceOf : List Pattern → Pattern
  | [] => .empty
  | p :: ps => alts p ps

/-- The pattern of a whole text that is one of the words. -/
def wordList (words : List (List Char)) : Pattern :=
  .seq (.anchor .start) (.seq (.group false (choiceOf (words.map word))) (.anchor .stop))

variable {before after : Option Char} {cs : List Char}

theorem matches_seqs_cons (p : Pattern) (ps : List Pattern) :
    (seqs (p :: ps)).Matches before cs after ↔ p.Matches.seq (seqs ps).Matches before cs after := by
  cases ps with
  | nil =>
    constructor
    · exact fun h => ⟨cs, [], (List.append_nil cs).symm, h, rfl⟩
    · rintro ⟨front, back, rfl, h, rfl⟩
      rw [List.append_nil]
      exact h
  | cons q ps => exact Iff.rfl

theorem matches_word {text : List Char} : (word cs).Matches before text after ↔ text = cs := by
  induction cs generalizing before text with
  | nil => exact Iff.rfl
  | cons c cs ih =>
    rw [word, List.map_cons, matches_seqs_cons]
    constructor
    · rintro ⟨front, back, rfl, ⟨_, rfl, rfl⟩, hback⟩
      rw [ih.mp hback, List.singleton_append]
    · rintro rfl
      exact ⟨[c], cs, rfl, ⟨c, rfl, rfl⟩, ih.mpr rfl⟩

theorem matches_alts (p : Pattern) (ps : List Pattern) :
    (alts p ps).Matches before cs after ↔ ∃ q ∈ p :: ps, q.Matches before cs after := by
  induction ps generalizing p with
  | nil => simp [alts]
  | cons q ps ih =>
    simp only [List.mem_cons (b := p), exists_eq_or_imp, ← ih]
    exact Iff.rfl

theorem matches_choiceOf {words : List (List Char)} :
    (choiceOf (words.map word)).Matches before cs after ↔ cs ∈ words ∨ words = [] ∧ cs = [] := by
  cases words with
  | nil => simp [choiceOf, Matches]
  | cons w words =>
    rw [List.map_cons, choiceOf, matches_alts]
    simp [matches_word]

theorem isProper_seqs {ps : List Pattern} (h : ∀ p ∈ ps, p.IsProper) : (seqs ps).IsProper := by
  induction ps with
  | nil => trivial
  | cons p ps ih =>
    obtain ⟨hp, hps⟩ := List.forall_mem_cons.mp h
    cases ps with
    | nil => exact hp
    | cons q ps => exact ⟨hp, ih hps⟩

theorem isProper_alts {p : Pattern} {ps : List Pattern} (h : ∀ q ∈ p :: ps, q.IsProper) :
    (alts p ps).IsProper := by
  induction ps generalizing p with
  | nil => exact h p List.mem_cons_self
  | cons q ps ih =>
    obtain ⟨hp, hps⟩ := List.forall_mem_cons.mp h
    exact ⟨hp, ih hps⟩

theorem isProper_word (cs : List Char) : (word cs).IsProper := by
  refine isProper_seqs fun p hp => ?_
  obtain ⟨c, -, rfl⟩ := List.mem_map.mp hp
  trivial

theorem isProper_wordList (words : List (List Char)) : (wordList words).IsProper := by
  refine ⟨trivial, ?_, trivial⟩
  cases words with
  | nil => trivial
  | cons w words =>
    refine isProper_alts fun p hp => ?_
    obtain ⟨w', -, rfl⟩ := List.mem_map.mp (List.map_cons ▸ hp)
    exact isProper_word w'

/-- Between the two ends of the text a pattern matches the whole text. -/
theorem occurs_between_ends {p : Pattern} {text : List Char} :
    (Pattern.seq (.anchor .start) (.seq p (.anchor .stop))).Matches.Occurs none text ↔
      p.Matches none text none := by
  constructor
  · rintro ⟨skipped, _, rfl, _, rest, rfl, _, _, rfl, ⟨rfl, hstart⟩, front, back, rfl, hp, rfl,
      hstop⟩
    have hskipped : skipped = [] := by
      simpa [Anchor.holds] using hstart
    have hrest : rest = [] := by
      simpa [Anchor.holds] using hstop
    subst hskipped hrest
    rw [List.append_nil, List.append_nil, List.nil_append]
    exact hp
  · intro hp
    refine ⟨[], text, rfl, text, [], by simp, [], text, rfl, ⟨rfl, rfl⟩, text, [], by simp, ?_, rfl,
      ?_⟩
    · simpa using hp
    · simp [Anchor.holds]

/-- The words of the list, and of the empty list the empty text, are what its pattern is found
in. -/
theorem isMatch_wordList (words : List (List Char)) (text : String) :
    (wordList words).isMatch text = true ↔
      text.toList ∈ words ∨ words = [] ∧ text.toList = [] := by
  rw [isMatch_iff (isProper_wordList words), wordList, occurs_between_ends, Matches,
    matches_choiceOf]

/-! ## Escaped words as glyphs and lexemes -/

/-- The glyph that a character of an escaped text is read as. -/
def glyphOf (c : Char) : Glyph := if specials.contains c then .literal c else .plain c

theorem glyphs_cons_of_ne {c : Char} (h : c ≠ '\\') {gs : List Glyph} (hcs : glyphs cs = .ok gs) :
    glyphs (c :: cs) = .ok (.plain c :: gs) := by
  unfold glyphs
  rw [if_neg (by simpa using h), hcs]
  rfl

theorem glyphs_escapeChar (c : Char) {gs : List Glyph} (hcs : glyphs cs = .ok gs) :
    glyphs (escapeChar c ++ cs) = .ok (glyphOf c :: gs) := by
  have hescapable : ∀ d ∈ specials, isEscapable d = true :=
    List.all_eq_true.mp (show specials.all isEscapable = true from rfl)
  unfold escapeChar glyphOf
  split <;> rename_i hc
  · have hmem : c ∈ specials := by simpa using hc
    rw [List.cons_append, List.cons_append, glyphs, if_pos (beq_self_eq_true _),
      if_pos (hescapable c hmem), List.nil_append, hcs]
    rfl
  · refine glyphs_cons_of_ne ?_ hcs
    rintro rfl
    exact hc (by decide)

theorem glyphs_escaped (text : List Char) {gs : List Glyph} (hcs : glyphs cs = .ok gs) :
    glyphs (text.flatMap escapeChar ++ cs) = .ok (text.map glyphOf ++ gs) := by
  induction text with
  | nil => exact hcs
  | cons c text ih =>
    rw [List.flatMap_cons, List.append_assoc]
    exact glyphs_escapeChar c ih

/-- Escaped words with bars between them are read word by word. -/
theorem glyphs_words (words : List (List Char)) {gs : List Glyph} (hcs : glyphs cs = .ok gs) :
    glyphs (['|'].intercalate (words.map (·.flatMap escapeChar)) ++ cs) =
      .ok ([.plain '|'].intercalate (words.map (·.map glyphOf)) ++ gs) := by
  induction words with
  | nil => exact hcs
  | cons w words ih =>
    cases words with
    | nil => simpa using glyphs_escaped w hcs
    | cons w' words =>
      have hbar := glyphs_escaped w (glyphs_cons_of_ne (c := '|') (by decide) ih)
      simpa [List.intercalate_cons_cons] using hbar

theorem lexemes_glyphOf (again : Bool) (c : Char) {gs : List Glyph} {ls : List Lexeme}
    (h : lexemes false gs = .ok ls) : lexemes again (glyphOf c :: gs) = .ok (.char c :: ls) := by
  unfold glyphOf
  split <;> rename_i hc
  · have hall : specials.all (fun d => literalLexeme d == .char d) = true := by decide
    have hliteral := List.all_eq_true.mp hall c (by simpa using hc)
    rw [lexemes, h, eq_of_beq hliteral]
    rfl
  · have hne {d : Char} (hd : d ∈ specials) : c ≠ d := by
      rintro rfl
      exact hc (by simpa using hd)
    have hlexeme : lexemeOf c = .char c := by
      unfold lexemeOf
      split <;> first | rfl | exact absurd rfl (hne (by decide))
    have hopening := hne (d := '(') (by decide)
    have hclass := hne (d := '[') (by decide)
    have hcount := hne (d := '{') (by decide)
    have hoption := hne (d := '?') (by decide)
    unfold lexemes
    simp only [beq_iff_eq, hopening, hclass, hcount, hoption, if_false, Bool.and_eq_true, false_and,
      hlexeme, Lexeme.isRepetition, h]
    rfl

theorem lexemes_text (again : Bool) (text : List Char) {gs : List Glyph} {ls : List Lexeme}
    (h : ∀ again, lexemes again gs = .ok ls) :
    lexemes again (text.map glyphOf ++ gs) = .ok (text.map .char ++ ls) := by
  induction text generalizing again with
  | nil => exact h again
  | cons c text ih => exact lexemes_glyphOf again c (ih false)

theorem lexemes_bar (again : Bool) {gs : List Glyph} {ls : List Lexeme}
    (h : lexemes false gs = .ok ls) : lexemes again (.plain '|' :: gs) = .ok (.bar :: ls) := by
  unfold lexemes
  simp [lexemeOf, Lexeme.isRepetition, h, Except.map]

theorem lexemes_words (words : List (List Char)) {gs : List Glyph} {ls : List Lexeme}
    (h : ∀ again, lexemes again gs = .ok ls) (again : Bool) :
    lexemes again ([.plain '|'].intercalate (words.map (·.map glyphOf)) ++ gs) =
      .ok ([.bar].intercalate (words.map (·.map .char)) ++ ls) := by
  induction words generalizing again with
  | nil => exact h again
  | cons w words ih =>
    cases words with
    | nil => simpa using lexemes_text again w h
    | cons w' words =>
      have hbar := lexemes_text again w fun again => lexemes_bar again (ih false)
      simpa [List.intercalate_cons_cons] using hbar

/-! ## Reading the lexemes -/

theorem foldlM_chars (reading : Reading) (text : List Char) :
    (text.map Lexeme.char).foldlM Reading.next reading =
      .ok { reading with inner :=
        { reading.inner with
          items := (text.map Pattern.char).reverse ++ reading.inner.items } } := by
  induction text generalizing reading with
  | nil => rfl
  | cons c text ih =>
    rw [List.map_cons, List.foldlM_cons]
    change (text.map Lexeme.char).foldlM Reading.next (reading.add (.char c)) = _
    rw [ih]
    simp [Reading.add, Frame.add]

theorem Frame.choice_eq (frame : Frame) :
    frame.choice = choiceOf (frame.branches.reverse ++ [frame.branch]) := by
  unfold Frame.choice
  split <;> rename_i h <;> rw [h] <;> rfl

/-- Words with bars between them are read as the branches of a choice. -/
theorem foldlM_words (branches : List Pattern) (outer : List Frame) (w : List Char)
    (words : List (List Char)) :
    ∃ frame : Frame, frame.capturing = false ∧
      frame.choice = choiceOf (branches.reverse ++ (w :: words).map word) ∧
      ([.bar].intercalate ((w :: words).map (·.map Lexeme.char))).foldlM Reading.next
        ⟨⟨false, branches, []⟩, outer⟩ = .ok ⟨frame, outer⟩ := by
  induction words generalizing w branches with
  | nil =>
    refine ⟨_, rfl, ?_, by simpa using foldlM_chars _ w⟩
    simp [Frame.choice_eq, Frame.branch, word]
  | cons w' words ih =>
    obtain ⟨frame, hcapturing, hchoice, hread⟩ := ih (word w :: branches) w'
    refine ⟨frame, hcapturing, by simpa using hchoice, ?_⟩
    have hsplit : (⟨false, branches, (w.map Pattern.char).reverse ++ []⟩ : Frame).split =
        ⟨false, word w :: branches, []⟩ := by simp [Frame.split, Frame.branch, word]
    rw [List.map_cons, List.map_cons, List.intercalate_cons_cons, List.append_assoc,
      List.foldlM_append, foldlM_chars]
    change ([.bar].intercalate ((w' :: words).map (·.map Lexeme.char))).foldlM Reading.next
      ⟨Frame.split _, outer⟩ = _
    rw [hsplit, hread]

/-- A list of words is read as a choice; an empty list is read like the empty word. -/
theorem foldlM_choice (outer : List Frame) (words : List (List Char)) :
    ∃ frame : Frame, frame.capturing = false ∧ frame.choice = choiceOf (words.map word) ∧
      ([.bar].intercalate (words.map (·.map Lexeme.char))).foldlM Reading.next
        ⟨⟨false, [], []⟩, outer⟩ = .ok ⟨frame, outer⟩ := by
  cases words with
  | nil => exact ⟨⟨false, [], []⟩, rfl, rfl, rfl⟩
  | cons w words => exact foldlM_words [] outer w words

/-- The lexemes of the written pattern for a list of words. -/
def wordListLexemes (words : List (List Char)) : List Lexeme :=
  .anchor .start :: .opening false ::
    ([Lexeme.bar].intercalate (words.map fun w => w.map .char) ++
      [Lexeme.closing, Lexeme.anchor .stop])

theorem ofLexemes_wordList (words : List (List Char)) :
    ofLexemes (wordListLexemes words) = .ok (wordList words) := by
  obtain ⟨frame, hcapturing, hchoice, hread⟩ :=
    foldlM_choice [⟨false, [], [.anchor .start]⟩] words
  have hall : (wordListLexemes words).foldlM Reading.next .begin =
      .ok ⟨⟨false, [], [.anchor .stop, .group frame.capturing frame.choice, .anchor .start]⟩,
        []⟩ := by
    change ([Lexeme.bar].intercalate (words.map fun w => w.map .char) ++
      [Lexeme.closing, Lexeme.anchor .stop]).foldlM Reading.next
        ⟨⟨false, [], []⟩, [⟨false, [], [.anchor .start]⟩]⟩ = _
    rw [List.foldlM_append, hread]
    rfl
  rw [ofLexemes, hall, hcapturing, hchoice]
  rfl

/-! ## The limits -/

/-- The characters of a word are on one level. -/
theorem depth_word (cs : List Char) :
    (word cs).depth ≤ 1 ∧ ((word cs).isSeq = false → (word cs).depth = 0) := by
  induction cs with
  | nil => exact ⟨Nat.zero_le 1, fun _ => rfl⟩
  | cons c cs ih =>
    cases cs with
    | nil => exact ⟨Nat.zero_le 1, fun _ => rfl⟩
    | cons d cs =>
      refine ⟨?_, fun h => nomatch h⟩
      change max (0 + 1) (if (word (d :: cs)).isSeq then (word (d :: cs)).depth
        else (word (d :: cs)).depth + 1) ≤ 1
      split
      · exact Nat.max_le.mpr ⟨Nat.le_refl 1, ih.1⟩
      · rename_i hseq
        rw [ih.2 (by simpa using hseq)]
        exact Nat.le_refl 1

/-- The words of a choice are on one level. -/
theorem depth_alts {p : Pattern} {ps : List Pattern} {n : Nat} (h : ∀ q ∈ p :: ps, q.depth ≤ n) :
    (alts p ps).depth ≤ n + 1 ∧ ((alts p ps).isAlt = false → (alts p ps).depth ≤ n) := by
  induction ps generalizing p with
  | nil =>
    have hp := h p List.mem_cons_self
    exact ⟨Nat.le_succ_of_le hp, fun _ => hp⟩
  | cons q ps ih =>
    obtain ⟨hp, hps⟩ := List.forall_mem_cons.mp h
    obtain ⟨hle, halt⟩ := ih hps
    refine ⟨?_, fun h => nomatch h⟩
    rw [alts, depth]
    split
    · exact Nat.max_le.mpr ⟨Nat.succ_le_succ hp, hle⟩
    · rename_i hnot
      exact Nat.max_le.mpr ⟨Nat.succ_le_succ hp, Nat.succ_le_succ (halt (by simpa using hnot))⟩

theorem depth_choiceOf (words : List (List Char)) : (choiceOf (words.map word)).depth ≤ 2 := by
  cases words with
  | nil => exact Nat.zero_le 2
  | cons w words =>
    refine (depth_alts fun q hq => ?_).1
    obtain ⟨w', -, rfl⟩ := List.mem_map.mp (List.map_cons ▸ hq)
    exact (depth_word w').1

theorem depth_wordList (words : List (List Char)) : (wordList words).depth ≤ depthLimit := by
  have hchoice := depth_choiceOf words
  simp only [wordList, depth, isSeq, if_true, Bool.false_eq_true, if_false, depthLimit]
  omega

/-! ## The written pattern -/

theorem toList_ofWords (words : List String) :
    (ofWords words).toList = '^' :: '(' :: '?' :: ':' ::
      (['|'].intercalate ((words.map (·.toList)).map (·.flatMap escapeChar)) ++ [')', '$']) := by
  have hescape : words.map (String.toList ∘ escape) =
      (words.map (·.toList)).map (·.flatMap escapeChar) := by
    simp [escape]
  rw [ofWords, String.toList_append, String.toList_append, String.toList_intercalate, List.map_map,
    hescape]
  rfl

theorem lexemes_ofWords (words : List (List Char)) :
    lexemes false (.plain '^' :: .plain '(' :: .plain '?' :: .plain ':' ::
      ([.plain '|'].intercalate (words.map (·.map glyphOf)) ++ [.plain ')', .plain '$'])) =
        .ok (wordListLexemes words) := by
  have hend (again : Bool) : lexemes again [.plain ')', .plain '$'] =
      .ok [.closing, .anchor .stop] := by cases again <;> rfl
  have hwords := lexemes_words words hend false
  have hopening : lexemes false (.plain '(' :: .plain '?' :: .plain ':' ::
      ([.plain '|'].intercalate (words.map (·.map glyphOf)) ++ [.plain ')', .plain '$'])) =
        .ok (.opening false :: ([.bar].intercalate (words.map (·.map .char)) ++
          [.closing, .anchor .stop])) := by
    unfold lexemes
    simp [hwords, Except.map]
  unfold lexemes
  simp [lexemeOf, Lexeme.isRepetition, hopening, Except.map, wordListLexemes]

/-- The written pattern for a list of words is read as the pattern for these words, unless it takes
too much memory. -/
theorem parse_ofWords (words : List String) :
    parse (ofWords words) =
      if (wordList (words.map (·.toList))).fits then .ok (wordList (words.map (·.toList)))
      else .error .tooLarge := by
  have hend : glyphs [')', '$'] = .ok [.plain ')', .plain '$'] := rfl
  have hglyphs := glyphs_words (words.map (·.toList)) hend
  have hlimits := depth_wordList (words.map (·.toList))
  rw [parse, ofChars, toList_ofWords, glyphs_cons_of_ne (by decide) (glyphs_cons_of_ne (by decide)
    (glyphs_cons_of_ne (by decide) (glyphs_cons_of_ne (by decide) hglyphs)))]
  change (do withinLimits (← ofLexemes (← lexemes false _))) = _
  rw [lexemes_ofWords]
  change (do withinLimits (← ofLexemes (wordListLexemes _))) = _
  rw [ofLexemes_wordList]
  change withinLimits (wordList _) = _
  rw [withinLimits, if_neg (Nat.not_lt.mpr hlimits)]
  cases (wordList (words.map (·.toList))).fits <;> rfl

end CodeHighlight.Pattern
