import CodeHighlight.Proofs.Markup.Configuration
import CodeHighlight.Proofs.Pattern.WordList

/-!
# Proofs.Keywords.Agreement — all ways to give keywords agree

A list of words tells the same keywords whether it is installed by way of a written pattern, as a
list, as an array or as a hash set (`ofWords_agrees`).  The pattern of an empty list also matches
the empty text, but no token is empty, so no output tells the difference.
-/

namespace CodeHighlight

/-- The output depends on the keywords only through their answers on the words of the text. -/
theorem Highlighter.run_withKeywords_congr {keywords keywords' : Keywords} {text : String}
    (hword : ∀ token ∈ tokens text, token.category = .word →
      keywords.isKeyword token.text = keywords'.isKeyword token.text) (h : Highlighter) :
    (h.withKeywords keywords).run text = (h.withKeywords keywords').run text :=
  run_congr rfl hword

namespace Keywords

theorem ofWords_eq (words : List String) :
    ofWords words =
      if (Pattern.wordList (words.map (·.toList))).fits then
        .ok (ofPattern (Pattern.wordList (words.map (·.toList))))
      else .error (.invalidKeywordPattern .tooLarge) := by
  rw [ofWords, ofWrittenPattern, Pattern.parse_ofWords]
  split <;> rename_i h <;> split at h <;> simp_all

/-- The pattern of a list of words tells these words, and for an empty list the empty word. -/
theorem isKeyword_wordList (words : List String) (w : String) :
    (ofPattern (Pattern.wordList (words.map (·.toList)))).isKeyword w = true ↔
      w ∈ words ∨ words = [] ∧ w = "" := by
  rw [ofPattern, Pattern.isMatch_wordList]
  simp [String.toList_inj]

/-- **Words are matched literally, and all kinds of keywords agree.**  Unless its pattern takes too
much memory, a list of words is accepted.  The keywords it tells are the words of the list, and of
the empty list the empty word.  Every text is highlighted the same way whether the words are given
by way of this pattern, as a list, as an array, or as a hash set. -/
theorem ofWords_agrees (words : List String)
    (hsize : ofWords words ≠ .error (.invalidKeywordPattern .tooLarge)) :
    ∃ keywords, ofWords words = .ok keywords ∧
      (∀ w, keywords.isKeyword w = true ↔ w ∈ words ∨ words = [] ∧ w = "") ∧
      ∀ (h : Highlighter) (text : String), ∃ h', h.withKeywordList words = .ok h' ∧
        h'.run text = (h.withKeywords (ofList words)).run text ∧
        h'.run text = (h.withKeywords (ofArray words.toArray)).run text ∧
        ∀ set : Std.HashSet String, (∀ w, w ∈ set ↔ w ∈ words) →
          h'.run text = (h.withKeywords (ofHashSet set)).run text := by
  have hok : ofWords words = .ok (ofPattern (Pattern.wordList (words.map (·.toList)))) := by
    rw [ofWords_eq] at hsize ⊢
    split
    · rfl
    · rename_i hfits
      rw [if_neg hfits] at hsize
      exact absurd rfl hsize
  have hkeyword := isKeyword_wordList words
  generalize ofPattern (Pattern.wordList (words.map (·.toList))) = keywords at hok hkeyword
  refine ⟨keywords, hok, hkeyword, fun h text => ⟨h.withKeywords keywords, ?_, ?_⟩⟩
  · rw [Highlighter.withKeywordList, hok]
    rfl
  -- a token is not empty, so what the empty list tells of the empty word does not count
  have hrun {other : Keywords} (hother : ∀ w, other.isKeyword w = true ↔ w ∈ words) :
      (h.withKeywords keywords).run text = (h.withKeywords other).run text := by
    refine Highlighter.run_withKeywords_congr (fun token htoken _ => ?_) h
    have hne : token.text ≠ "" := Scanner.text_ne_empty_of_mem_tokens htoken
    rw [Bool.eq_iff_iff, hkeyword, hother]
    simp [hne]
  refine ⟨hrun fun w => ?_, hrun fun w => ?_, fun set hset => hrun fun w => ?_⟩
  · exact List.contains_iff_mem
  · simp [ofArray]
  · rw [← hset]
    rfl

/-- Metacharacters, the empty word, a word that begins another one, and a newline. -/
theorem ofWords_agrees_on_metacharacters :
    let words := ["a.b", "(|)", "^$", "", "if", "ifdef", "\n", "é\\"]
    ofWords words ≠ .error (.invalidKeywordPattern .tooLarge) ∧
      ∃ keywords, ofWords words = .ok keywords ∧
        (∀ w, keywords.isKeyword w = true ↔ w ∈ words ∨ words = [] ∧ w = "") ∧
        ∀ (h : Highlighter) (text : String), ∃ h', h.withKeywordList words = .ok h' ∧
          h'.run text = (h.withKeywords (ofList words)).run text ∧
          h'.run text = (h.withKeywords (ofArray words.toArray)).run text ∧
          ∀ set : Std.HashSet String, (∀ w, w ∈ set ↔ w ∈ words) →
            h'.run text = (h.withKeywords (ofHashSet set)).run text := by
  intro words
  have hfits : (Pattern.wordList (words.map (·.toList))).fits = true := by decide +kernel
  have hsize : ofWords words ≠ .error (.invalidKeywordPattern .tooLarge) := by
    rw [ofWords_eq, if_pos hfits]
    simp
  exact ⟨hsize, ofWords_agrees words hsize⟩

end Keywords

end CodeHighlight
