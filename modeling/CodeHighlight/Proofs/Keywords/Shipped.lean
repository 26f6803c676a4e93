import CodeHighlight.Proofs.Markup.Configuration
import CodeHighlight.Proofs.Pattern.Choices

/-!
# Proofs.Keywords.Shipped — the words of the shipped set

The shipped text reads as a pattern of characters, groups, choices and options between the two ends
of a text (`read_shippedText`), so the shipped set is a finite list of words (`isKeyword_shipped`).
These consist of letters and underscores, so a text that is one of them is a single word token, and
`highlightWith` puts it in one span; any other text of word characters it leaves as it is
(`shipped_tells_words`).
-/

namespace CodeHighlight

namespace Highlighter

/-- A text of word characters is highlighted as the one word that it is. -/
theorem run_of_wordChars (h : Highlighter) {text : String} (hne : text ≠ "")
    (hword : ∀ c ∈ text.toList, isWordChar c = true) :
    h.run text =
      if h.keywords.isKeyword text then Markup.span (h.styles.get .keyword) text else text := by
  have hrender : h.render ⟨text, .word⟩ = _ := h.render_of_word rfl hword
  rw [run_eq, Scanner.tokens_of_wordChars hne hword, List.map_singleton, hrender]
  exact String.empty_append

end Highlighter

namespace Keywords

/-- The words of the shipped set, in the order of the branches. -/
def shippedWords : List String :=
  ["abstract", "alias", "and", "arguments", "array", "as", "asm", "assert", "auto", "base",
   "begin", "bool", "boolean", "break", "byte", "case", "catch", "char", "checked", "class",
   "clone", "compl", "const", "continue", "debugger", "decimal", "declare", "def", "default",
   "defer", "deinit", "del", "delegate", "delete", "do", "double", "echo", "elif", "elsif", "else",
   "elseif", "end", "ensure", "enum", "event", "except", "exec", "explicit", "export", "extends",
   "extension", "extern", "fallthrough", "false", "final", "finally", "fixed", "float", "for",
   "foreach", "friend", "from", "func", "function", "global", "goto", "guard", "if", "implements",
   "implicit", "import", "in", "init", "include", "include_once", "inline", "inout", "instanceof",
   "int", "interface", "internal", "is", "lambda", "let", "lock", "long", "microlight", "module",
   "mutable", "NaN", "namespace", "native", "next", "new", "nil", "not", "null", "object",
   "operator", "or", "out", "override", "package", "params", "private", "protected", "protocol",
   "public", "raise", "readonly", "redo", "ref", "register", "repeat", "require", "require_once",
   "rescue", "restrict", "retry", "return", "sbyte", "sealed", "self", "short", "signed", "sizeof",
   "static", "string", "struct", "subscript", "super", "synchronized", "switch", "template",
   "then", "this", "throw", "throws", "transient", "true", "try", "typealias", "typedef", "typeid",
   "typename", "typeof", "unchecked", "undef", "undefined", "union", "unless", "unsigned", "until",
   "use", "using", "var", "virtual", "void", "volatile", "wchar_t", "when", "where", "while",
   "with", "xor", "yield"]

/-- The shipped text is a written pattern for whole texts, and these are its choices. -/
theorem read_shippedText :
    (Pattern.parse shippedText).toOption.map (fun p => (p.isWhole, p.choices)) =
      some (true, shippedWords.map String.toList) := by
  unfold Pattern.parse shippedText
  simp only [String.toList_append, -String.reduceAppend, -String.reduceToList]
  -- decoding a literal is far more work for the kernel than reading the pattern
  repeat rw [String.toList_ofList]
  decide +kernel

theorem parse_shippedText : Pattern.parse shippedText = .ok shippedPattern := by
  have h := read_shippedText
  unfold shippedPattern
  cases hparse : Pattern.parse shippedText with
  | ok p => rfl
  | error fault =>
    rw [hparse] at h
    cases h

theorem isWhole_and_choices_shippedPattern : shippedPattern.isWhole = true ∧
    shippedPattern.choices = shippedWords.map String.toList := by
  have h := read_shippedText
  rwa [parse_shippedText, Except.toOption, Option.map_some, Option.some.injEq, Prod.mk.injEq] at h

/-- The shipped set is a finite list of words. -/
theorem isKeyword_shipped (w : String) : shipped.isKeyword w = true ↔ w ∈ shippedWords := by
  obtain ⟨hwhole, hchoices⟩ := isWhole_and_choices_shippedPattern
  show shippedPattern.isMatch w = true ↔ w ∈ shippedWords
  rw [Pattern.isMatch_iff_mem_choices hwhole, hchoices]
  exact List.mem_map_of_injective fun _ _ => String.toList_inj.mp

/-- The shipped words are made of letters and underscores. -/
theorem letters_of_mem_shippedWords :
    ∀ w ∈ shippedWords, w ≠ "" ∧ ∀ c ∈ w.toList, c.isAlpha = true ∨ c = '_' := by
  have hall : shippedWords.all (fun w => !w.toList.isEmpty &&
      w.toList.all fun c => c.isAlpha || c == '_') = true := by decide +kernel
  intro w hw
  obtain ⟨hne, hletters⟩ := Bool.and_eq_true_iff.mp (List.all_eq_true.mp hall w hw)
  refine ⟨?_, fun c hc => by simpa using List.all_eq_true.mp hletters c hc⟩
  rintro rfl
  cases hne

theorem isWordChar_of_mem_shippedWords {w : String} (hw : w ∈ shippedWords) :
    ∀ c ∈ w.toList, isWordChar c = true := by
  intro c hc
  rcases (letters_of_mem_shippedWords w hw).2 c hc with halpha | rfl
  · simp [isWordChar, Char.isAlphanum, halpha]
  · decide

variable {w : String}

/-- A shipped word on its own stands in one span of the keyword style. -/
theorem highlightWith_of_mem_shippedWords (hw : w ∈ shippedWords)
    (foreground background : Color Float) :
    highlightWith w foreground background =
      Markup.span ((Styles.ofColors foreground background).get .keyword) w := by
  have hne : w ≠ "" := (letters_of_mem_shippedWords w hw).1
  rw [highlightWith, Highlighter.run_of_wordChars _ hne (isWordChar_of_mem_shippedWords hw)]
  exact if_pos ((isKeyword_shipped w).mpr hw)

/-- Any other text of word characters is left as it is. -/
theorem highlightWith_of_not_mem_shippedWords (hw : w ∉ shippedWords) (hne : w ≠ "")
    (hword : ∀ c ∈ w.toList, isWordChar c = true) (foreground background : Color Float) :
    highlightWith w foreground background = w := by
  rw [highlightWith, Highlighter.run_of_wordChars _ hne hword]
  exact if_neg (mt (isKeyword_shipped w).mp hw)

/-- **The shipped set** is read off its written pattern, a pattern for whole texts, and consists of
the words that come of taking a branch at every choice and option of it, all of letters and
underscores.  In any colors each of them is highlighted as one span of the keyword style, and every
other text of word characters stays as it is. -/
theorem shipped_tells_words :
    ofWrittenPattern shippedText = .ok shipped ∧
      (shippedPattern.isWhole = true ∧ shippedPattern.choices = shippedWords.map String.toList) ∧
      (∀ w, shipped.isKeyword w = true ↔ w ∈ shippedWords) ∧
      (∀ w ∈ shippedWords, w ≠ "" ∧ ∀ c ∈ w.toList, c.isAlpha = true ∨ c = '_') ∧
      ∀ w foreground background,
        (w ∈ shippedWords → highlightWith w foreground background =
          Markup.span ((Styles.ofColors foreground background).get .keyword) w) ∧
        (w ∉ shippedWords → w ≠ "" → (∀ c ∈ w.toList, isWordChar c = true) →
          highlightWith w foreground background = w) := by
  refine ⟨?_, isWhole_and_choices_shippedPattern, isKeyword_shipped, letters_of_mem_shippedWords,
    fun w foreground background => ⟨fun hw => ?_, fun hw hne hword => ?_⟩⟩
  · rw [ofWrittenPattern, parse_shippedText]
    rfl
  · exact highlightWith_of_mem_shippedWords hw foreground background
  · exact highlightWith_of_not_mem_shippedWords hw hne hword foreground background

/-- A shipped word, what it begins with, and the word with a newline behind it. -/
theorem shipped_tells_words_of_typedef :
    shipped.isKeyword "typedef" = true ∧ ¬ shipped.isKeyword "type" = true ∧
      ¬ shipped.isKeyword "typedef\n" = true ∧
      highlightWith "typedef" .black .transparentWhite =
        Markup.span ((Styles.ofColors .black .transparentWhite).get .keyword) "typedef" ∧
      highlightWith "type" .black .transparentWhite = "type" := by
  obtain ⟨-, -, hkeyword, -, hhtml⟩ := shipped_tells_words
  rw [hkeyword, hkeyword, hkeyword]
  have hmem : "typedef" ∈ shippedWords := by decide +kernel
  have hmem' : "type" ∉ shippedWords := by decide +kernel
  exact ⟨hmem, hmem', by decide +kernel, (hhtml _ _ _).1 hmem,
    (hhtml _ _ _).2 hmem' (by decide) (List.all_eq_true.mp (by decide))⟩

end Keywords

end CodeHighlight
