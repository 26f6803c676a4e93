import CodeHighlight.Markup

/-!
# Proofs.Markup.Escaped — escaped text, and reading it back

Escaped text holds no character that could open or close a tag or an attribute value, and every
ampersand in it begins an entity (`isEscaped_escape`).  `unescape` replaces the entities by their
characters in one pass from left to right and undoes the escaping, also of text that holds entities
or tags itself (`unescape_escape`).
-/

namespace CodeHighlight.Markup

/-- The characters that mean something in HTML. -/
def markupChars : List Char := ['<', '>', '&', '"', '\'']

theorem mem_markupChars {c : Char} :
    c ∈ markupChars ↔ c = '<' ∨ c = '>' ∨ c = '&' ∨ c = '"' ∨ c = '\'' := by
  simp only [markupChars, List.mem_cons, List.not_mem_nil, or_false]

/-- The text holds no character that means something in HTML. -/
def HasNoMarkup (text : String) : Prop := ∀ c ∈ text.toList, c ∉ markupChars

instance (text : String) : Decidable (HasNoMarkup text) :=
  List.decidableBAll (· ∉ markupChars) text.toList

theorem HasNoMarkup.append {text text' : String} (h : HasNoMarkup text) (h' : HasNoMarkup text') :
    HasNoMarkup (text ++ text') := by
  intro c hc
  rw [String.toList_append] at hc
  exact (List.mem_append.mp hc).elim (h c) (h' c)

/-- The entities that the markup characters are written as. -/
def entities : List String := ["&amp;", "&lt;", "&gt;", "&quot;", "&#39;"]

/-- Text that is neither taken for a tag nor for the end of an attribute value, and whose ampersands
begin entities. -/
structure IsEscaped (cs : List Char) : Prop where
  no_delimiter : ∀ c ∈ cs, c ≠ '<' ∧ c ≠ '>' ∧ c ≠ '"' ∧ c ≠ '\''
  entity : ∀ rest, '&' :: rest <:+ cs → ∃ entity ∈ entities, entity.toList <+: '&' :: rest

theorem IsEscaped.lt_not_mem {cs : List Char} (h : IsEscaped cs) : '<' ∉ cs := by
  intro hmem
  exact (h.no_delimiter _ hmem).1 rfl

/-! ## Escaping -/

theorem IsEscaped.nil : IsEscaped [] := by
  refine ⟨by simp, fun rest h => ?_⟩
  cases List.suffix_nil.mp h

theorem IsEscaped.append {cs cs' : List Char} (h : IsEscaped cs) (h' : IsEscaped cs') :
    IsEscaped (cs ++ cs') := by
  refine ⟨fun c hc => (List.mem_append.mp hc).elim (h.no_delimiter c) (h'.no_delimiter c), ?_⟩
  rintro rest ⟨front, hfront⟩
  rcases List.append_eq_append_iff.mp hfront with ⟨back, rfl, hback⟩ | ⟨back, rfl, hback⟩
  · cases back with
    | nil => exact h'.entity rest ⟨[], hback⟩
    | cons c back =>
      -- the ampersand stands in the first text, and so does the entity that it begins
      obtain ⟨rfl, rfl⟩ := List.cons_eq_cons.mp hback
      obtain ⟨entity, hmem, hprefix⟩ := h.entity back ⟨front, rfl⟩
      exact ⟨entity, hmem, hprefix.trans ⟨cs', rfl⟩⟩
  · exact h'.entity rest ⟨back, hback.symm⟩

theorem escapeChar_of_not_mem {c : Char} (h : c ∉ markupChars) : escapeChar c = [c] := by
  simp only [mem_markupChars, not_or] at h
  obtain ⟨hlt, hgt, hamp, hdouble, hsingle⟩ := h
  unfold escapeChar
  split
  · exact absurd rfl hamp
  · exact absurd rfl hlt
  · exact absurd rfl hgt
  · exact absurd rfl hdouble
  · exact absurd rfl hsingle
  · rfl

theorem isEscaped_entity {entity : String} (h : entity ∈ entities) : IsEscaped entity.toList := by
  have hshape : ∀ entity ∈ entities, '<' ∉ entity.toList ∧ '>' ∉ entity.toList ∧
      '"' ∉ entity.toList ∧ '\'' ∉ entity.toList ∧ '&' ∉ entity.toList.tail := by decide
  obtain ⟨hlt, hgt, hdouble, hsingle, htail⟩ := hshape entity h
  have hno : ∀ c ∈ entity.toList, c ≠ '<' ∧ c ≠ '>' ∧ c ≠ '"' ∧ c ≠ '\'' := by
    intro c hc
    exact ⟨fun heq => hlt (heq ▸ hc), fun heq => hgt (heq ▸ hc), fun heq => hdouble (heq ▸ hc),
      fun heq => hsingle (heq ▸ hc)⟩
  refine ⟨hno, fun rest hrest => ⟨entity, h, ?_⟩⟩
  -- the only ampersand of an entity is its first character
  cases hlist : entity.toList with
  | nil =>
    rw [hlist] at hrest
    cases List.suffix_nil.mp hrest
  | cons c name =>
    rw [hlist] at hrest htail
    rcases List.suffix_cons_iff.mp hrest with heq | hmem
    · exact heq ▸ List.prefix_refl _
    · exact absurd (hmem.subset List.mem_cons_self) htail

theorem isEscaped_singleton {c : Char} (h : c ∉ markupChars) : IsEscaped [c] := by
  simp only [mem_markupChars, not_or] at h
  obtain ⟨hlt, hgt, hamp, hdouble, hsingle⟩ := h
  refine ⟨fun d hd => ?_, fun rest hrest => ?_⟩
  · rw [List.mem_singleton.mp hd]
    exact ⟨hlt, hgt, hdouble, hsingle⟩
  · have hmem : '&' ∈ [c] := hrest.subset List.mem_cons_self
    exact absurd (List.mem_singleton.mp hmem).symm hamp

theorem isEscaped_escapeChar (c : Char) : IsEscaped (escapeChar c) := by
  by_cases h : c ∈ markupChars
  · have hentity : ∃ entity ∈ entities, escapeChar c = entity.toList := by
      rcases mem_markupChars.mp h with rfl | rfl | rfl | rfl | rfl <;> decide
    obtain ⟨entity, hmem, heq⟩ := hentity
    exact heq ▸ isEscaped_entity hmem
  · rw [escapeChar_of_not_mem h]
    exact isEscaped_singleton h

theorem toList_escape (text : String) :
    (escape text).toList = text.toList.flatMap escapeChar := String.toList_ofList

theorem isEscaped_flatMap (cs : List Char) : IsEscaped (cs.flatMap escapeChar) := by
  induction cs with
  | nil => exact .nil
  | cons c cs ih => exact (isEscaped_escapeChar c).append ih

theorem isEscaped_escape (text : String) : IsEscaped (escape text).toList := by
  rw [toList_escape]
  exact isEscaped_flatMap text.toList

theorem escapeChar_ne_nil (c : Char) : escapeChar c ≠ [] := by
  unfold escapeChar
  split <;> simp

/-- Only the empty text is written as nothing. -/
theorem escape_ne_empty {text : String} (h : text ≠ "") : escape text ≠ "" := by
  obtain ⟨c, cs, hlist⟩ := List.exists_cons_of_ne_nil (mt String.toList_eq_nil_iff.mp h)
  intro hempty
  have hnil := congrArg String.toList hempty
  rw [toList_escape, hlist, List.flatMap_cons, String.toList_empty, List.append_eq_nil_iff] at hnil
  exact escapeChar_ne_nil c hnil.1

/-- Text without markup is written as it is. -/
theorem escape_eq_self {text : String} (h : HasNoMarkup text) : escape text = text := by
  have hchars (cs : List Char) (hcs : ∀ c ∈ cs, c ∉ markupChars) : cs.flatMap escapeChar = cs := by
    induction cs with
    | nil => rfl
    | cons c cs ih =>
      obtain ⟨hc, hcs⟩ := List.forall_mem_cons.mp hcs
      rw [List.flatMap_cons, escapeChar_of_not_mem hc, ih hcs, List.singleton_append]
  rw [← String.toList_inj, toList_escape, hchars _ h]

/-! ## Reading escaped text -/

/-- The characters with each entity replaced by what it stands for. -/
def unescape : List Char → List Char
  | '&' :: 'a' :: 'm' :: 'p' :: ';' :: rest => '&' :: unescape rest
  | '&' :: 'l' :: 't' :: ';' :: rest => '<' :: unescape rest
  | '&' :: 'g' :: 't' :: ';' :: rest => '>' :: unescape rest
  | '&' :: 'q' :: 'u' :: 'o' :: 't' :: ';' :: rest => '"' :: unescape rest
  | '&' :: '#' :: '3' :: '9' :: ';' :: rest => '\'' :: unescape rest
  | c :: rest => c :: unescape rest
  | [] => []

theorem unescape_cons {c : Char} (h : c ≠ '&') (rest : List Char) :
    unescape (c :: rest) = c :: unescape rest := by
  rw [unescape] <;> simp [h]

theorem unescape_escapeChar_append (c : Char) (rest : List Char) :
    unescape (escapeChar c ++ rest) = c :: unescape rest := by
  by_cases h : c ∈ markupChars
  · rcases mem_markupChars.mp h with rfl | rfl | rfl | rfl | rfl <;> rfl
  · rw [escapeChar_of_not_mem h]
    refine unescape_cons (fun hamp => h ?_) rest
    rw [hamp]
    decide

/-- Reading undoes escaping. -/
theorem unescape_flatMap_append (cs rest : List Char) :
    unescape (cs.flatMap escapeChar ++ rest) = cs ++ unescape rest := by
  induction cs with
  | nil => rfl
  | cons c cs ih => rw [List.flatMap_cons, List.append_assoc, unescape_escapeChar_append, ih,
      List.cons_append]

theorem unescape_escape (text : String) : unescape (escape text).toList = text.toList := by
  have h := unescape_flatMap_append text.toList []
  rwa [List.append_nil, unescape, List.append_nil, ← toList_escape] at h

end CodeHighlight.Markup
