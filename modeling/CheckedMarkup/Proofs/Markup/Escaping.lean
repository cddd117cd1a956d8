import CheckedMarkup.Markup.Escaper
import CheckedMarkup.Proofs.Vocabulary.Names

/-! # What escaping gives

Escaped text holds no mark that could be taken for a tag or a quote, each of its
ampersands begins an entity, and the text can be read back from it.
-/

namespace CheckedMarkup

/-! ## Characters -/

/-- The entities of text between tags. -/
def textEntities : List String := ["&amp;", "&lt;", "&gt;"]

/-- The five predefined entities. -/
def valueEntities : List String := textEntities ++ ["&quot;", "&apos;"]

/-- Whether each ampersand of a text is the first character of one of some entities. -/
def EntitiesOnly (entities : List String) (text : List Char) : Prop :=
  ∀ before after, text = before ++ '&' :: after →
    ∃ entity ∈ entities, entity.toList <+: '&' :: after

/-- A character is written as it is, or as an entity in which no other ampersand stands. -/
def IsSpelling (entities : List String) (spelling : List Char) : Prop :=
  (∃ c, spelling = [c] ∧ c ≠ '&') ∨
    ∃ tail, String.ofList ('&' :: tail) ∈ entities ∧ spelling = '&' :: tail ∧ '&' ∉ tail

theorem isSpelling_escapeTextChar (c : Char) : IsSpelling textEntities (escapeTextChar c) := by
  unfold escapeTextChar
  split
  · exact .inr ⟨_, by decide, rfl, by decide⟩
  · split
    · exact .inr ⟨_, by decide, rfl, by decide⟩
    · split
      · exact .inr ⟨_, by decide, rfl, by decide⟩
      next hamp _ _ => exact .inl ⟨c, rfl, hamp⟩

theorem IsSpelling.mono {entities others : List String} {spelling : List Char}
    (h : IsSpelling entities spelling) (hsub : entities ⊆ others) : IsSpelling others spelling :=
  h.imp_right fun ⟨tail, hmem, hrest⟩ => ⟨tail, hsub hmem, hrest⟩

theorem isSpelling_escapeValueChar (c : Char) : IsSpelling valueEntities (escapeValueChar c) := by
  unfold escapeValueChar
  split
  · exact .inr ⟨_, by decide, rfl, by decide⟩
  · split
    · exact .inr ⟨_, by decide, rfl, by decide⟩
    · exact (isSpelling_escapeTextChar c).mono (List.subset_append_left _ _)

theorem entitiesOnly_flatMap {entities : List String} {spell : Char → List Char}
    (hspell : ∀ c, IsSpelling entities (spell c)) (text : List Char) :
    EntitiesOnly entities (text.flatMap spell) := by
  induction text with
  | nil =>
      intro before after h
      simp at h
  | cons c rest ih =>
      intro before after h
      rw [List.flatMap_cons, List.append_eq_append_iff] at h
      rcases h with ⟨beyond, hbefore, hrest⟩ | ⟨inside, hc, hafter⟩
      · exact ih beyond after hrest
      · -- the ampersand is in the spelling of the first character, or begins the rest
        cases inside with
        | nil => exact ih [] after (by simpa using hafter.symm)
        | cons d inside =>
            rw [List.cons_append, List.cons.injEq] at hafter
            obtain ⟨rfl, rfl⟩ := hafter
            rcases hspell c with ⟨plain, heq, hplain⟩ | ⟨tail, hmem, heq, htail⟩
            · rw [heq] at hc
              have hmem : '&' ∈ [plain] := by simp [hc]
              exact absurd (List.mem_singleton.mp hmem).symm hplain
            · rw [heq] at hc
              cases before with
              | nil =>
                  rw [List.nil_append, List.cons.injEq] at hc
                  obtain ⟨_, rfl⟩ := hc
                  exact ⟨_, hmem, rest.flatMap spell, by simp⟩
              | cons first before =>
                  rw [List.cons_append, List.cons.injEq] at hc
                  exact absurd (by simp [hc.2]) htail

theorem escapeTextChar_ne {c d : Char} (hd : d ∈ escapeTextChar c) : d ≠ '<' ∧ d ≠ '>' := by
  grind [escapeTextChar]

theorem escapeValueChar_ne {c d : Char} (hd : d ∈ escapeValueChar c) :
    d ≠ '"' ∧ d ≠ '<' ∧ d ≠ '>' := by
  unfold escapeValueChar at hd
  split at hd
  · simp only [List.mem_cons, List.not_mem_nil, or_false] at hd
    grind
  · split at hd
    · simp only [List.mem_cons, List.not_mem_nil, or_false] at hd
      grind
    next hquote _ => exact ⟨by grind [escapeTextChar], escapeTextChar_ne hd⟩

theorem escapeValueChar_of_isNameChar {c : Char} (hc : isNameChar c = true) :
    escapeValueChar c = [c] := by
  have h := holds_of_isNameChar (p := fun c => !isNameChar c || escapeValueChar c == [c])
    (by decide +kernel) hc
  simpa [hc] using h

/-! ## Reading back -/

/-- Reads one character, which may be spelled as an entity. -/
def readSpelling? : List Char → Option (Char × List Char)
  | '&' :: 'a' :: 'm' :: 'p' :: ';' :: rest => some ('&', rest)
  | '&' :: 'l' :: 't' :: ';' :: rest => some ('<', rest)
  | '&' :: 'g' :: 't' :: ';' :: rest => some ('>', rest)
  | '&' :: 'q' :: 'u' :: 'o' :: 't' :: ';' :: rest => some ('"', rest)
  | '&' :: 'a' :: 'p' :: 'o' :: 's' :: ';' :: rest => some ('\'', rest)
  | c :: rest => some (c, rest)
  | [] => none

theorem readSpelling?_plain {c : Char} (hc : c ≠ '&') (rest : List Char) :
    readSpelling? (c :: rest) = some (c, rest) := by
  unfold readSpelling?
  split <;> simp_all

theorem readSpelling?_escapeTextChar (c : Char) (rest : List Char) :
    readSpelling? (escapeTextChar c ++ rest) = some (c, rest) := by
  unfold escapeTextChar
  split
  next hamp => subst hamp; rfl
  next hamp =>
    split
    next hless => subst hless; rfl
    · split
      next hgreater => subst hgreater; rfl
      · exact readSpelling?_plain hamp rest

theorem readSpelling?_escapeValueChar (c : Char) (rest : List Char) :
    readSpelling? (escapeValueChar c ++ rest) = some (c, rest) := by
  unfold escapeValueChar
  split
  next hquote => subst hquote; rfl
  · split
    next hquote => subst hquote; rfl
    · exact readSpelling?_escapeTextChar c rest

/-- Texts are equal if their spellings are, when each character can be read back. -/
theorem flatMap_injective_of_readSpelling? {spell : Char → List Char}
    (hread : ∀ c rest, readSpelling? (spell c ++ rest) = some (c, rest)) :
    Function.Injective (List.flatMap spell) := by
  have hne : ∀ c rest, spell c ++ rest ≠ [] := fun c rest h => by
    have := hread c rest
    simp [h, readSpelling?] at this
  intro first second h
  induction first generalizing second with
  | nil =>
      cases second with
      | nil => rfl
      | cons d rest => exact absurd h.symm (hne d _)
  | cons c first ih =>
      cases second with
      | nil => exact absurd h (hne c _)
      | cons d second =>
          rw [List.flatMap_cons, List.flatMap_cons] at h
          have heq := (hread c _).symm.trans (h ▸ hread d _)
          rw [Option.some.injEq, Prod.mk.injEq] at heq
          rw [heq.1, ih heq.2]

/-! ## Texts -/

namespace Escaper

theorem toList_xml_text (raw : String) :
    (xml.text raw).toList = raw.toList.flatMap escapeTextChar := by
  simp [xml]

theorem toList_xml_value (raw : String) :
    (xml.value raw).toList = raw.toList.flatMap escapeValueChar := by
  simp [xml]

theorem ne_of_mem_xml_text {raw : String} {c : Char} (hc : c ∈ (xml.text raw).toList) :
    c ≠ '<' ∧ c ≠ '>' := by
  rw [toList_xml_text, List.mem_flatMap] at hc
  obtain ⟨d, _, hd⟩ := hc
  exact escapeTextChar_ne hd

theorem ne_of_mem_xml_value {raw : String} {c : Char} (hc : c ∈ (xml.value raw).toList) :
    c ≠ '"' ∧ c ≠ '<' ∧ c ≠ '>' := by
  rw [toList_xml_value, List.mem_flatMap] at hc
  obtain ⟨d, _, hd⟩ := hc
  exact escapeValueChar_ne hd

theorem xml_text_injective {first second : String} (h : xml.text first = xml.text second) :
    first = second := by
  have hlists := congrArg String.toList h
  rw [toList_xml_text, toList_xml_text] at hlists
  exact String.toList_injective
    (flatMap_injective_of_readSpelling? readSpelling?_escapeTextChar hlists)

theorem xml_value_injective {first second : String} (h : xml.value first = xml.value second) :
    first = second := by
  have hlists := congrArg String.toList h
  rw [toList_xml_value, toList_xml_value] at hlists
  exact String.toList_injective
    (flatMap_injective_of_readSpelling? readSpelling?_escapeValueChar hlists)

@[simp] theorem xml_text_empty : xml.text "" = "" := rfl

theorem xml_text_append (first second : String) :
    xml.text (first ++ second) = xml.text first ++ xml.text second := by
  apply String.toList_injective
  simp [toList_xml_text]

theorem xml_value_of_isLowerName {name : String} (h : IsLowerName name) :
    xml.value name = name := by
  apply String.toList_injective
  have hplain : ∀ c ∈ name.toList, escapeValueChar c = [c] := fun c hc =>
    escapeValueChar_of_isNameChar (h.isNameChar_of_mem hc)
  rw [toList_xml_value, List.flatMap_def, List.map_congr_left hplain, ← List.flatMap_def,
    List.flatMap_singleton']

end Escaper

end CheckedMarkup
