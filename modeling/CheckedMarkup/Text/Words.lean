import CheckedMarkup.Text.Blank

/-! # Words of a text

A text is cut at every separator, and the words are the parts that are not empty.
-/

namespace CheckedMarkup.Text

/-- The parts between the characters that separate, empty parts included. -/
def fields (separates : Char → Bool) : List Char → List (List Char)
  | [] => [[]]
  | c :: rest =>
      if separates c then [] :: fields separates rest
      else match fields separates rest with
        | [] => [[c]]
        | field :: others => (c :: field) :: others

/-- The words of a text: its longest parts without blanks, in order. -/
def words (text : String) : List String :=
  ((fields isBlank text.toList).filter (!·.isEmpty)).map String.ofList

theorem fields_ne_nil (separates : Char → Bool) (text : List Char) :
    fields separates text ≠ [] := by
  cases text with
  | nil => simp [fields]
  | cons c rest =>
      simp only [fields]
      split
      · simp
      · split <;> simp

theorem not_separates_of_mem_fields {separates : Char → Bool} {text field : List Char}
    (hfield : field ∈ fields separates text) : ∀ c ∈ field, separates c = false := by
  induction text generalizing field with
  | nil => simp_all [fields]
  | cons c rest ih =>
      simp only [fields] at hfield
      split at hfield
      · rcases List.mem_cons.mp hfield with rfl | hfield
        · simp
        · exact ih hfield
      · next hc =>
        split at hfield
        · simp_all
        · next first others hrest =>
          rcases List.mem_cons.mp hfield with rfl | hfield
          · intro d hd
            rcases List.mem_cons.mp hd with rfl | hd
            · simpa using hc
            · exact ih (by simp [hrest]) d hd
          · exact ih (by simp [hrest, hfield])

theorem ne_empty_of_mem_words {text word : String} (hword : word ∈ words text) : word ≠ "" := by
  simp only [words, List.mem_map, List.mem_filter] at hword
  obtain ⟨field, ⟨_, hfield⟩, rfl⟩ := hword
  intro hempty
  have := congrArg String.toList hempty
  simp_all

theorem not_isBlank_of_mem_words {text word : String} (hword : word ∈ words text) :
    ∀ c ∈ word.toList, isBlank c = false := by
  simp only [words, List.mem_map, List.mem_filter] at hword
  obtain ⟨field, ⟨hfield, _⟩, rfl⟩ := hword
  simpa using not_separates_of_mem_fields hfield

end CheckedMarkup.Text
