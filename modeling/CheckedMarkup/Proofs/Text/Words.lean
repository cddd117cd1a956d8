import CheckedMarkup.Text.Words

/-! # Words put together

Parts that hold no separator are found again when they are put together with
separators between them.
-/

namespace CheckedMarkup.Text

variable {separates : Char → Bool} {separator : Char}

theorem fields_of_forall {text : List Char} (h : ∀ c ∈ text, separates c = false) :
    fields separates text = [text] := by
  induction text with
  | nil => rfl
  | cons c rest ih =>
      have hc := h c List.mem_cons_self
      have hrest := ih fun d hd => h d (List.mem_cons_of_mem _ hd)
      simp [fields, hc, hrest]

theorem fields_append_cons {first rest : List Char} (hfirst : ∀ c ∈ first, separates c = false)
    (hseparator : separates separator = true) :
    fields separates (first ++ separator :: rest) = first :: fields separates rest := by
  induction first with
  | nil => simp [fields, hseparator]
  | cons c first ih =>
      have hc := hfirst c List.mem_cons_self
      have hcons := ih fun d hd => hfirst d (List.mem_cons_of_mem _ hd)
      simp [fields, hc, hcons]

theorem fields_intercalate {parts : List (List Char)} (hne : parts ≠ [])
    (hparts : ∀ part ∈ parts, ∀ c ∈ part, separates c = false)
    (hseparator : separates separator = true) :
    fields separates ([separator].intercalate parts) = parts := by
  induction parts with
  | nil => exact absurd rfl hne
  | cons part rest ih =>
      have hpart := hparts part List.mem_cons_self
      cases rest with
      | nil => rw [List.intercalate_singleton, fields_of_forall hpart]
      | cons next others =>
          have hrest := ih (by simp) fun other hother =>
            hparts other (List.mem_cons_of_mem _ hother)
          rw [List.intercalate_cons_cons, List.append_assoc, List.singleton_append,
            fields_append_cons hpart hseparator, hrest]

theorem intercalate_fields (separator : Char) (text : List Char) :
    [separator].intercalate (fields (· == separator) text) = text := by
  induction text with
  | nil => rfl
  | cons c rest ih =>
      simp only [fields, beq_iff_eq]
      split
      next hc =>
        rw [List.intercalate_cons_of_ne_nil (fields_ne_nil _ rest), ih, hc]
        rfl
      · cases hrest : fields (· == separator) rest with
        | nil => exact absurd hrest (fields_ne_nil _ rest)
        | cons field others =>
            rw [hrest] at ih
            cases others with
            | nil => simpa using congrArg (List.cons c) ih
            | cons next others =>
                rw [List.intercalate_cons_cons] at ih ⊢
                simpa using congrArg (List.cons c) ih

theorem eq_or_mem_of_mem_intercalate {parts : List (List Char)} {c : Char}
    (h : c ∈ [separator].intercalate parts) : c = separator ∨ ∃ part ∈ parts, c ∈ part := by
  induction parts with
  | nil => simp at h
  | cons part rest ih =>
      cases rest with
      | nil => exact .inr ⟨part, List.mem_cons_self, by simpa using h⟩
      | cons next others =>
          rw [List.intercalate_cons_cons, List.mem_append, List.mem_append] at h
          rcases h with (h | h) | h
          · exact .inr ⟨part, List.mem_cons_self, h⟩
          · exact .inl (List.mem_singleton.mp h)
          · apply (ih h).imp_right
            rintro ⟨other, hother, hc⟩
            exact ⟨other, List.mem_cons_of_mem _ hother, hc⟩

/-- What satisfies a test up to a boundary is found by the test, and what follows is left. -/
theorem takeWhile_dropWhile_append {test : Char → Bool} {first rest : List Char}
    (hfirst : ∀ c ∈ first, test c = true) (hrest : ∀ c ∈ rest.head?, test c = false) :
    (first ++ rest).takeWhile test = first ∧ (first ++ rest).dropWhile test = rest := by
  rw [List.takeWhile_append_of_pos hfirst, List.dropWhile_append_of_pos hfirst]
  cases rest with
  | nil => simp
  | cons c rest => simp [hrest c rfl]

/-- A text is split in one way only into characters of a kind and what begins with none of them. -/
theorem append_inj_of_span {α : Type} {p : α → Prop} {first second tail other : List α}
    (hfirst : ∀ c ∈ first, p c) (hsecond : ∀ c ∈ second, p c)
    (htail : ∀ c ∈ tail.head?, ¬p c) (hother : ∀ c ∈ other.head?, ¬p c)
    (h : first ++ tail = second ++ other) : first = second ∧ tail = other := by
  induction first generalizing second with
  | nil =>
      cases second with
      | nil => exact ⟨rfl, h⟩
      | cons d second =>
          rw [List.nil_append] at h
          rw [h] at htail
          exact absurd (hsecond d List.mem_cons_self) (htail d rfl)
  | cons c first ih =>
      cases second with
      | nil =>
          rw [List.nil_append] at h
          rw [← h] at hother
          exact absurd (hfirst c List.mem_cons_self) (hother c rfl)
      | cons d second =>
          rw [List.cons_append, List.cons_append, List.cons.injEq] at h
          obtain ⟨rfl, h⟩ := h
          obtain ⟨rfl, hrest⟩ := ih (fun c hc => hfirst c (List.mem_cons_of_mem _ hc))
            (fun c hc => hsecond c (List.mem_cons_of_mem _ hc)) h
          exact ⟨rfl, hrest⟩

/-- A text that is one word. -/
structure IsWord (text : String) : Prop where
  nonempty : text ≠ ""
  plain : ∀ c ∈ text.toList, isBlank c = false

theorem isWord_of_all {text : String}
    (h : (!text.isEmpty && text.toList.all fun c => !isBlank c) = true) : IsWord text := by
  simp only [Bool.and_eq_true, Bool.not_eq_true', String.isEmpty_eq_false_iff,
    List.all_eq_true] at h
  exact ⟨h.1, h.2⟩

/-- Words with blanks between them are those words. -/
theorem words_intercalate {texts : List String} (h : ∀ text ∈ texts, IsWord text) :
    words (" ".intercalate texts) = texts := by
  unfold words
  rw [String.toList_intercalate]
  cases texts with
  | nil => rfl
  | cons text rest =>
      have hblank : isBlank ' ' = true := by decide
      have hparts : ∀ part ∈ (text :: rest).map String.toList, ∀ c ∈ part, isBlank c = false := by
        intro part hpart
        obtain ⟨other, hother, rfl⟩ := List.mem_map.mp hpart
        exact (h other hother).plain
      have hkept : ∀ part ∈ (text :: rest).map String.toList, (!part.isEmpty) = true := by
        intro part hpart
        obtain ⟨other, hother, rfl⟩ := List.mem_map.mp hpart
        simpa using (h other hother).nonempty
      rw [show " ".toList = [' '] from rfl, fields_intercalate (by simp) hparts hblank,
        List.filter_eq_self.mpr hkept, List.map_map]
      simp [Function.comp_def]

end CheckedMarkup.Text
