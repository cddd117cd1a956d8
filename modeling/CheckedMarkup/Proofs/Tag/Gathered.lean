import CheckedMarkup.Proofs.Tag.Changes
import CheckedMarkup.Proofs.Text.Letters

/-! # Attributes that are given together

A tag takes its attributes one by one, or collected beforehand. What is collected has
its names in lower case and its repeated names merged before the tag looks at it. The
tag becomes the same all the same, and it ignores the same pairs.
-/

namespace CheckedMarkup

namespace Text

/-- A name that is in lower case already is fixed just if the name as it was given is. -/
theorem sameUpToCase_lowercase_type (name : String) :
    sameUpToCase (lowercase name) "type" = sameUpToCase name "type" := by
  rw [Bool.eq_iff_iff, sameUpToCase_type_iff, sameUpToCase_type_iff, lowercase_lowercase]

end Text

namespace Attributes

variable {keep : String → Bool}

/-- Names that are kept or left out whatever their case can be left out before all pairs are
given, or afterwards. -/
theorem filter_entries_insertAll (hkeep : ∀ name, keep (Text.lowercase name) = keep name)
    (attributes : Attributes) (pairs : List (String × AttributeValue)) :
    (attributes.insertAll pairs).entries.filter (fun entry => keep entry.1) =
      (insertAll ⟨attributes.entries.filter fun entry => keep entry.1⟩
        (pairs.filter fun pair => keep pair.1)).entries := by
  induction pairs generalizing attributes with
  | nil => rfl
  | cons pair rest ih =>
      have hput : (attributes.insert pair.1 pair.2).entries.filter (fun entry => keep entry.1) =
          if keep pair.1 then
            Keyed.put Prod.fst (Text.lowercase pair.1, pair.2)
              (attributes.entries.filter fun entry => keep entry.1)
          else attributes.entries.filter fun entry => keep entry.1 := by
        rw [← hkeep pair.1]
        exact Keyed.filter_put keep _ _
      rw [insertAll, List.foldl_cons, ← insertAll, ih, hput, List.filter_cons]
      split <;> rfl

theorem filter_entries_ofList (hkeep : ∀ name, keep (Text.lowercase name) = keep name)
    (pairs : List (String × AttributeValue)) :
    (ofList pairs).entries.filter (fun entry => keep entry.1) =
      (ofList (pairs.filter fun pair => keep pair.1)).entries :=
  filter_entries_insertAll hkeep empty pairs

end Attributes

namespace Tag

theorem fixes_lowercase (tag : Tag) (name : String) :
    tag.fixes (Text.lowercase name) = tag.fixes name := by
  rw [fixes, fixes, Text.sameUpToCase_lowercase_type]

/-- One by one, a tag is given all pairs but those that it was made with. -/
theorem foldl_attr_eq_insertAll (tag : Tag) (pairs : List (String × AttributeValue)) :
    pairs.foldl (fun tag (name, value) => tag.attr name value) tag =
      { tag with
        attributes := tag.attributes.insertAll (pairs.filter fun pair => !tag.fixes pair.1) } := by
  rw [foldl_attr]
  congr 1
  -- the attributes change from pair to pair, and what the tag fixes does not
  generalize tag.attributes = attributes
  induction pairs generalizing attributes with
  | nil => rfl
  | cons pair rest ih =>
      rw [List.foldl_cons, ih, List.filter_cons, Attributes.give, ← fixes]
      cases tag.fixes pair.1 <;> rfl

/-- It does not matter whether attributes are collected first and given to a tag together, or given
one by one. The tag ignores those that it was made with in either case, and of the collected ones it
ignores what was collected from these. -/
theorem attrs_ofList (tag : Tag) (pairs : List (String × AttributeValue)) :
    tag.attrs (.ofList pairs) =
      pairs.foldl (fun tag (name, value) => tag.attr name value) tag ∧
    tag.attrs (.ofList pairs) =
      { tag with
        attributes := tag.attributes.insertAll (pairs.filter fun pair => !tag.fixes pair.1) } ∧
    (Attributes.ofList pairs).entries.filter (fun entry => tag.fixes entry.1) =
      (Attributes.ofList (pairs.filter fun pair => tag.fixes pair.1)).entries := by
  have hgiven : (Attributes.ofList pairs).entries.filter (fun entry => !tag.fixes entry.1) =
      (Attributes.ofList (pairs.filter fun pair => !tag.fixes pair.1)).entries := by
    have hkeep : ∀ name, (!tag.fixes (Text.lowercase name)) = !tag.fixes name := by
      intro name
      rw [tag.fixes_lowercase]
    exact @Attributes.filter_entries_ofList (fun name => !tag.fixes name) hkeep pairs
  have htogether : tag.attrs (.ofList pairs) =
      { tag with
        attributes :=
          tag.attributes.insertAll (pairs.filter fun pair => !tag.fixes pair.1) } := by
    rw [attrs, foldl_attr_eq_insertAll, hgiven]
    congr 1
    exact Attributes.merge_ofList tag.attributes _
  refine ⟨?_, htogether, ?_⟩
  · rw [htogether, foldl_attr_eq_insertAll]
  · exact Attributes.filter_entries_ofList tag.fixes_lowercase pairs

example :
    ((Tag.input .radio).attrs (.ofList [("Name", .text "a"), ("TYPE", .text "text"),
        ("type", .flag true), ("\u212AIND", .text "b"), ("name", .text "c")])).attributes.entries =
      [("type", .text "radio"), ("name", .text "c"), ("kind", .text "b")] := by
  decide +kernel

end Tag

end CheckedMarkup
