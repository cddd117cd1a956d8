import CheckedMarkup.Proofs.Text.LowerCase
import CheckedMarkup.Tag.Plan

/-! # Tags that are made

A tag is only ever made step by step. No step gives an attribute twice, and each
keeps the names in lower case, so the attributes of such a tag can be given to a
fresh tag once more.
-/

namespace CheckedMarkup

def AttributeValue.isPlain : AttributeValue → Bool
  | .text _ | .flag _ => true
  | .markup _ => false

namespace Attributes

/-- Every name is in lower case and has one value. -/
structure IsProper (attributes : Attributes) : Prop where
  distinct : (attributes.entries.map Prod.fst).Nodup
  lower : ∀ entry ∈ attributes.entries, Text.lowercase entry.1 = entry.1

theorem isProper_empty : empty.IsProper := ⟨List.nodup_nil, by simp [empty]⟩

theorem IsProper.insert {attributes : Attributes} (h : attributes.IsProper) (name : String)
    (value : AttributeValue) : (attributes.insert name value).IsProper := by
  refine ⟨Keyed.nodup_put h.distinct, ?_⟩
  intro entry hentry
  rcases Keyed.eq_or_mem_of_mem_put hentry with rfl | hold
  · exact Text.lowercase_lowercase name
  · exact h.lower entry hold

theorem IsProper.insertAll {attributes : Attributes} (h : attributes.IsProper)
    (pairs : List (String × AttributeValue)) : (attributes.insertAll pairs).IsProper := by
  induction pairs generalizing attributes with
  | nil => exact h
  | cons pair rest ih => exact ih (h.insert pair.1 pair.2)

theorem IsProper.erase {attributes : Attributes} (h : attributes.IsProper) (name : String) :
    (attributes.erase name).IsProper := by
  have hkept : (attributes.erase name).entries.Sublist attributes.entries := List.eraseP_sublist
  exact ⟨h.distinct.sublist (hkept.map Prod.fst),
    fun entry hentry => h.lower entry (hkept.subset hentry)⟩

/-- Entries with new names in lower case are added as they are. -/
theorem entries_insertAll {attributes : Attributes} {pairs : List (String × AttributeValue)}
    (hdistinct : ((attributes.entries ++ pairs).map Prod.fst).Nodup)
    (hlower : ∀ pair ∈ pairs, Text.lowercase pair.1 = pair.1) :
    (attributes.insertAll pairs).entries = attributes.entries ++ pairs := by
  induction pairs generalizing attributes with
  | nil => simp [insertAll]
  | cons pair rest ih =>
      have hname : pair.1 ∉ attributes.entries.map Prod.fst := by
        intro hmem
        rw [List.map_append, List.map_cons, List.nodup_append] at hdistinct
        exact hdistinct.2.2 _ hmem _ List.mem_cons_self rfl
      have hinsert : (attributes.insert pair.1 pair.2).entries = attributes.entries ++ [pair] := by
        simp only [insert, hlower pair List.mem_cons_self]
        exact Keyed.put_of_not_mem hname
      rw [insertAll, List.foldl_cons]
      refine (ih ?_ fun other hother => hlower other (List.mem_cons_of_mem _ hother)).trans ?_
      · rw [hinsert, List.append_assoc]
        exact hdistinct
      · rw [hinsert, List.append_assoc, List.singleton_append]

theorem entries_ofList {pairs : List (String × AttributeValue)}
    (hdistinct : (pairs.map Prod.fst).Nodup)
    (hlower : ∀ pair ∈ pairs, Text.lowercase pair.1 = pair.1) : (ofList pairs).entries = pairs :=
  @entries_insertAll empty pairs hdistinct hlower

theorem IsProper.ofList_entries {attributes : Attributes} (h : attributes.IsProper) :
    ofList attributes.entries = attributes :=
  congrArg Attributes.mk (entries_ofList h.distinct h.lower)

/-- Adds an attribute, unless it is the type of a tag that was made with one. -/
def give (isTyped : Bool) (attributes : Attributes)
    (entry : String × AttributeValue) : Attributes :=
  if isTyped && Text.sameUpToCase entry.1 "type" then attributes
  else attributes.insert entry.1 entry.2

end Attributes

namespace Tag

/-- Whether some steps make the tag. -/
def IsMade (tag : Tag) : Prop := ∃ plan : Plan Piece, plan.tag = tag

variable {tag : Tag}

/-- Whether a property of tags outlasts every attribute and all content that is given. -/
structure IsKept (p : Tag → Prop) : Prop where
  attr {tag : Tag} (h : p tag) (name : String) (value : AttributeValue) : p (tag.attr name value)
  content {tag : Tag} (h : p tag) (pieces : List Piece) (bulk : Option (List Piece)) :
    p { tag with pieces := pieces, bulk := bulk }

namespace IsKept

variable {p : Tag → Prop}

theorem attrs (hkept : IsKept p) (h : p tag) (attributes : Attributes) :
    p (tag.attrs attributes) := by
  unfold Tag.attrs
  induction attributes.entries generalizing tag with
  | nil => exact h
  | cons entry rest ih => exact ih (hkept.attr h entry.1 entry.2)

theorem apply (hkept : IsKept p) (h : p tag) (step : BuildStep Piece) :
    p (BuildStep.apply tag step) := by
  cases step with
  | attr name value => exact hkept.attr h name value
  | attr? name value =>
      cases value with
      | none => exact h
      | some value => exact hkept.attr h name value
  | attrs pairs => exact hkept.attrs h (.ofList pairs)
  | child | text | markup | children => exact hkept.content h _ _

/-- What holds of a tag at first and is kept by every step holds of what a plan makes. -/
theorem tag_of_origin (hkept : IsKept p) (origin : Origin) (h : p origin.tag)
    (steps : List (BuildStep Piece)) : p (Plan.tag ⟨origin, steps⟩) := by
  unfold Plan.tag
  generalize origin.tag = first at h
  induction steps generalizing first with
  | nil => exact h
  | cons step rest ih => exact ih _ (hkept.apply h step)

end IsKept

theorem isKept_isProper : IsKept fun tag => tag.attributes.IsProper where
  attr := by
    intro tag h name value
    unfold Tag.attr
    split
    · exact h
    · exact h.insert name value
  content := fun h _ _ => h

theorem IsMade.isProper (h : tag.IsMade) : tag.attributes.IsProper := by
  obtain ⟨⟨origin, steps⟩, rfl⟩ := h
  refine isKept_isProper.tag_of_origin origin ?_ steps
  cases origin with
  | named name => exact Attributes.isProper_empty
  | input type => exact Attributes.isProper_empty.insert _ _

theorem attr_eq_give (tag : Tag) (name : String) (value : AttributeValue) :
    tag.attr name value =
      { tag with attributes := tag.attributes.give tag.fixedType.isSome (name, value) } := by
  unfold attr fixes Attributes.give
  split <;> rfl

theorem foldl_attr (tag : Tag) (entries : List (String × AttributeValue)) :
    entries.foldl (fun tag (name, value) => tag.attr name value) tag =
      { tag with
        attributes := entries.foldl (Attributes.give tag.fixedType.isSome) tag.attributes } := by
  induction entries generalizing tag with
  | nil => rfl
  | cons entry rest ih =>
      rw [List.foldl_cons, ih]
      simp only [attr_eq_give, List.foldl_cons]

theorem attrs_named (name : String) (attributes : Attributes) :
    (named name).attrs attributes =
      { named name with attributes := .ofList attributes.entries } := by
  have hgive : Attributes.give (named name).fixedType.isSome =
      fun attributes entry => attributes.insert entry.1 entry.2 := rfl
  rw [attrs, foldl_attr, hgive]
  rfl

/-- Whether a tag is made with plain values. -/
structure IsPlain (tag : Tag) : Prop where
  made : tag.IsMade
  values : ∀ entry ∈ tag.attributes.entries, entry.2.isPlain = true

end Tag

end CheckedMarkup
