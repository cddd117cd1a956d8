import CheckedMarkup.Proofs.Fallible
import CheckedMarkup.Session.Basic

/-! # Tags that pass

Which tags pass the checks of their element, and what is then written of them.
What is written is a function of the tag alone; the checks only decide whether
it is given out.
-/

namespace CheckedMarkup

open Fallible

/-! ## One attribute -/

namespace AttributeDecl

/-- The written form of a value, where it has one. -/
def normal (decl : AttributeDecl) (value : String) : String :=
  match decl.kind with
  | .switch => decl.name
  | .oneOf _ => Text.lowercase value
  | _ => value

/-- Whether the kind of an attribute takes a text. -/
def Takes (decl : AttributeDecl) (value : String) : Prop :=
  match decl.kind with
  | .switch => Text.sameUpToCase value decl.name = true
  | .oneOf options => Text.lowercase value ∈ options
  | _ => True

theorem normalize_eq_ok_iff {decl : AttributeDecl} {element value result : String} :
    decl.normalize element value = .ok result ↔ decl.Takes value ∧ result = decl.normal value := by
  unfold normalize Takes normal
  cases decl.kind with
  | switch =>
      by_cases hsame : Text.sameUpToCase value decl.name = true <;> simp [hsame, eq_comm]
  | oneOf options =>
      by_cases hmem : Text.lowercase value ∈ options <;> simp [hmem, eq_comm]
  | _ => simp [eq_comm]

/-- Whether an attribute takes a supplied value. -/
def Admits (decl : AttributeDecl) : AttributeValue → Prop
  | .flag false => True
  | .flag true => decl.kind = .switch
  | .text raw => decl.Takes raw
  | .markup fragment => decl.Takes fragment.text

/-- What is written of a supplied value: nothing of a switch that is off. -/
def written? (decl : AttributeDecl) : AttributeValue → Option Written
  | .flag false => none
  | .flag true => some ⟨decl.name, .text decl.name⟩
  | .text raw => some ⟨decl.name, .text (decl.normal raw)⟩
  | .markup fragment => some ⟨decl.name, .markup ⟨decl.normal fragment.text⟩⟩

theorem accept_eq_ok_iff {decl : AttributeDecl} {element : String} {value : AttributeValue}
    {result : Option Written} :
    decl.accept element value = .ok result ↔ decl.Admits value ∧ result = decl.written? value := by
  cases value with
  | flag on =>
      cases on with
      | false => simp [accept, Admits, written?, eq_comm]
      | true =>
          simp only [accept, Admits, written?]
          split <;> simp_all [eq_comm]
  | text raw =>
      simp only [accept, bind_eq_ok_iff, normalize_eq_ok_iff, Admits, written?, pure_eq,
        Except.ok.injEq]
      constructor
      · rintro ⟨_, ⟨htakes, rfl⟩, rfl⟩
        exact ⟨htakes, rfl⟩
      · rintro ⟨htakes, rfl⟩
        exact ⟨_, ⟨htakes, rfl⟩, rfl⟩
  | markup fragment =>
      simp only [accept, bind_eq_ok_iff, normalize_eq_ok_iff, Admits, written?, pure_eq,
        Except.ok.injEq]
      constructor
      · rintro ⟨_, ⟨htakes, rfl⟩, rfl⟩
        exact ⟨htakes, rfl⟩
      · rintro ⟨htakes, rfl⟩
        exact ⟨_, ⟨htakes, rfl⟩, rfl⟩

theorem name_of_written? {decl : AttributeDecl} {value : AttributeValue} {written : Written}
    (h : decl.written? value = some written) : written.name = decl.name := by
  cases value with
  | flag on =>
      cases on with
      | false => cases h
      | true => cases h; rfl
  | text raw => cases h; rfl
  | markup fragment => cases h; rfl

end AttributeDecl

/-! ## All attributes -/

namespace ElementDecl

theorem name_of_attribute? {element : ElementDecl} {name : String} {decl : AttributeDecl}
    (h : element.attribute? name = some decl) : decl.name = name :=
  Keyed.key_eq_of_find? h

theorem mem_of_attribute? {element : ElementDecl} {name : String} {decl : AttributeDecl}
    (h : element.attribute? name = some decl) : decl ∈ element.attributes :=
  Keyed.mem_of_find? h

/-- Whether every supplied attribute is declared and takes its value. -/
def Admits (element : ElementDecl) (entries : List (String × AttributeValue)) : Prop :=
  ∀ entry ∈ entries, ∃ decl, element.attribute? entry.1 = some decl ∧ decl.Admits entry.2

def writtenOf? (element : ElementDecl) (entry : String × AttributeValue) : Option Written :=
  (element.attribute? entry.1).bind fun decl => decl.written? entry.2

/-- What is written of supplied attributes, in the order in which they were supplied. -/
def written (element : ElementDecl) (entries : List (String × AttributeValue)) : List Written :=
  entries.filterMap element.writtenOf?

theorem checkAttribute_eq_ok_iff {element : ElementDecl} {entry : String × AttributeValue}
    {result : Option Written} :
    element.checkAttribute entry.1 entry.2 = .ok result ↔
      (∃ decl, element.attribute? entry.1 = some decl ∧ decl.Admits entry.2) ∧
        result = element.writtenOf? entry := by
  unfold checkAttribute writtenOf?
  cases hdecl : element.attribute? entry.1 with
  | none => simp
  | some decl => simp [AttributeDecl.accept_eq_ok_iff]

theorem checkAttributes_eq_ok_iff {element : ElementDecl} {attributes : Attributes}
    {written : List Written} :
    element.checkAttributes attributes = .ok written ↔
      element.Admits attributes.entries ∧ written = element.written attributes.entries := by
  have hentry : ∀ (entry : String × AttributeValue) (result : Option Written),
      element.checkAttribute entry.1 entry.2 = .ok result ↔
        (∃ decl, element.attribute? entry.1 = some decl ∧ decl.Admits entry.2) ∧
          result = element.writtenOf? entry := fun _ _ => checkAttribute_eq_ok_iff
  simp only [checkAttributes, bind_eq_ok_iff, mapM_eq_ok_iff_of_forall hentry, pure_eq,
    Except.ok.injEq]
  constructor
  · rintro ⟨_, ⟨hadmits, rfl⟩, rfl⟩
    exact ⟨hadmits, by rw [List.filterMap_map]; rfl⟩
  · rintro ⟨hadmits, rfl⟩
    exact ⟨_, ⟨hadmits, rfl⟩, by rw [List.filterMap_map]; rfl⟩

/-! ## The whole tag -/

/-- Whether the content of a tag fits its form. -/
def Fits (element : ElementDecl) (form : Form) (tag : Tag) : Prop :=
  tag.hasConflictingContent = false ∧
    match form with
    | .opening => element.isEmpty = false ∧ tag.hasContent = false
    | .whole => element.isEmpty = true → tag.hasContent = false

/-- Whether every required attribute is among the written ones. -/
def IsComplete (element : ElementDecl) (written : List Written) : Prop :=
  ∀ decl ∈ element.required, decl.name ∈ written.map Written.name

theorem checkContent_eq_ok_iff {element : ElementDecl} {form : Form} {tag : Tag} {result : Unit} :
    element.checkContent form tag = .ok result ↔ element.Fits form tag := by
  unfold checkContent Fits
  cases hconflict : tag.hasConflictingContent with
  | true => simp
  | false =>
      cases form with
      | opening => cases element.isEmpty <;> cases tag.hasContent <;> simp
      | whole => cases element.isEmpty <;> cases tag.hasContent <;> simp

theorem missing?_eq_none_iff {element : ElementDecl} {written : List Written} :
    element.missing? written = none ↔ element.IsComplete written := by
  simp [missing?, IsComplete, List.find?_eq_none]

/-- A tag passes just if its content fits its form, its attributes are admitted and no required one
is missing. -/
theorem check_eq_ok_iff {element : ElementDecl} {form : Form} {tag : Tag} {written : List Written} :
    element.check form tag = .ok written ↔
      element.Fits form tag ∧ element.Admits tag.attributes.entries ∧
        element.IsComplete written ∧ written = element.written tag.attributes.entries := by
  simp only [check, bind_eq_ok_iff, checkContent_eq_ok_iff, checkAttributes_eq_ok_iff]
  constructor
  · intro hcheck
    obtain ⟨_, hfits, passed, ⟨hadmits, hpassed⟩, hrest⟩ := hcheck
    split at hrest
    next hnone =>
      rw [pure_eq, Except.ok.injEq] at hrest
      subst hrest
      exact ⟨hfits, hadmits, missing?_eq_none_iff.mp hnone, hpassed⟩
    · cases hrest
  · intro hall
    obtain ⟨hfits, hadmits, hcomplete, hwritten⟩ := hall
    refine ⟨(), hfits, written, ⟨hadmits, hwritten⟩, ?_⟩
    rw [missing?_eq_none_iff.mpr hcomplete]
    rfl

/-- Of the content it only counts how it was given and whether there is any. -/
theorem check_congr (element : ElementDecl) (form : Form) {tag other : Tag}
    (hattributes : tag.attributes = other.attributes)
    (hconflict : tag.hasConflictingContent = other.hasConflictingContent)
    (hcontent : tag.hasContent = other.hasContent) :
    element.check form tag = element.check form other := by
  simp only [check, checkContent, hattributes, hconflict, hcontent]

/-- Written attributes have the names of supplied ones, in the same order. -/
theorem map_name_written_sublist (element : ElementDecl)
    (entries : List (String × AttributeValue)) :
    ((element.written entries).map Written.name).Sublist (entries.map Prod.fst) := by
  induction entries with
  | nil => simp [written]
  | cons entry rest ih =>
      rw [written, List.filterMap_cons]
      split
      · exact ih.cons _
      next written hwritten =>
        obtain ⟨decl, hdecl, hvalue⟩ := Option.bind_eq_some_iff.mp hwritten
        have hname : written.name = entry.1 := by
          rw [AttributeDecl.name_of_written? hvalue, name_of_attribute? hdecl]
        rw [List.map_cons, List.map_cons, hname]
        exact ih.cons_cons _

end ElementDecl

end CheckedMarkup
