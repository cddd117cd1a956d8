import CheckedMarkup.Proofs.Markup.Escaping
import CheckedMarkup.Proofs.Session.Making
import CheckedMarkup.Proofs.Tag.Made

/-! # Forests

The grammar of finished markup over a vocabulary: character data and elements in
a row, each element with attributes that it permits and with a forest inside. A
document that is still being made is a forest up to some elements that are open.
-/

namespace CheckedMarkup

/-- Text between tags. -/
structure IsCharacterData (text : String) : Prop where
  noOpening : '<' ∉ text.toList
  noClosing : '>' ∉ text.toList
  entities : EntitiesOnly textEntities text.toList

/-- Text that can stand between double quotes. -/
structure IsQuotable (value : String) : Prop where
  noQuote : '"' ∉ value.toList
  noOpening : '<' ∉ value.toList
  noClosing : '>' ∉ value.toList
  entities : EntitiesOnly valueEntities value.toList

/-- Markup that an attribute can have as its value: a switch has its name, and an enumerated
attribute one of its options. -/
structure AttributeDecl.IsValue (decl : AttributeDecl) (value : String) : Prop where
  quotable : IsQuotable value
  switch : decl.kind = .switch → value = decl.name
  listed : ∀ options, decl.kind = .oneOf options →
    ∃ option ∈ options, value = Escaper.xml.value option

/-- Attributes that a tag of an element can have: distinct, declared, with values of their kinds,
and with none of the required ones left out. -/
structure ElementDecl.Permits (element : ElementDecl) (attributes : List (String × String)) :
    Prop where
  distinct : (attributes.map Prod.fst).Nodup
  declared : ∀ given ∈ attributes,
    ∃ decl, element.attribute? given.1 = some decl ∧ decl.IsValue given.2
  complete : ∀ decl ∈ element.required, decl.name ∈ attributes.map Prod.fst

/-- A sequence of character data and elements. -/
inductive IsForest (vocabulary : Vocabulary) : String → Prop
  | nil : IsForest vocabulary ""
  | data {data rest : String} (hdata : IsCharacterData data) (hrest : IsForest vocabulary rest) :
      IsForest vocabulary (data ++ rest)
  | single {element : ElementDecl} {attributes : List (String × String)} {rest : String}
      (hfind : vocabulary.find? element.name = some element) (hempty : element.isEmpty = true)
      (hpermits : element.Permits attributes) (hrest : IsForest vocabulary rest) :
      IsForest vocabulary (element.emptyTag attributes ++ rest)
  | nested {element : ElementDecl} {attributes : List (String × String)} {content rest : String}
      (hfind : vocabulary.find? element.name = some element) (hempty : element.isEmpty = false)
      (hpermits : element.Permits attributes) (hcontent : IsForest vocabulary content)
      (hrest : IsForest vocabulary rest) :
      IsForest vocabulary
        (element.openingTag attributes ++ content ++ ElementDecl.closingTag element.name ++ rest)

/-- A forest that ends inside the elements of a stack, the innermost first. -/
inductive IsOpenForest (vocabulary : Vocabulary) : List String → String → Prop
  | closed {text : String} (h : IsForest vocabulary text) : IsOpenForest vocabulary [] text
  | opened {stack : List String} {text : String} {element : ElementDecl}
      {attributes : List (String × String)} {content : String}
      (houter : IsOpenForest vocabulary stack text)
      (hfind : vocabulary.find? element.name = some element) (hempty : element.isEmpty = false)
      (hpermits : element.Permits attributes) (hcontent : IsForest vocabulary content) :
      IsOpenForest vocabulary (element.name :: stack)
        (text ++ element.openingTag attributes ++ content)

variable {vocabulary : Vocabulary}

namespace IsForest

theorem append {first second : String} (hfirst : IsForest vocabulary first)
    (hsecond : IsForest vocabulary second) : IsForest vocabulary (first ++ second) := by
  induction hfirst with
  | nil => simpa using hsecond
  | data hdata _ ih =>
      rw [String.append_assoc]
      exact .data hdata ih
  | single hfind hempty hpermits _ ih =>
      rw [String.append_assoc]
      exact .single hfind hempty hpermits ih
  | nested hfind hempty hpermits hcontent _ _ ih =>
      rw [String.append_assoc]
      exact .nested hfind hempty hpermits hcontent ih

theorem of_isCharacterData {text : String} (h : IsCharacterData text) :
    IsForest vocabulary text := by
  simpa using IsForest.data h (@IsForest.nil vocabulary)

theorem concat {fragments : List Fragment}
    (h : ∀ fragment ∈ fragments, IsForest vocabulary fragment.text) :
    IsForest vocabulary (Fragment.concat fragments).text := by
  induction fragments with
  | nil => exact .nil
  | cons fragment rest ih =>
      rw [Fragment.concat_cons]
      exact (h fragment List.mem_cons_self).append
        (ih fun other hother => h other (List.mem_cons_of_mem _ hother))

end IsForest

namespace IsOpenForest

theorem append {stack : List String} {text more : String} (h : IsOpenForest vocabulary stack text)
    (hmore : IsForest vocabulary more) : IsOpenForest vocabulary stack (text ++ more) := by
  cases h with
  | closed h => exact .closed (h.append hmore)
  | opened houter hfind hempty hpermits hcontent =>
      rw [String.append_assoc]
      exact .opened houter hfind hempty hpermits (hcontent.append hmore)

theorem close {name : String} {stack : List String} {text : String}
    (h : IsOpenForest vocabulary (name :: stack) text) :
    IsOpenForest vocabulary stack (text ++ ElementDecl.closingTag name) := by
  cases h with
  | opened houter hfind hempty hpermits hcontent =>
      have helement := IsForest.nested hfind hempty hpermits hcontent .nil
      simpa [String.append_assoc] using houter.append helement

theorem isForest {text : String} (h : IsOpenForest vocabulary [] text) :
    IsForest vocabulary text := by
  cases h with
  | closed h => exact h

end IsOpenForest

end CheckedMarkup
