import CheckedMarkup.Proofs.Json.Printing
import CheckedMarkup.Vocabulary.Dump

/-! # The JSON form of a vocabulary is the vocabulary

Nothing is lost when a vocabulary is written as JSON: what is left out had
nothing to say, and texts of any characters are told apart.
-/

namespace CheckedMarkup

open Json (Value)

theorem Position.keyword_injective : Function.Injective keyword := by
  intro first second h
  have hparsed := ofKeyword?_keyword first
  rw [h, ofKeyword?_keyword, Option.some.injEq] at hparsed
  exact hparsed.symm

/-! ## Values -/

theorem Json.map_text_injective :
    Function.Injective (List.map (Value.text : String → Value String)) :=
  List.map_injective_iff.mpr fun _ _ h => Value.text.inj h

theorem AttributeDecl.toJson_injective : Function.Injective toJson := by
  rintro ⟨name, required, kind⟩ ⟨otherName, otherRequired, otherKind⟩ h
  simp only [toJson, Value.object.injEq, List.cons_append, List.nil_append, List.cons.injEq,
    Prod.mk.injEq, Value.text.injEq, Value.bool.injEq, true_and] at h
  obtain ⟨rfl, rfl, hkind, htail⟩ := h
  have hoptions : kind.options? = otherKind.options? := by
    cases hfirst : kind.options? <;> cases hsecond : otherKind.options? <;>
      simp_all [Json.map_text_injective.eq_iff]
  rw [ValueKind.eq_of_name_eq hkind hoptions]

theorem ElementDecl.toJson_injective : Function.Injective toJson := by
  rintro ⟨name, position, isEmpty, attributes⟩
    ⟨otherName, otherPosition, otherIsEmpty, otherAttributes⟩ h
  simp only [toJson, Value.object.injEq, List.cons_append, List.cons.injEq, Prod.mk.injEq,
    Value.text.injEq, true_and] at h
  obtain ⟨rfl, htail⟩ := h
  have hparts :
      position = otherPosition ∧ isEmpty = otherIsEmpty ∧ attributes = otherAttributes := by
    cases position <;> cases otherPosition <;>
      simp_all [(List.map_injective_iff.mpr AttributeDecl.toJson_injective).eq_iff,
        Position.keyword_injective.eq_iff]
  obtain ⟨rfl, rfl, rfl⟩ := hparts
  rfl

theorem Vocabulary.toJson_injective : Function.Injective toJson := by
  intro first second h
  have hmember : Function.Injective fun element : ElementDecl => (element.name, element.toJson) :=
    fun _ _ h => ElementDecl.toJson_injective (Prod.mk.inj h).2
  have helements := List.map_injective_iff.mpr hmember (Value.object.inj h)
  exact congrArg Vocabulary.mk helements

/-! ## Documents -/

theorem AttributeDecl.isProper_toJson (decl : AttributeDecl) : decl.toJson.IsProper := by
  rw [toJson]
  split <;> simp

theorem ElementDecl.isProper_toJson (element : ElementDecl) : element.toJson.IsProper := by
  rw [toJson]
  split <;> simp [AttributeDecl.isProper_toJson]

theorem Vocabulary.isProper_toJson (vocabulary : Vocabulary) : vocabulary.toJson.IsProper := by
  simp [toJson, ElementDecl.isProper_toJson]

/-- Two vocabularies are written alike, on one line or on indented ones, just if they are the same
vocabulary. -/
theorem Vocabulary.dump_is_lossless (first second : Vocabulary) :
    (first.toJson.compact = second.toJson.compact ↔ first = second) ∧
      (first.toJson.pretty = second.toJson.pretty ↔ first = second) := by
  have hlayouts : ∀ layout : Json.Layout, layout.IsBlank →
      (String.ofList (first.toJson.chars layout 0) = String.ofList (second.toJson.chars layout 0) ↔
        first = second) := by
    intro layout hlayout
    constructor
    · intro h
      exact toJson_injective
        (Value.eq_of_chars_eq hlayout (isProper_toJson first) (isProper_toJson second) h)
    · rintro rfl
      rfl
  exact ⟨hlayouts _ Json.Layout.isBlank_compact, hlayouts _ Json.Layout.isBlank_indented⟩

end CheckedMarkup
