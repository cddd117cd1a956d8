import CheckedMarkup.Proofs.Vocabulary.Names

/-! # What every vocabulary is like

A vocabulary that was compiled lists its elements in the order of their names,
and what it says of them is proper: names in lower case, of which none comes
twice, options that can be met, and no switch that every use has to give.
-/

namespace CheckedMarkup

open Text

/-- An attribute that a descriptor can declare. -/
structure AttributeDecl.IsProper (decl : AttributeDecl) : Prop where
  name : IsLowerName decl.name
  kind : decl.kind.IsProper
  optional : ¬(decl.required = true ∧ decl.kind = .switch)

theorem AttributeDecl.isProper_of_read {element token : String} {decl : AttributeDecl}
    (h : AttributeDecl.read element token = .ok decl) : decl.IsProper :=
  ⟨isLowerName_of_read h, isProper_kind_of_read h, not_required_switch_of_read h⟩

/-- An element that a shorthand can describe. -/
structure ElementDecl.IsProper (element : ElementDecl) : Prop where
  name : IsLowerName element.name
  distinct : element.attributeNames.Nodup
  attributes : ∀ decl ∈ element.attributes, decl.IsProper

theorem ElementDecl.isProper_of_compile {groups : Groups} {name shorthand : String}
    {element : ElementDecl} (h : compile groups name shorthand = .ok element) :
    element.IsProper := by
  refine ⟨(isNamed_of_compile h).name, nodup_attributeNames_of_compile h, ?_⟩
  intro decl hdecl
  obtain ⟨token, hread⟩ := exists_read_of_compile h hdecl
  exact AttributeDecl.isProper_of_read hread

theorem ValueKind.eq_oneOf_of_options? {kind : ValueKind} {options : List String}
    (h : kind.options? = some options) : kind = .oneOf options := by
  cases kind with
  | oneOf texts => rw [Option.some.inj h]
  | plain | switch | uri | contentType | charset | script => cases h

namespace Vocabulary

/-- A vocabulary that a table can describe. -/
structure IsProper (vocabulary : Vocabulary) : Prop where
  ordered : vocabulary.names.Pairwise (· < ·)
  elements : ∀ element ∈ vocabulary.elements, element.IsProper

variable {table : Table} {vocabulary : Vocabulary}

theorem isProper_of_compile (h : table.compile = .ok vocabulary) : vocabulary.IsProper := by
  refine ⟨Table.pairwise_names h, ?_⟩
  intro element helement
  obtain ⟨entry, _, hdeclare⟩ := Table.exists_declare_of_mem h helement
  exact ElementDecl.isProper_of_compile hdeclare

theorem IsProper.isNamed (h : vocabulary.IsProper) : vocabulary.IsNamed := by
  intro element helement
  have hproper := h.elements element helement
  exact ⟨hproper.name, fun decl hdecl => (hproper.attributes decl hdecl).name⟩

/-- What can be relied on in every vocabulary that is compiled. -/
theorem representation_of_compile (h : table.compile = .ok vocabulary) :
    vocabulary.names.Pairwise (· < ·) ∧ vocabulary.names.Nodup ∧
    (∀ key element, Keyed.find? ElementDecl.name key vocabulary.elements = some element ↔
      element ∈ vocabulary.elements ∧ element.name = key) ∧
    ∀ element ∈ vocabulary.elements,
      (element.name ≠ "" ∧ ∀ c ∈ element.name.toList, isNameChar c = true ∧ c.isUpper = false) ∧
      element.attributeNames.Nodup ∧
      ∀ decl ∈ element.attributes,
        (decl.name ≠ "" ∧ ∀ c ∈ decl.name.toList, isNameChar c = true ∧ c.isUpper = false) ∧
        (decl.kind.options?.isSome = true ↔ decl.kind.name = "enumerated") ∧
        (∀ options, decl.kind.options? = some options →
          options ≠ [] ∧ ∀ option ∈ options, option ≠ "" ∧
            (∀ c ∈ option.toList, isBlank c = false ∧ c ≠ '(' ∧ c ≠ ')' ∧ c ≠ '|') ∧
            lowercase option = option) ∧
        ¬(decl.required = true ∧ decl.kind = .switch) := by
  have hproper := isProper_of_compile h
  have hdistinct : vocabulary.names.Nodup := Keyed.nodup_of_pairwise hproper.ordered
  have hname : ∀ {name : String}, IsLowerName name →
      name ≠ "" ∧ ∀ c ∈ name.toList, isNameChar c = true ∧ c.isUpper = false := by
    intro name hlower
    exact ⟨hlower.ne_empty, fun c hc => ⟨hlower.isNameChar_of_mem hc, hlower.isUpper_of_mem hc⟩⟩
  refine ⟨hproper.ordered, hdistinct, fun key element => Keyed.find?_eq_some_iff hdistinct, ?_⟩
  intro element helement
  have hdeclared := hproper.elements element helement
  refine ⟨hname hdeclared.name, hdeclared.distinct, ?_⟩
  intro decl hdecl
  have hattribute := hdeclared.attributes decl hdecl
  refine ⟨hname hattribute.name, ?_, ?_, hattribute.optional⟩
  · cases decl.kind <;> simp [ValueKind.options?, ValueKind.name]
  · intro options hoptions
    obtain ⟨hne, hall⟩ := hattribute.kind options (ValueKind.eq_oneOf_of_options? hoptions)
    refine ⟨hne, fun option hoption => ?_⟩
    obtain ⟨hproperOption, hlower⟩ := hall option hoption
    exact ⟨hproperOption.nonempty, fun c hc => isOptionChar_iff.mp (hproperOption.plain c hc),
      hlower⟩

/-- A table in which names come in capitals and out of order, and an option ends in a sigma. -/
def cellTable : Table :=
  ⟨[("TD", "block cell Align(LEFT|ΟΔΟΣ)* CELL"), ("Br", "Empty? empty only")],
    [("all", "cell Id"), ("cell", "span lang span/")]⟩

def cellVocabulary : Vocabulary :=
  ⟨[⟨"br", none, true, [⟨"empty", false, .switch⟩]⟩,
      ⟨"td", some .block, false, [⟨"span", false, .uri⟩, ⟨"lang", false, .plain⟩,
        ⟨"align", true, .oneOf ["left", "οδος"]⟩, ⟨"cell", false, .plain⟩,
        ⟨"id", false, .plain⟩]⟩]⟩

theorem representation_of_compile_cells :
    cellTable.compile = .ok cellVocabulary ∧ cellVocabulary.names.Pairwise (· < ·) ∧
      ∀ element ∈ cellVocabulary.elements, element.attributeNames.Nodup := by
  have hcompile : cellTable.compile = .ok cellVocabulary := by decide +kernel
  obtain ⟨hordered, _, _, helements⟩ := representation_of_compile hcompile
  exact ⟨hcompile, hordered, fun element helement => (helements element helement).2.1⟩

end Vocabulary

end CheckedMarkup
