import CheckedMarkup.Proofs.Vocabulary.Grammar
import CheckedMarkup.Proofs.Vocabulary.Proper
import Mathlib.Data.List.Basic

/-! # Vocabularies as tables without groups

A vocabulary is written back as a table: each element as its keywords and then
one descriptor for each of its attributes. Compiling that table gives the
vocabulary again, so nothing of it is lost when the groups are gone.
-/

namespace CheckedMarkup

open Fallible Text

/-! ## The written form -/

/-- The marker that declares a kind. Without one any text is taken. -/
def ValueKind.marker? : ValueKind → Option Marker
  | plain => none
  | switch => some .switch
  | uri => some .uri
  | contentType => some .contentType
  | charset => some .charset
  | script => some .script
  | oneOf options => some (.options options)

namespace AttributeDecl

def markers (decl : AttributeDecl) : List Marker :=
  decl.kind.marker?.toList ++ if decl.required then [.required] else []

/-- The descriptor of an attribute. The name is in capitals, so that it is never a keyword. -/
def token (decl : AttributeDecl) : String :=
  decl.name.toUpper ++ String.ofList (decl.markers.flatMap Marker.text)

end AttributeDecl

namespace ElementDecl

def keywords (element : ElementDecl) : List String :=
  (element.position.map Position.keyword).toList ++ if element.isEmpty then ["empty"] else []

def shorthand (element : ElementDecl) : String :=
  " ".intercalate (element.keywords ++ element.attributes.map AttributeDecl.token)

end ElementDecl

/-- The table of a vocabulary, without groups. -/
def Vocabulary.table (vocabulary : Vocabulary) : Table :=
  ⟨vocabulary.elements.map fun element => (element.name, element.shorthand), []⟩

/-! ## Names in capitals -/

theorem isNameChar_toUpper {c : Char} (hc : isNameChar c = true) :
    isNameChar c.toUpper = true := by
  have h := holds_of_isNameChar (p := fun c => !isNameChar c || isNameChar c.toUpper)
    (by decide +kernel) hc
  simpa [hc] using h

theorem isBlank_of_isNameChar {c : Char} (hc : isNameChar c = true) : isBlank c = false := by
  have h := holds_of_isNameChar (p := fun c => !isNameChar c || !isBlank c) (by decide +kernel) hc
  simpa [hc] using h

theorem isLower_toUpper (c : Char) : c.toUpper.isLower = false := by
  unfold Char.toUpper Char.isLower
  grind

namespace IsLowerName

variable {name : String}

theorem isNameChar_of_mem_toUpper (h : IsLowerName name) {c : Char}
    (hc : c ∈ name.toUpper.toList) : isNameChar c = true := by
  rw [String.toUpper, String.toList_map, List.mem_map] at hc
  obtain ⟨d, hd, rfl⟩ := hc
  exact isNameChar_toUpper (h.isNameChar_of_mem hd)

theorem toLower_toUpper (h : IsLowerName name) : name.toUpper.toLower = name := by
  apply String.toList_injective
  rw [Text.toList_toLower, String.toUpper, String.toList_map, List.map_map]
  have hback : ∀ c ∈ name.toList, (Char.toLower ∘ Char.toUpper) c = id c := by
    intro c hc
    have hchar := holds_of_isNameChar (p := fun c => c.toLower != c || c.toUpper.toLower == c)
      (by decide +kernel) (h.isNameChar_of_mem hc)
    rw [h.toLower_of_mem hc, bne_self_eq_false, Bool.false_or, beq_iff_eq] at hchar
    exact hchar
  rw [List.map_congr_left hback, List.map_id]

theorem exists_cons_toUpper (h : IsLowerName name) :
    ∃ c rest, name.toUpper.toList = c :: rest ∧ c.isLower = false := by
  cases hname : name.toList with
  | nil => exact absurd (by simpa using hname) h.ne_empty
  | cons c rest =>
      refine ⟨c.toUpper, rest.map Char.toUpper, ?_, isLower_toUpper c⟩
      rw [String.toUpper, String.toList_map, hname, List.map_cons]

end IsLowerName

/-! ## Descriptors -/

theorem Marker.isBlank_of_mem_text {marker : Marker} (h : marker.IsProper) {c : Char}
    (hc : c ∈ marker.text) : isBlank c = false := by
  cases marker with
  | required | switch | contentType | charset | script | uri =>
      simp only [text, List.mem_cons, List.not_mem_nil, or_false] at hc
      rcases hc with rfl | rfl <;> decide
  | options texts =>
      simp only [text, List.mem_cons, List.mem_append, List.not_mem_nil, or_false,
        List.cons_append] at hc
      rcases hc with rfl | hc | rfl
      · decide
      · rcases eq_or_mem_of_mem_intercalate hc with rfl | ⟨part, hpart, hc⟩
        · decide
        · obtain ⟨option, hoption, rfl⟩ := List.mem_map.mp hpart
          exact (isOptionChar_iff.mp ((h.2 option hoption).plain c hc)).1
      · decide

namespace AttributeDecl

variable {decl : AttributeDecl}

theorem toList_token (decl : AttributeDecl) :
    decl.token.toList = decl.name.toUpper.toList ++ decl.markers.flatMap Marker.text := by
  simp [token]

theorem IsProper.markers (h : decl.IsProper) : ∀ marker ∈ decl.markers, marker.IsProper := by
  intro marker hmarker
  rcases List.mem_append.mp hmarker with hkind | hrequired
  · cases hdecl : decl.kind with
    | oneOf options =>
        obtain ⟨hne, hall⟩ := h.kind options hdecl
        simp only [hdecl, ValueKind.marker?, Option.toList_some, List.mem_singleton] at hkind
        subst hkind
        exact ⟨hne, fun option hoption => (hall option hoption).1⟩
    | plain => simp [hdecl, ValueKind.marker?] at hkind
    | switch | uri | contentType | charset | script =>
        simp only [hdecl, ValueKind.marker?, Option.toList_some, List.mem_singleton] at hkind
        subst hkind
        trivial
  · split at hrequired
    · rw [List.mem_singleton.mp hrequired]
      trivial
    · cases hrequired

theorem IsProper.read_token_eq (h : decl.IsProper) :
    Descriptor.read decl.token = .ok ⟨decl.name.toUpper, decl.markers⟩ := by
  have hproper : Descriptor.IsProper ⟨decl.name.toUpper, decl.markers⟩ := by
    refine ⟨?_, h.markers⟩
    simp only [isName, Bool.and_eq_true, Bool.not_eq_true', String.isEmpty_eq_false_iff,
      List.all_eq_true]
    refine ⟨?_, fun c hc => h.name.isNameChar_of_mem_toUpper hc⟩
    intro hempty
    obtain ⟨c, rest, hcons, _⟩ := h.name.exists_cons_toUpper
    simp [hempty] at hcons
  exact hproper.read_text

theorem IsProper.foldlM_add_markers (h : decl.IsProper) :
    decl.markers.foldlM Marking.add .blank =
      .ok ⟨decl.required, decl.kind.marker?.map fun _ => decl.kind⟩ := by
  have hkind : decl.kind.marker?.toList.foldlM Marking.add .blank =
      .ok ⟨false, decl.kind.marker?.map fun _ => decl.kind⟩ := by
    cases hdecl : decl.kind with
    | oneOf options =>
        obtain ⟨_, hall⟩ := h.kind options hdecl
        have hlower : options.map lowercase = options := by
          have hsame : ∀ option ∈ options, lowercase option = id option := fun option hoption =>
            (hall option hoption).2
          rw [List.map_congr_left hsame, List.map_id]
        simp [ValueKind.marker?, Marking.add, Marker.kind?, Marking.blank, hlower]
    | plain | switch | uri | contentType | charset | script => rfl
  rw [AttributeDecl.markers, List.foldlM_append, hkind, bind_ok]
  cases decl.required <;> simp [Marking.add, Marker.kind?]

/-- An attribute is read back from its descriptor. -/
theorem IsProper.read_token (h : decl.IsProper) (element : String) :
    AttributeDecl.read element decl.token = .ok decl := by
  rw [AttributeDecl.read_eq_ok_iff]
  refine ⟨_, h.read_token_eq, ?_⟩
  rw [Descriptor.resolve_eq_ok_iff]
  refine ⟨_, h.foldlM_add_markers, ?_, ?_⟩
  · rintro ⟨hrequired, hswitch⟩
    refine h.optional ⟨hrequired, ?_⟩
    simp only [Option.map_eq_some_iff] at hswitch
    obtain ⟨_, _, hkind⟩ := hswitch
    exact hkind
  · have hkind : (decl.kind.marker?.map fun _ => decl.kind).getD .plain = decl.kind := by
      cases decl.kind <;> rfl
    rw [h.name.toLower_toUpper, hkind]

theorem IsProper.isWord_token (h : decl.IsProper) : IsWord decl.token := by
  constructor
  · obtain ⟨c, rest, hcons, _⟩ := h.name.exists_cons_toUpper
    intro hempty
    have hlist := congrArg String.toList hempty
    rw [toList_token, hcons] at hlist
    simp at hlist
  · intro c hc
    rw [toList_token, List.mem_append, List.mem_flatMap] at hc
    rcases hc with hc | ⟨marker, hmarker, hc⟩
    · exact isBlank_of_isNameChar (h.name.isNameChar_of_mem_toUpper hc)
    · exact Marker.isBlank_of_mem_text (h.markers marker hmarker) hc

/-- A descriptor starts with no small letter, as every keyword does. -/
theorem IsProper.isKeyword_token (h : decl.IsProper) : Groups.isKeyword decl.token = false := by
  obtain ⟨c, rest, hcons, hc⟩ := h.name.exists_cons_toUpper
  have hhead : decl.token.toList.head? = some c := by
    rw [toList_token, hcons]
    rfl
  have hne : ∀ word : String, word.toList.head?.any Char.isLower = true → decl.token ≠ word := by
    rintro word hlower rfl
    simp [hhead, hc] at hlower
  simp only [Groups.isKeyword, Position.ofKeyword?, hne "block" (by decide),
    hne "head" (by decide), hne "inline" (by decide), if_false, Option.isSome_none,
    Bool.false_or, Bool.or_eq_false_iff, beq_eq_false_iff_ne]
  exact ⟨hne "empty" (by decide), hne "only" (by decide)⟩

end AttributeDecl

/-! ## Elements -/

namespace Groups

/-- A table without groups. -/
def empty : Groups := ⟨[]⟩

@[simp] theorem members?_empty (name : String) : empty.members? name = none := rfl

theorem common_empty (shorthand : String) : empty.common shorthand = [] := by
  simp [common]

end Groups

theorem foldl_replaceOrAppend_of_nodup {all decls : List AttributeDecl}
    (h : ((all ++ decls).map AttributeDecl.name).Nodup) :
    decls.foldl replaceOrAppend all = all ++ decls := by
  induction decls generalizing all with
  | nil => simp
  | cons decl rest ih =>
      have hnew : decl.name ∉ all.map AttributeDecl.name := by
        rw [List.map_append, List.nodup_append] at h
        intro hold
        exact h.2.2 _ hold _ (by simp) rfl
      rw [List.foldl_cons, replaceOrAppend, if_neg hnew, ih (by simpa using h)]
      simp

namespace ElementDecl

variable {element : ElementDecl}

/-- What the words of a printed element say. -/
def printedItems (element : ElementDecl) : List Item :=
  (element.position.map Item.position).toList ++ (if element.isEmpty then [.empty] else []) ++
    element.attributes.map fun decl => .flat (.descriptor decl.token)

theorem words_shorthand (h : element.IsProper) :
    words element.shorthand = element.keywords ++ element.attributes.map AttributeDecl.token := by
  apply words_intercalate
  intro word hword
  rcases List.mem_append.mp hword with hkeyword | htoken
  · rcases List.mem_append.mp hkeyword with hposition | hempty
    · obtain ⟨position, _, rfl⟩ : ∃ position, element.position = some position ∧
          position.keyword = word := by simpa using hposition
      cases position <;> exact isWord_of_all (by decide)
    · split at hempty
      · rw [List.mem_singleton.mp hempty]
        exact isWord_of_all (by decide)
      · cases hempty
  · obtain ⟨decl, hdecl, rfl⟩ := List.mem_map.mp htoken
    exact (h.attributes decl hdecl).isWord_token

theorem items_token (h : element.IsProper) {decl : AttributeDecl}
    (hdecl : decl ∈ element.attributes) :
    Groups.empty.items decl.token = [.flat (.descriptor decl.token)] := by
  have hkeyword := (h.attributes decl hdecl).isKeyword_token
  obtain ⟨hposition, hempty, honly⟩ := Groups.ofKeyword?_eq_none_of_not_isKeyword hkeyword
  simp [Groups.items, hposition, hempty, honly,
    Groups.flatten_descriptor (Groups.members?_empty decl.token)]

theorem explicit_shorthand (h : element.IsProper) :
    Groups.empty.explicit element.shorthand = element.printedItems := by
  rw [Groups.explicit, words_shorthand h, List.flatMap_append, keywords, List.flatMap_append,
    printedItems, List.flatMap_map]
  congr 1
  · congr 1
    · cases element.position with
      | none => rfl
      | some position => cases position <;> rfl
    · cases element.isEmpty <;> rfl
  · rw [List.map_eq_flatMap]
    exact List.flatMap_congr fun decl hdecl => items_token h hdecl

theorem findSome?_position?_printedItems (element : ElementDecl) :
    element.printedItems.findSome? Item.position? = element.position := by
  have hattributes : (element.attributes.map fun decl =>
      Item.flat (.descriptor decl.token)).findSome? Item.position? = none := by
    simp [List.findSome?_eq_none_iff, Item.position?]
  rw [printedItems, List.findSome?_append, List.findSome?_append, hattributes]
  cases element.position <;> cases element.isEmpty <;> rfl

theorem contains_empty_printedItems (element : ElementDecl) :
    element.printedItems.contains .empty = element.isEmpty := by
  cases hposition : element.position <;> cases hempty : element.isEmpty <;>
    simp [printedItems, hposition, hempty]

theorem filterMap_decl?_printedItems (h : element.IsProper) (name : String) :
    element.printedItems.filterMap (Item.decl? name) = element.attributes := by
  have hattributes : (element.attributes.map fun decl =>
      Item.flat (.descriptor decl.token)).filterMap (Item.decl? name) = element.attributes := by
    rw [List.filterMap_map]
    have hread : ∀ decl ∈ element.attributes,
        (Item.decl? name ∘ fun decl => .flat (.descriptor decl.token)) decl = some decl := by
      intro decl hdecl
      simp [Item.decl?, Flat.read, (h.attributes decl hdecl).read_token, Except.toOption]
    rw [List.filterMap_congr hread, List.filterMap_some]
  rw [printedItems, List.filterMap_append, List.filterMap_append, hattributes]
  cases element.position <;> cases element.isEmpty <;> rfl

theorem fault?_printedItems (h : element.IsProper) (name : String) :
    element.printedItems.findSome? (Item.fault? name element.position) = none := by
  rw [List.findSome?_eq_none_iff]
  intro item hitem
  rcases List.mem_append.mp hitem with hkeyword | hattribute
  · rcases List.mem_append.mp hkeyword with hposition | hempty
    · obtain ⟨position, hsome, rfl⟩ : ∃ position, element.position = some position ∧
          Item.position position = item := by simpa using hposition
      simp [Item.fault?, hsome]
    · split at hempty
      · rw [List.mem_singleton.mp hempty]
        rfl
      · cases hempty
  · obtain ⟨decl, hdecl, rfl⟩ := List.mem_map.mp hattribute
    simp [Item.fault?, Flat.read, (h.attributes decl hdecl).read_token, Fallible.fault?]

/-- An element is compiled back from its shorthand. -/
theorem compile_shorthand (h : element.IsProper) :
    compile Groups.empty element.name element.shorthand = .ok element := by
  have hposition : (words element.shorthand).findSome? Position.ofKeyword? = element.position := by
    rw [← Groups.findSome?_position?_explicit, explicit_shorthand h,
      findSome?_position?_printedItems]
  have hempty : decide ("empty" ∈ words element.shorthand) = element.isEmpty := by
    rw [← Groups.contains_empty_explicit, explicit_shorthand h, contains_empty_printedItems]
  rw [compile_eq_described h.name.proper]
  simp only [described, explicit_shorthand h, Groups.common_empty, List.append_nil, hposition,
    hempty, fault?_printedItems h, filterMap_decl?_printedItems h, h.name.lower,
    List.filterMap_nil, List.foldl_nil]
  rw [foldl_replaceOrAppend_of_nodup (by rw [List.nil_append]; exact h.distinct)]
  rfl

end ElementDecl

/-! ## Tables -/

namespace Vocabulary

theorem compile_table_of_isProper {vocabulary : Vocabulary} (h : vocabulary.IsProper) :
    vocabulary.table.compile = .ok vocabulary := by
  rw [Table.compile_eq_ok_iff]
  refine ⟨vocabulary.elements, ?_, ?_⟩
  · rw [mapM_eq_ok_iff, table, List.map_map]
    apply List.map_congr_left
    intro element helement
    exact ElementDecl.compile_shorthand (h.elements element helement)
  · rw [Keyed.sorted_of_pairwise h.ordered]

/-- A compiled vocabulary is compiled again from its own table, whatever groups it came from. -/
theorem compile_table_of_compile {table : Table} {vocabulary : Vocabulary}
    (h : table.compile = .ok vocabulary) : vocabulary.table.compile = .ok vocabulary :=
  compile_table_of_isProper (isProper_of_compile h)

/-- A table with attributes that are called as keywords are, and an option that comes twice. -/
def wordsTable : Table :=
  ⟨[("Q", "inline empty Block? only(A*|/t|a*)* xml:lang/c"), ("p", "HEAD/ head only")],
    [("all", "names"), ("names", "xml:lang/*")]⟩

def wordsVocabulary : Vocabulary :=
  ⟨[⟨"p", some .head, false, [⟨"head", false, .uri⟩]⟩,
      ⟨"q", some .inline, true, [⟨"block", false, .switch⟩,
        ⟨"only", true, .oneOf ["a*", "/t", "a*"]⟩, ⟨"xml:lang", false, .charset⟩]⟩]⟩

theorem compile_table_of_compile_words :
    wordsTable.compile = .ok wordsVocabulary ∧
      wordsVocabulary.table = ⟨[("p", "head HEAD/"),
        ("q", "inline empty BLOCK? ONLY(a*|/t|a*)* XML:LANG/c")], []⟩ ∧
      wordsVocabulary.table.compile = .ok wordsVocabulary := by
  have hcompile : wordsTable.compile = .ok wordsVocabulary := by decide +kernel
  exact ⟨hcompile, by decide +kernel, compile_table_of_compile hcompile⟩

end Vocabulary

end CheckedMarkup
