import CheckedMarkup.Proofs.Text.Letters
import CheckedMarkup.Proofs.Vocabulary.Compiling
import CheckedMarkup.Proofs.Vocabulary.Entries
import CheckedMarkup.Proofs.Vocabulary.Names

/-! # Entries that do not see each other

What an entry of a table is compiled to does not depend on the other elements.
Of the groups it depends only on what is looked up in them. So a table can be
put into another order, as long as the entries of one name keep theirs.
-/

namespace CheckedMarkup

open Fallible

/-! ## Groups in which the same is found -/

section

variable {groups others : Groups}

theorem Groups.expand_congr (h : groups.members? = others.members?) :
    groups.expand = others.expand := by
  funext element trail token
  induction trail, token using Groups.flatten_induction groups with
  | descriptor hnone =>
      rw [expand_descriptor hnone, expand_descriptor (h ▸ hnone)]
  | cycle hmembers htoken =>
      rw [expand_cycle hmembers htoken, expand_cycle (h ▸ hmembers) htoken]
  | group hmembers htoken ih =>
      rw [expand_group hmembers htoken, expand_group (h ▸ hmembers) htoken, mapM_congr ih]

theorem ElementDecl.compile_congr (h : groups.members? = others.members?) :
    ElementDecl.compile groups = ElementDecl.compile others := by
  have hexpand := Groups.expand_congr h
  have hread : Draft.read groups = Draft.read others := by
    funext name draft word
    simp only [Draft.read, hexpand]
  funext name shorthand
  simp only [compile, hread, Draft.finish, hexpand, h]

theorem Groups.members?_of_rearrangement
    (h : Keyed.IsRearrangement Prod.fst groups.entries others.entries) :
    groups.members? = others.members? := by
  funext name
  rw [members?, members?, h.find?_reverse_eq]

/-- A group that a later one of its name overrides is never looked up. -/
theorem Groups.members?_of_overridden {before after : List (String × String)}
    {old later : String × String} (hlater : later ∈ after) (hname : later.1 = old.1) :
    Groups.members? ⟨before ++ after⟩ = Groups.members? ⟨before ++ old :: after⟩ := by
  funext name
  simp only [members?, List.reverse_append, List.reverse_cons, Keyed.find?_append,
    Keyed.find?_cons]
  by_cases hold : old.1 = name
  · have hsome : Keyed.find? Prod.fst name after.reverse ≠ none := by
      rw [Ne, Keyed.find?_eq_none_iff, not_not, ← hold, ← hname]
      exact List.mem_map_of_mem (List.mem_reverse.mpr hlater)
    obtain ⟨found, hfound⟩ := Option.ne_none_iff_exists'.mp hsome
    simp [hfound]
  · simp [hold, Keyed.find?]

end

namespace Table

variable {table : Table} {vocabulary : Vocabulary} {entry : String × String}

theorem compile_congr {groups : List (String × String)}
    (h : Groups.members? ⟨groups⟩ = Groups.members? ⟨table.groups⟩) :
    (Table.mk table.elements groups).compile = table.compile := by
  simp only [compile, ElementDecl.compile_congr h]

/-! ## One entry by itself -/

/-- The table that has one entry only, and all groups. -/
def alone (table : Table) (entry : String × String) : Table := ⟨[entry], table.groups⟩

theorem compile_alone (table : Table) (entry : String × String) :
    (table.alone entry).compile = (return ⟨[← table.declare entry]⟩) := by
  have hdeclare : (table.alone entry).declare entry = table.declare entry := rfl
  rw [compile_eq_mapM, alone, List.mapM_cons, List.mapM_nil, ← alone, hdeclare]
  cases table.declare entry <;> rfl

theorem compile_alone_eq_error_iff {error : VocabularyError} :
    (table.alone entry).compile = .error error ↔ table.declare entry = .error error := by
  rw [compile_alone]
  cases table.declare entry <;> simp

theorem compile_alone_eq_ok_iff {element : ElementDecl} :
    (table.alone entry).compile = .ok ⟨[element]⟩ ↔ table.declare entry = .ok element := by
  rw [compile_alone]
  cases table.declare entry <;> simp

theorem exists_compile_alone_iff :
    (∃ vocabulary, (table.alone entry).compile = .ok vocabulary) ↔
      ∃ element, table.declare entry = .ok element := by
  rw [compile_alone]
  cases table.declare entry <;> simp

/-- The first entry that cannot be compiled is what a table is refused for. -/
theorem compile_eq_error_iff {error : VocabularyError} :
    table.compile = .error error ↔
      ∃ before entry after, table.elements = before ++ entry :: after ∧
        (∀ earlier ∈ before, ∃ element, table.declare earlier = .ok element) ∧
        table.declare entry = .error error := by
  rw [← mapM_eq_error_iff, compile_eq_mapM]
  cases table.elements.mapM table.declare <;> simp

theorem exists_compile_iff :
    (∃ vocabulary, table.compile = .ok vocabulary) ↔
      ∀ entry ∈ table.elements, ∃ element, table.declare entry = .ok element := by
  constructor
  · rintro ⟨vocabulary, h⟩ entry hentry
    exact exists_declare_of_compile h hentry
  · intro hall
    cases hcompile : table.compile with
    | ok vocabulary => exact ⟨vocabulary, rfl⟩
    | error error =>
        obtain ⟨entry, hentry, herror⟩ := exists_declare_eq_error hcompile
        obtain ⟨element, helement⟩ := hall entry hentry
        rw [herror] at helement
        cases helement

/-! ## What a name refers to -/

/-- The name that an entry declares. -/
def keyOf (entry : String × String) : String := entry.1.toLower

/-- The last entry for a name, in any case of its letters. -/
def last? (table : Table) (name : String) : Option (String × String) :=
  table.elements.reverse.find? fun entry => Text.sameUpToCase entry.1 name

theorem find?_of_map_declare {entries : List (String × String)} {elements : List ElementDecl}
    (h : entries.map table.declare = elements.map .ok) (name : String) :
    Keyed.find? ElementDecl.name name elements =
      (Keyed.find? keyOf name entries).bind fun entry => (table.declare entry).toOption := by
  induction entries generalizing elements with
  | nil =>
      rw [List.map_nil, eq_comm, List.map_eq_nil_iff] at h
      subst h
      rfl
  | cons entry rest ih =>
      cases elements with
      | nil => simp at h
      | cons element others =>
          rw [List.map_cons, List.map_cons, List.cons.injEq] at h
          obtain ⟨hentry, hrest⟩ := h
          have hname : element.name = keyOf entry := ElementDecl.name_of_compile hentry
          rw [Keyed.find?_cons, Keyed.find?_cons, hname, ih hrest]
          split
          · rw [Option.bind_some, hentry]
            rfl
          · rfl

/-- Under each name stands what the last entry that declares it is compiled to. -/
theorem find?_elements_of_compile (h : table.compile = .ok vocabulary) (name : String) :
    Keyed.find? ElementDecl.name name vocabulary.elements =
      (Keyed.find? keyOf name table.elements.reverse).bind fun entry =>
        (table.declare entry).toOption := by
  obtain ⟨elements, hall, rfl⟩ := compile_eq_ok_iff.mp h
  rw [Keyed.find?_sorted]
  apply find?_of_map_declare
  rw [List.map_reverse, List.map_reverse, mapM_eq_ok_iff.mp hall]

theorem find?_of_compile (h : table.compile = .ok vocabulary) (name : String) :
    vocabulary.find? name = (table.last? name).bind fun entry => (table.declare entry).toOption :=
  (Vocabulary.find?_eq_of_compile h name).trans (find?_elements_of_compile h name.toLower)

/-! ## Other orders -/

theorem compile_of_rearrangement {elements others groups : List (String × String)}
    (hother : Keyed.IsRearrangement keyOf elements others)
    (h : (Table.mk elements groups).compile = .ok vocabulary) :
    (Table.mk others groups).compile = .ok vocabulary := by
  have hall := exists_compile_iff.mp ⟨vocabulary, h⟩
  obtain ⟨other, hcompile⟩ : ∃ other, (Table.mk others groups).compile = .ok other :=
    exists_compile_iff.mpr fun entry hentry => hall entry (hother.mem_iff.mpr hentry)
  have helements : other.elements = vocabulary.elements := by
    apply Keyed.eq_of_find?_eq (pairwise_names hcompile) (pairwise_names h)
    intro name
    rw [find?_elements_of_compile hcompile, find?_elements_of_compile h, hother.find?_reverse_eq]
    rfl
  rw [hcompile]
  exact congrArg (fun elements => Except.ok (Vocabulary.mk elements)) helements

theorem compile_eq_ok_iff_of_rearrangement {elements groups : List (String × String)}
    (helements : Keyed.IsRearrangement keyOf table.elements elements)
    (hgroups : Keyed.IsRearrangement Prod.fst table.groups groups) :
    (Table.mk elements groups).compile = .ok vocabulary ↔ table.compile = .ok vocabulary := by
  have hcompile : (Table.mk table.elements groups).compile = table.compile :=
    compile_congr (Groups.members?_of_rearrangement hgroups.symm)
  rw [← hcompile]
  constructor
  · exact fun h => compile_of_rearrangement helements.symm h
  · exact fun h => compile_of_rearrangement helements h

/-- A table is compiled entry by entry: the first defect counts, and of the entries for one name
the last. Neither the order of different names nor a group that is overridden makes a difference. -/
theorem compile_is_modular (table : Table) :
    ((∃ error, table.compile = .error error) ↔
      ∃ entry ∈ table.elements, ∃ error, (table.alone entry).compile = .error error) ∧
    (∀ error, table.compile = .error error ↔
      ∃ before entry after, table.elements = before ++ entry :: after ∧
        (∀ earlier ∈ before, ∃ vocabulary, (table.alone earlier).compile = .ok vocabulary) ∧
        (table.alone entry).compile = .error error) ∧
    (∀ vocabulary, table.compile = .ok vocabulary → ∀ name,
      match table.last? name with
      | some entry => ∃ element, (table.alone entry).compile = .ok ⟨[element]⟩ ∧
          vocabulary.find? name = some element
      | none => vocabulary.find? name = none) ∧
    (∀ elements groups, Keyed.IsRearrangement keyOf table.elements elements →
      Keyed.IsRearrangement Prod.fst table.groups groups → ∀ vocabulary,
        (Table.mk elements groups).compile = .ok vocabulary ↔ table.compile = .ok vocabulary) ∧
    ∀ before old after, table.groups = before ++ old :: after →
      (∃ later ∈ after, later.1 = old.1) →
        (Table.mk table.elements (before ++ after)).compile = table.compile := by
  refine ⟨?_, ?_, ?_, ?_, ?_⟩
  · simp only [compile_alone_eq_error_iff]
    constructor
    · rintro ⟨error, h⟩
      obtain ⟨entry, hentry, herror⟩ := exists_declare_eq_error h
      exact ⟨entry, hentry, error, herror⟩
    · rintro ⟨entry, hentry, error, herror⟩
      cases hcompile : table.compile with
      | error other => exact ⟨other, rfl⟩
      | ok vocabulary =>
          obtain ⟨element, helement⟩ := exists_declare_of_compile hcompile hentry
          rw [herror] at helement
          cases helement
  · intro error
    simp only [exists_compile_alone_iff, compile_alone_eq_error_iff]
    exact compile_eq_error_iff
  · intro vocabulary h name
    have hfind := find?_of_compile h name
    split
    next entry hlast =>
      have hentry : entry ∈ table.elements := by simpa using List.mem_of_find?_eq_some hlast
      obtain ⟨element, helement⟩ := exists_declare_of_compile h hentry
      rw [hlast, Option.bind_some, helement] at hfind
      exact ⟨element, compile_alone_eq_ok_iff.mpr helement, hfind⟩
    next hlast =>
      rw [hlast] at hfind
      exact hfind
  · intro elements groups helements hgroups vocabulary
    exact compile_eq_ok_iff_of_rearrangement helements hgroups
  · rintro before old after hgroups ⟨later, hlater, hname⟩
    apply compile_congr
    rw [hgroups]
    exact Groups.members?_of_overridden hlater hname

/-- Two entries for one element, of which the second counts, and a group that is given twice. -/
def quoteTable : Table :=
  ⟨[("Q", "block tone"), ("br", "inline empty at"), ("q", "head only core(a|b)*")],
    [("at", "href"), ("all", "id"), ("at", "href/ lang")]⟩

def breakElement : ElementDecl :=
  ⟨"br", some .inline, true,
    [⟨"href", false, .uri⟩, ⟨"lang", false, .plain⟩, ⟨"id", false, .plain⟩]⟩

def quoteElement : ElementDecl := ⟨"q", some .head, false, [⟨"core", true, .oneOf ["a", "b"]⟩]⟩

def quoteVocabulary : Vocabulary := ⟨[breakElement, quoteElement]⟩

theorem compile_is_modular_quotes :
    quoteTable.compile = .ok quoteVocabulary ∧
      (∃ element, (quoteTable.alone ("q", "head only core(a|b)*")).compile = .ok ⟨[element]⟩ ∧
        quoteVocabulary.find? "Q" = some element) ∧
      (Table.mk
        [("br", "inline empty at"), ("Q", "block tone"), ("q", "head only core(a|b)*")]
        [("all", "id"), ("at", "href"), ("at", "href/ lang")]).compile = .ok quoteVocabulary ∧
      (Table.mk quoteTable.elements [("all", "id"), ("at", "href/ lang")]).compile =
        .ok quoteVocabulary := by
  have hentries : quoteTable.elements.mapM quoteTable.declare = .ok
      [⟨"q", some .block, false, [⟨"tone", false, .plain⟩, ⟨"id", false, .plain⟩]⟩, breakElement,
        quoteElement] := by decide +kernel
  have hcompile : quoteTable.compile = .ok quoteVocabulary :=
    compile_eq_ok_iff.mpr ⟨_, hentries, by decide +kernel⟩
  have hsame : Text.sameUpToCase "q" "Q" = true :=
    @Text.sameUpToCase_of_toLower_eq "q" "Q" "q" (by decide +kernel) (by decide +kernel)
  have hlast : quoteTable.last? "Q" = some ("q", "head only core(a|b)*") :=
    List.find?_cons_of_pos hsame
  have hmodular := compile_is_modular quoteTable
  refine ⟨hcompile, ?_, ?_, ?_⟩
  · have hquote := hmodular.2.2.1 quoteVocabulary hcompile "Q"
    rw [hlast] at hquote
    exact hquote
  · have hquote : keyOf ("Q", "block tone") = "q" := by decide +kernel
    have hbreak : keyOf ("br", "inline empty at") = "br" := by decide +kernel
    have helements : Keyed.IsRearrangement keyOf quoteTable.elements
        [("br", "inline empty at"), ("Q", "block tone"), ("q", "head only core(a|b)*")] :=
      .swap (by rw [hquote, hbreak]; decide) [] _
    have hgroups : Keyed.IsRearrangement Prod.fst quoteTable.groups
        [("all", "id"), ("at", "href"), ("at", "href/ lang")] := .swap (by decide) [] _
    exact (hmodular.2.2.2.1 _ _ helements hgroups quoteVocabulary).mpr hcompile
  · have hdrop := hmodular.2.2.2.2 [] ("at", "href") [("all", "id"), ("at", "href/ lang")] rfl
      ⟨("at", "href/ lang"), by simp, rfl⟩
    exact hdrop.trans hcompile

end Table

end CheckedMarkup
