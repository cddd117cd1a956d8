import CheckedMarkup.Proofs.Fallible
import CheckedMarkup.Proofs.Keyed
import CheckedMarkup.Vocabulary.Table

/-! # Tables, entry by entry

A table is compiled just if each of its entries is, and the elements then stand
in the order of their names. What it is refused for is wrong with one entry.
-/

namespace CheckedMarkup.Table

open Fallible

variable {table : Table} {vocabulary : Vocabulary} {entry : String × String}

/-- The element that an entry of the table describes. -/
def declare (table : Table) (entry : String × String) : Except VocabularyError ElementDecl :=
  ElementDecl.compile ⟨table.groups⟩ entry.1 entry.2

theorem foldl_insert (elements : List ElementDecl) (vocabulary : Vocabulary) :
    elements.foldl Vocabulary.insert vocabulary =
      ⟨elements.foldl (fun rest element => Keyed.putSorted ElementDecl.name element rest)
        vocabulary.elements⟩ := by
  induction elements generalizing vocabulary with
  | nil => rfl
  | cons element rest ih => exact ih (vocabulary.insert element)

theorem compile_eq_mapM (table : Table) :
    table.compile =
      (return ⟨Keyed.sorted ElementDecl.name (← table.elements.mapM table.declare)⟩) := by
  have hfold := foldlM_eq_mapM table.declare Vocabulary.insert table.elements .empty
  simp only [foldl_insert] at hfold
  exact hfold

theorem compile_eq_ok_iff :
    table.compile = .ok vocabulary ↔
      ∃ elements, table.elements.mapM table.declare = .ok elements ∧
        vocabulary = ⟨Keyed.sorted ElementDecl.name elements⟩ := by
  simp only [compile_eq_mapM, bind_eq_ok_iff, pure_eq, Except.ok.injEq]
  constructor
  · rintro ⟨elements, hall, rfl⟩
    exact ⟨elements, hall, rfl⟩
  · rintro ⟨elements, hall, rfl⟩
    exact ⟨elements, hall, rfl⟩

/-- Every element of a compiled table comes from one of its entries. -/
theorem exists_declare_of_mem (h : table.compile = .ok vocabulary) {element : ElementDecl}
    (helement : element ∈ vocabulary.elements) :
    ∃ entry ∈ table.elements, table.declare entry = .ok element := by
  obtain ⟨elements, hall, rfl⟩ := compile_eq_ok_iff.mp h
  exact exists_of_mem_mapM hall (Keyed.mem_of_mem_sorted helement)

theorem exists_declare_of_compile (h : table.compile = .ok vocabulary)
    (hentry : entry ∈ table.elements) : ∃ element, table.declare entry = .ok element := by
  obtain ⟨elements, hall, _⟩ := compile_eq_ok_iff.mp h
  have hmem := List.mem_map_of_mem (f := table.declare) hentry
  rw [mapM_eq_ok_iff.mp hall] at hmem
  obtain ⟨element, _, helement⟩ := List.mem_map.mp hmem
  exact ⟨element, helement.symm⟩

theorem exists_declare_eq_error {error : VocabularyError} (h : table.compile = .error error) :
    ∃ entry ∈ table.elements, table.declare entry = .error error := by
  rw [compile_eq_mapM] at h
  cases hall : table.elements.mapM table.declare with
  | ok elements => simp [hall] at h
  | error other =>
      rw [hall, bind_error, Except.error.injEq] at h
      subst h
      exact exists_of_mapM_eq_error hall

theorem pairwise_names (h : table.compile = .ok vocabulary) :
    vocabulary.names.Pairwise (· < ·) := by
  obtain ⟨elements, _, rfl⟩ := compile_eq_ok_iff.mp h
  exact Keyed.pairwise_sorted elements

end CheckedMarkup.Table
