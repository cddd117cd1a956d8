import CheckedMarkup.Vocabulary.Declaration

/-! # Vocabularies

A vocabulary is the set of elements that markup may use. Names of elements are
looked up without regard to the case of ASCII letters, and the elements are
listed in the order of the code points of their names.
-/

namespace CheckedMarkup

/-- Declared elements, in the order of their names. -/
structure Vocabulary where
  elements : List ElementDecl
deriving Repr, DecidableEq

namespace Vocabulary

def empty : Vocabulary := ⟨[]⟩

/-- Adds an element; it takes the place of an earlier one of its name. -/
def insert (vocabulary : Vocabulary) (element : ElementDecl) : Vocabulary :=
  ⟨Keyed.putSorted ElementDecl.name element vocabulary.elements⟩

/-- The element of a name as it stands, or else of the name in lower case. -/
def find? (vocabulary : Vocabulary) (name : String) : Option ElementDecl :=
  match Keyed.find? ElementDecl.name name vocabulary.elements with
  | some element => some element
  | none => Keyed.find? ElementDecl.name name.toLower vocabulary.elements

def contains (vocabulary : Vocabulary) (name : String) : Bool :=
  (vocabulary.find? name).isSome

def names (vocabulary : Vocabulary) : List String :=
  vocabulary.elements.map ElementDecl.name

def elementsAt (vocabulary : Vocabulary) (position : Position) : List ElementDecl :=
  vocabulary.elements.filter fun element => element.position = some position

def size (vocabulary : Vocabulary) : Nat := vocabulary.elements.length

def isEmpty (vocabulary : Vocabulary) : Bool := vocabulary.elements.isEmpty

def attributeCount (vocabulary : Vocabulary) : Nat :=
  (vocabulary.elements.flatMap ElementDecl.attributes).length

variable {vocabulary : Vocabulary} {name : String} {element : ElementDecl}

theorem find?_eq_some_iff :
    vocabulary.find? name = some element ↔
      Keyed.find? ElementDecl.name name vocabulary.elements = some element ∨
        Keyed.find? ElementDecl.name name vocabulary.elements = none ∧
          Keyed.find? ElementDecl.name name.toLower vocabulary.elements = some element := by
  unfold find?
  cases Keyed.find? ElementDecl.name name vocabulary.elements <;> simp

end Vocabulary

end CheckedMarkup
