import CheckedMarkup.Vocabulary.Basic
import CheckedMarkup.Vocabulary.Groups

/-! # Shorthand

An element is described by words: a position class, `empty` for an element
without content, `only` for one without the common attributes, and otherwise
the attributes and groups of attributes that it has.
-/

namespace CheckedMarkup

/-- The group whose attributes every element gets that is not marked `only`. -/
def commonGroup : String := "all"

structure Draft where
  position : Option Position
  isEmpty : Bool
  only : Bool
  attributes : List AttributeDecl
deriving Repr, DecidableEq

namespace Draft

def blank : Draft := ⟨none, false, false, []⟩

/-- Declares attributes; a later declaration takes the place of an earlier one of its name. -/
def declare (draft : Draft) (attributes : List AttributeDecl) : Draft :=
  { draft with
    attributes := attributes.foldl (fun all decl => Keyed.put AttributeDecl.name decl all)
      draft.attributes }

/-- Declares those attributes that have no declaration yet. -/
def complete (draft : Draft) (attributes : List AttributeDecl) : Draft :=
  { draft with
    attributes := attributes.foldl (fun all decl => Keyed.putNew AttributeDecl.name decl all)
      draft.attributes }

/-- Sets the position class. A class may be named twice, but not two classes. -/
def place (draft : Draft) (name : String) (position : Position) : Except VocabularyError Draft :=
  match draft.position with
  | none => .ok { draft with position := some position }
  | some first =>
      if first = position then .ok draft else .error (.conflictingPosition name first position)

def read (groups : Groups) (name : String) (draft : Draft) (word : String) :
    Except VocabularyError Draft :=
  match Position.ofKeyword? word with
  | some position => draft.place name position
  | none =>
      if word = "empty" then .ok { draft with isEmpty := true }
      else if word = "only" then .ok { draft with only := true }
      else return draft.declare (← groups.expand name.toLower [] word)

/-- The element of a finished draft, with the common attributes if it gets them. -/
def finish (groups : Groups) (name : String) (draft : Draft) :
    Except VocabularyError ElementDecl := do
  let draft ←
    if draft.only || (groups.members? commonGroup).isNone then pure draft
    else pure (draft.complete (← groups.expand name.toLower [] commonGroup))
  return ⟨name.toLower, draft.position, draft.isEmpty, draft.attributes⟩

end Draft

/-- The declaration of the element `name` that a shorthand text describes. -/
def ElementDecl.compile (groups : Groups) (name shorthand : String) :
    Except VocabularyError ElementDecl :=
  if isName name then do
    let draft ← (Text.words shorthand).foldlM (Draft.read groups name) .blank
    draft.finish groups name
  else .error (.invalidElementName name)

end CheckedMarkup
