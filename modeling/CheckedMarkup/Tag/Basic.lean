import CheckedMarkup.Markup.Template
import CheckedMarkup.Tag.Attributes
import CheckedMarkup.Tag.InputType

/-! # Tags

A tag describes one use of an element: its name, its attributes and its
content. Content is given piece by piece or as one list; a tag that was given
both is refused when it is used.
-/

namespace CheckedMarkup

/-- One use of an element. -/
structure Tag where
  name : String
  attributes : Attributes
  pieces : List Piece
  bulk : Option (List Piece)
  /-- The type of an input field that was made with one. It never changes. -/
  fixedType : Option InputType
deriving Repr, DecidableEq

namespace Tag

def named (name : String) : Tag := ⟨name, .empty, [], none, none⟩

def input (type : InputType) : Tag :=
  ⟨"input", Attributes.empty.insert "type" (.text type.name), [], none, some type⟩

/-- Whether an attribute may not be given, because the tag was made with its value. -/
def fixes (tag : Tag) (name : String) : Bool :=
  tag.fixedType.isSome && Text.sameUpToCase name "type"

def attr (tag : Tag) (name : String) (value : AttributeValue) : Tag :=
  if tag.fixes name then tag else { tag with attributes := tag.attributes.insert name value }

def attr? (tag : Tag) (name : String) (value : Option AttributeValue) : Tag :=
  match value with
  | some value => tag.attr name value
  | none => tag

def attrs (tag : Tag) (attributes : Attributes) : Tag :=
  attributes.entries.foldl (fun tag (name, value) => tag.attr name value) tag

def child (tag : Tag) (piece : Piece) : Tag :=
  { tag with pieces := tag.pieces ++ [piece] }

def text (tag : Tag) (raw : String) : Tag := tag.child (.text raw)

def markup (tag : Tag) (fragment : Fragment) : Tag := tag.child (.markup fragment)

/-- Gives the content as one list, or adds to it. -/
def children (tag : Tag) (pieces : List Piece) : Tag :=
  { tag with bulk := some (tag.bulk.getD [] ++ pieces) }

def hasConflictingContent (tag : Tag) : Bool :=
  tag.bulk.isSome && !tag.pieces.isEmpty

/-- The content, in whichever way it was given. -/
def contents (tag : Tag) : List Piece := tag.bulk.getD tag.pieces

/-- Whether some piece of the content is not empty. -/
def hasContent (tag : Tag) : Bool :=
  tag.contents.any fun piece => !piece.isEmpty

end Tag

end CheckedMarkup
