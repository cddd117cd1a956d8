/-! # Position classes

Where an element is meant to stand. The class is advice for readers of a
vocabulary: nothing is refused because of it.
-/

namespace CheckedMarkup

/-- The class of places where an element is meant to stand. -/
inductive Position where
  | block
  | head
  | inline
deriving Repr, DecidableEq

namespace Position

def keyword : Position → String
  | block => "block"
  | head => "head"
  | inline => "inline"

/-- The class that a word names. The word has to be in lower case. -/
def ofKeyword? (word : String) : Option Position :=
  if word = "block" then some block
  else if word = "head" then some head
  else if word = "inline" then some inline
  else none

@[simp] theorem ofKeyword?_keyword (position : Position) :
    ofKeyword? position.keyword = some position := by
  cases position <;> rfl

structure Unknown where
  word : String
deriving Repr, DecidableEq

def Unknown.message (unknown : Unknown) : String :=
  s!"unknown position class '{unknown.word}' (expected block, head or inline)"

/-- The class that a user's word names, in any case of its letters. -/
def parse (word : String) : Except Unknown Position :=
  match ofKeyword? word.toLower with
  | some position => .ok position
  | none => .error ⟨word⟩

end Position

end CheckedMarkup
