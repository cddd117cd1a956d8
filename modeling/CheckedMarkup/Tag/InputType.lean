/-! # Types of input fields

The types that an `input` element can be given when it is made.
-/

namespace CheckedMarkup

inductive InputType where
  | text
  | password
  | checkbox
  | radio
  | submit
  | reset
  | file
  | hidden
  | image
  | button
deriving Repr, DecidableEq

namespace InputType

def all : List InputType :=
  [text, password, checkbox, radio, submit, reset, file, hidden, image, button]

def name : InputType → String
  | text => "text"
  | password => "password"
  | checkbox => "checkbox"
  | radio => "radio"
  | submit => "submit"
  | reset => "reset"
  | file => "file"
  | hidden => "hidden"
  | image => "image"
  | button => "button"

/-- The type that a word names. -/
def ofName? (name : String) : Option InputType :=
  all.find? fun type => type.name == name

theorem mem_all (type : InputType) : type ∈ all := by
  cases type <;> decide

end InputType

end CheckedMarkup
