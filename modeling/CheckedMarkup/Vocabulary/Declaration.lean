import CheckedMarkup.Keyed
import CheckedMarkup.Vocabulary.Position

/-! # Declarations

What a vocabulary says about one element: its place, whether it has content,
and its attributes in the order of their declaration.
-/

namespace CheckedMarkup

/-- The values that an attribute takes. Only `oneOf` and `switch` restrict them; the other kinds
say what the text is about. -/
inductive ValueKind where
  | plain
  /-- A switch is absent, or has its own name as its value. -/
  | switch
  | uri
  | contentType
  | charset
  | script
  /-- One of the listed texts, which are in lower case. -/
  | oneOf (options : List String)
deriving Repr, DecidableEq

namespace ValueKind

def name : ValueKind → String
  | plain => "plain"
  | switch => "boolean"
  | uri => "uri"
  | contentType => "content-type"
  | charset => "character-set"
  | script => "script"
  | oneOf _ => "enumerated"

/-- The texts that an enumerated attribute takes, as declared. -/
def options? : ValueKind → Option (List String)
  | oneOf options => some options
  | _ => none

/-- Whether a text in lower case is among the options. Without options every text is allowed. -/
def allows (kind : ValueKind) (value : String) : Bool :=
  match kind.options? with
  | some options => options.contains value
  | none => true

/-- The name of a kind tells all kinds apart that have no options. -/
theorem eq_of_name_eq {first second : ValueKind} (hname : first.name = second.name)
    (hoptions : first.options? = second.options?) : first = second := by
  cases first <;> cases second <;> simp_all [name, options?]

end ValueKind

structure AttributeDecl where
  name : String
  required : Bool
  kind : ValueKind
deriving Repr, DecidableEq

structure ElementDecl where
  name : String
  position : Option Position
  /-- An empty element never has content and is written as one tag. -/
  isEmpty : Bool
  attributes : List AttributeDecl
deriving Repr, DecidableEq

namespace ElementDecl

def attribute? (element : ElementDecl) (name : String) : Option AttributeDecl :=
  Keyed.find? AttributeDecl.name name element.attributes

def attributeNames (element : ElementDecl) : List String :=
  element.attributes.map AttributeDecl.name

/-- The attributes that every use of the element has to give, as declared. -/
def required (element : ElementDecl) : List AttributeDecl :=
  element.attributes.filter AttributeDecl.required

end ElementDecl

end CheckedMarkup
