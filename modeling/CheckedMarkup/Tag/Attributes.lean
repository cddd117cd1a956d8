import CheckedMarkup.Decimal.Shortest
import CheckedMarkup.Keyed
import CheckedMarkup.Markup.Fragment
import CheckedMarkup.Text.Lowercase

/-! # Supplied attributes

The attributes that are given to one element, in the order in which their names
were first given. Names are kept in lower case. Giving a name again changes its
value and not its place.
-/

namespace CheckedMarkup

inductive AttributeValue where
  /-- Plain text, to be escaped. -/
  | text (raw : String)
  /-- Trusted markup, to be written as it is. -/
  | markup (fragment : Fragment)
  /-- A switch: `true` stands for the name of the attribute, `false` for its absence. -/
  | flag (on : Bool)
deriving Repr, DecidableEq

namespace AttributeValue

def ofInt (number : Int) : AttributeValue := .text (toString number)

/-- A double in the fewest decimal digits. -/
def ofFloat (number : Float) : AttributeValue := .text (Decimal.floatText number)

def ofFloat32 (number : Float32) : AttributeValue := .text (Decimal.float32Text number)

end AttributeValue

structure Attributes where
  entries : List (String × AttributeValue)
deriving Repr, DecidableEq

namespace Attributes

def empty : Attributes := ⟨[]⟩

def insert (attributes : Attributes) (name : String) (value : AttributeValue) : Attributes :=
  ⟨Keyed.put Prod.fst (Text.lowercase name, value) attributes.entries⟩

def insert? (attributes : Attributes) (name : String) (value : Option AttributeValue) :
    Attributes :=
  match value with
  | some value => attributes.insert name value
  | none => attributes

def find? (attributes : Attributes) (name : String) : Option AttributeValue :=
  (Keyed.find? Prod.fst (Text.lowercase name) attributes.entries).map Prod.snd

def contains (attributes : Attributes) (name : String) : Bool :=
  (attributes.find? name).isSome

def erase (attributes : Attributes) (name : String) : Attributes :=
  ⟨Keyed.erase Prod.fst (Text.lowercase name) attributes.entries⟩

/-- Takes an attribute away, and gives the value that it had. -/
def remove (attributes : Attributes) (name : String) : Option AttributeValue × Attributes :=
  (attributes.find? name, attributes.erase name)

def insertAll (attributes : Attributes) (pairs : List (String × AttributeValue)) : Attributes :=
  pairs.foldl (fun attributes (name, value) => attributes.insert name value) attributes

def ofList (pairs : List (String × AttributeValue)) : Attributes :=
  empty.insertAll pairs

/-- Adds other attributes, whose values win. -/
def merge (attributes others : Attributes) : Attributes :=
  attributes.insertAll others.entries

def size (attributes : Attributes) : Nat := attributes.entries.length

def isEmpty (attributes : Attributes) : Bool := attributes.entries.isEmpty

/-- Giving a value changes what is found under the lower-case form of the name. -/
theorem find?_insert (attributes : Attributes) (name other : String) (value : AttributeValue) :
    (attributes.insert name value).find? other =
      if Text.lowercase name = Text.lowercase other then some value
      else attributes.find? other := by
  simp only [find?, insert, Keyed.find?_put]
  split <;> rfl

end Attributes

end CheckedMarkup
