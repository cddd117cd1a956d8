/-! # JSON values

A value of the data format. Its strings are of any type `σ`: a document that is
read may spell strings that are no text, while a document that is written holds
texts only.
-/

namespace CheckedMarkup.Json

/-- A JSON value. The members of an object are kept in written order, repeats included, and a
number is kept as it is spelled. -/
inductive Value (σ : Type) where
  | null
  | bool (truth : Bool)
  | number (numeral : String)
  | text (content : σ)
  | array (items : List (Value σ))
  | object (members : List (σ × Value σ))
deriving Repr

end CheckedMarkup.Json
