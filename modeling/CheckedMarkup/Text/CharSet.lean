/-! # Sets of characters given by ranges

A property of characters that no formula describes is kept as the list of the
ranges of code points that have it.
-/

namespace CheckedMarkup.Text

/-- The code points from `first` to `last`, both included. -/
structure CharRange where
  first : Nat
  last : Nat
deriving Repr, DecidableEq

/-- A set of characters, as the ranges of code points that it is made of. -/
abbrev CharSet := List CharRange

namespace CharSet

def hasCode (set : CharSet) (code : Nat) : Bool :=
  set.any fun range => range.first ≤ code && code ≤ range.last

def has (set : CharSet) (c : Char) : Bool :=
  set.hasCode c.toNat

end CharSet

end CheckedMarkup.Text
