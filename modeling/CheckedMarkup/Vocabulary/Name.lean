/-! # Names

The names of elements and attributes use a small alphabet, so that a name can
stand in markup, in quotes and in messages as it is.
-/

namespace CheckedMarkup

/-- The characters of names: ASCII letters and digits, and four marks. -/
def isNameChar (c : Char) : Bool :=
  c.isAlphanum || c = '-' || c = '_' || c = ':' || c = '.'

def isName (text : String) : Bool :=
  !text.isEmpty && text.toList.all isNameChar

end CheckedMarkup
