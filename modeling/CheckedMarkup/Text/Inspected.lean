import CheckedMarkup.Text.Quoted

/-! # Inspected values

A notation for values that shows how they are built: texts in quotes, lists in
brackets, and the parts of a value in parentheses or, with their names, in
braces.
-/

namespace CheckedMarkup.Text

def inspectedList (texts : List String) : String :=
  "[" ++ ", ".intercalate (texts.map quoted) ++ "]"

/-- A value made of one unnamed part. -/
def inspectedCall (head part : String) : String :=
  head ++ "(" ++ part ++ ")"

/-- A value made of named parts. -/
def inspectedRecord (head : String) (parts : List (String × String)) : String :=
  head ++ " \x7b " ++ ", ".intercalate (parts.map fun (name, part) => name ++ ": " ++ part)
    ++ " \x7d"

end CheckedMarkup.Text
