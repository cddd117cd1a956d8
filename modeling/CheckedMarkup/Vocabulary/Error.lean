import CheckedMarkup.Vocabulary.Descriptor

/-! # Errors of a vocabulary

Why a table of elements cannot be compiled. Tables are written ahead of use, so
each of these is a defect of the table.
-/

namespace CheckedMarkup

/-- The first defect that was found in a table. -/
inductive VocabularyError where
  | malformedToken (element token : String) (fault : TokenFault)
  | conflictingMarkers (element token : String) (conflict : MarkerConflict)
  | conflictingPosition (element : String) (first second : Position)
  /-- A group that includes itself; the trail leads from the outermost group back to it. -/
  | groupCycle (element group : String) (trail : List String)
  | invalidElementName (name : String)
  | unreadable
deriving Repr, DecidableEq

def VocabularyError.message : VocabularyError → String
  | malformedToken element token fault =>
      s!"<{element}>: malformed attribute token '{token}': {fault.reason}"
  | conflictingMarkers element token conflict =>
      s!"<{element}>: conflicting markers in '{token}': {conflict.reason}"
  | conflictingPosition element first second =>
      s!"<{element}>: conflicting position classes '{first.keyword}' and '{second.keyword}'"
  | groupCycle element group trail =>
      let path := " -> ".intercalate trail
      s!"<{element}>: attribute group '{group}' includes itself ({path})"
  | invalidElementName name => s!"'{name}' is not a valid element name"
  | unreadable => "Schema configuration JSON error"

end CheckedMarkup
