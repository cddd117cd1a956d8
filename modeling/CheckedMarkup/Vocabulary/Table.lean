import CheckedMarkup.Json.Reader
import CheckedMarkup.Log
import CheckedMarkup.Vocabulary.Shorthand

/-! # Tables of elements

A table lists elements and groups by name, each with its shorthand. It is
compiled into a vocabulary entry by entry; the first defect ends compilation. A
table can be read from a JSON document.
-/

namespace CheckedMarkup

/-- Elements and groups with their shorthand, in written order. -/
structure Table where
  elements : List (String × String)
  groups : List (String × String)
deriving Repr, DecidableEq

namespace Table

/-- The vocabulary of a table. A later element takes the place of an earlier one of its name. -/
def compile (table : Table) : Except VocabularyError Vocabulary :=
  table.elements.foldlM
    (fun vocabulary (name, shorthand) =>
      return vocabulary.insert (← ElementDecl.compile ⟨table.groups⟩ name shorthand))
    .empty

def ofText? : Json.Value Json.Spelled → Option String
  | .text content => content
  | _ => none

/-- The entries of a JSON object of texts, in the order of their names. Of a name that is
repeated the last entry counts. -/
def ofEntries? : Json.Value Json.Spelled → Option (List (String × String))
  | .object members => do
      let entries ← members.mapM fun (key, value) => return (← key, ← ofText? value)
      return Keyed.sorted Prod.fst entries
  | _ => none

def membersNamed (name : String) (members : List (Json.Spelled × Json.Value Json.Spelled)) :
    List (Json.Value Json.Spelled) :=
  (members.filter fun (key, _) => key == some name).map Prod.snd

/-- The table that a JSON value holds: an object with members `elements` and, if there are groups,
`groups`, each given once; or the two in an array. Other members are ignored, but every key has
to spell a text. -/
def ofValue? : Json.Value Json.Spelled → Option Table
  | .object members =>
      if members.all fun (key, _) => key.isSome then
        match membersNamed "elements" members, membersNamed "groups" members with
        | [elements], [] => return ⟨← ofEntries? elements, []⟩
        | [elements], [groups] => return ⟨← ofEntries? elements, ← ofEntries? groups⟩
        | _, _ => none
      else none
  | .array [elements] => return ⟨← ofEntries? elements, []⟩
  | .array [elements, groups] => return ⟨← ofEntries? elements, ← ofEntries? groups⟩
  | _ => none

def read (document : String) : Except VocabularyError Table :=
  match (Json.read document).bind ofValue? with
  | some table => .ok table
  | none => .error .unreadable

end Table

def Vocabulary.announcement (vocabulary : Vocabulary) : Log.Entry :=
  .compiled vocabulary.size vocabulary.attributeCount

end CheckedMarkup
