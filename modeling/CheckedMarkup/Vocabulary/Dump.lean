import CheckedMarkup.Json.Printer
import CheckedMarkup.Vocabulary.Basic

/-! # Vocabularies as JSON

What tools are told about a vocabulary: one object from names to elements, in
which nothing is lost. A member that has nothing to say is left out.
-/

namespace CheckedMarkup

def AttributeDecl.toJson (decl : AttributeDecl) : Json.Value String :=
  .object <|
    [("name", .text decl.name), ("required", .bool decl.required),
      ("kind", .text decl.kind.name)] ++
    match decl.kind.options? with
    | some options => [("options", .array (options.map .text))]
    | none => []

def ElementDecl.toJson (element : ElementDecl) : Json.Value String :=
  .object <|
    ("name", .text element.name) ::
    (match element.position with
      | some position => [("position", .text position.keyword)]
      | none => []) ++
    [("empty", .bool element.isEmpty),
      ("attributes", .array (element.attributes.map AttributeDecl.toJson))]

/-- The JSON form of a vocabulary, in the order of the names. -/
def Vocabulary.toJson (vocabulary : Vocabulary) : Json.Value String :=
  .object (vocabulary.elements.map fun element => (element.name, element.toJson))

end CheckedMarkup
