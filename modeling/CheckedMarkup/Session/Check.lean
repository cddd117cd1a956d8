import CheckedMarkup.Session.Error
import CheckedMarkup.Tag.Basic
import CheckedMarkup.Vocabulary.Basic

/-! # Checking tags

A tag is checked against the declaration of its element before anything is
written. The checks come in a fixed order, and the first that fails gives the
reason. A tag that passes determines a template, whatever the escaper will be.
-/

namespace CheckedMarkup

/-- How a tag is used. -/
inductive Form where
  | whole
  /-- As an opening tag, whose content and closing tag come later. -/
  | opening
deriving Repr, DecidableEq

/-- An attribute that passed, as it will be written. -/
structure Written where
  name : String
  value : Piece
deriving Repr, DecidableEq

def Written.template (written : Written) : Template :=
  [.literal (" " ++ written.name ++ "=\""),
    match written.value with
    | .text raw => .value raw
    | .markup fragment => .literal fragment.text,
    .literal "\""]

namespace AttributeDecl

/-- The form in which a value of an attribute is written: a switch has its own name as its value,
and one of listed texts is in lower case. -/
def normalize (decl : AttributeDecl) (element value : String) : Except CallError String :=
  match decl.kind with
  | .switch =>
      if Text.sameUpToCase value decl.name then .ok decl.name
      else .error (.invalidSwitchValue element decl.name value)
  | .oneOf options =>
      if options.contains (Text.lowercase value) then .ok (Text.lowercase value)
      else .error (.invalidEnumValue element decl.name value options)
  | _ => .ok value

/-- The attribute as it will be written with a value, or nothing for a switch that is off. -/
def accept (decl : AttributeDecl) (element : String) :
    AttributeValue → Except CallError (Option Written)
  | .flag false => .ok none
  | .flag true =>
      if decl.kind = .switch then .ok (some ⟨decl.name, .text decl.name⟩)
      else .error (.notASwitch element decl.name)
  | .text raw => return some ⟨decl.name, .text (← decl.normalize element raw)⟩
  | .markup fragment => return some ⟨decl.name, .markup ⟨← decl.normalize element fragment.text⟩⟩

end AttributeDecl

namespace ElementDecl

def checkContent (element : ElementDecl) (form : Form) (tag : Tag) : Except CallError Unit :=
  if tag.hasConflictingContent then .error (.conflictingContent element.name)
  else match form with
    | .opening =>
        if element.isEmpty then .error (.cannotStartEmptyElement element.name)
        else if tag.hasContent then .error (.contentOnStart element.name)
        else .ok ()
    | .whole =>
        if element.isEmpty && tag.hasContent then .error (.contentOnEmptyElement element.name)
        else .ok ()

def checkAttribute (element : ElementDecl) (name : String) (value : AttributeValue) :
    Except CallError (Option Written) :=
  match element.attribute? name with
  | none => .error (.unknownAttribute element.name name element.attributeNames)
  | some decl => decl.accept element.name value

/-- Checks the supplied attributes in the order in which they were supplied. -/
def checkAttributes (element : ElementDecl) (attributes : Attributes) :
    Except CallError (List Written) :=
  return (← attributes.entries.mapM fun (name, value) =>
    element.checkAttribute name value).filterMap id

/-- The first required attribute that will not be written. -/
def missing? (element : ElementDecl) (written : List Written) : Option AttributeDecl :=
  element.required.find? fun decl => !(written.map Written.name).contains decl.name

/-- Checks a tag. Content comes first, then the supplied attributes, then the required ones. -/
def check (element : ElementDecl) (form : Form) (tag : Tag) : Except CallError (List Written) := do
  element.checkContent form tag
  let written ← element.checkAttributes tag.attributes
  match element.missing? written with
  | none => return written
  | some decl =>
      .error (.missingRequiredAttribute element.name decl.name (written.map Written.name))

def closingTag (name : String) : String := "</" ++ name ++ ">"

def template (element : ElementDecl) (form : Form) (written : List Written)
    (contents : List Piece) : Template :=
  .literal ("<" ++ element.name) :: written.flatMap Written.template ++
    match form with
    | .opening => [.literal ">"]
    | .whole =>
        if element.isEmpty then [.literal " />"]
        else .literal ">" :: contents.map Piece.leaf ++ [.literal (closingTag element.name)]

end ElementDecl

namespace Vocabulary

/-- The declaration that a name refers to. -/
def element (vocabulary : Vocabulary) (name : String) : Except CallError ElementDecl :=
  match vocabulary.find? name with
  | some element => .ok element
  | none => .error (.unknownElement name)

/-- Checks a tag against the vocabulary, and gives what it will write. -/
def template (vocabulary : Vocabulary) (form : Form) (tag : Tag) : Except CallError Template := do
  let element ← vocabulary.element tag.name
  return element.template form (← element.check form tag) tag.contents

end Vocabulary

end CheckedMarkup
