import CheckedMarkup.Session.Error
import CheckedMarkup.Text.Inspected
import CheckedMarkup.Vocabulary.Error

/-! # Failures of the command

Everything that ends the command before it has done its work, with a message
for readers and an inspected form for the terminal.
-/

namespace CheckedMarkup

open Text

namespace Position

def inspected : Position → String
  | block => "Block"
  | head => "Head"
  | inline => "Inline"

end Position

namespace VocabularyError

def kind : VocabularyError → String
  | malformedToken .. => "MalformedToken"
  | conflictingMarkers .. => "ConflictingMarkers"
  | conflictingPosition .. => "ConflictingPosition"
  | groupCycle .. => "GroupCycle"
  | invalidElementName _ => "InvalidElementName"
  | unreadable => "Json"

def inspected (error : VocabularyError) : String :=
  match error with
  | malformedToken element token fault =>
      inspectedRecord error.kind
        [("element", quoted element), ("token", quoted token), ("reason", quoted fault.reason)]
  | conflictingMarkers element token conflict =>
      inspectedRecord error.kind
        [("element", quoted element), ("token", quoted token), ("reason", quoted conflict.reason)]
  | conflictingPosition element first second =>
      inspectedRecord error.kind
        [("element", quoted element), ("first", first.inspected), ("second", second.inspected)]
  | groupCycle element group trail =>
      inspectedRecord error.kind
        [("element", quoted element), ("group", quoted group), ("trail", inspectedList trail)]
  | invalidElementName name => inspectedCall error.kind (quoted name)
  | unreadable => inspectedCall error.kind (quoted error.message)

end VocabularyError

namespace CallError

def kind : CallError → String
  | unknownElement _ => "UnknownElement"
  | unknownAttribute .. => "UnknownAttribute"
  | invalidEnumValue .. => "InvalidEnumValue"
  | notASwitch .. => "NotASwitch"
  | invalidSwitchValue .. => "InvalidSwitchValue"
  | missingRequiredAttribute .. => "MissingRequiredAttribute"
  | contentOnEmptyElement _ => "ContentOnEmptyElement"
  | cannotStartEmptyElement _ => "CannotStartEmptyElement"
  | contentOnStart _ => "ContentOnStart"
  | conflictingContent _ => "ConflictingContent"
  | noOpenTags _ => "NoOpenTags"
  | mismatchedClose .. => "MismatchedClose"
  | unclosedTags _ => "UnclosedTags"
  | finished => "Finished"

def inspected (error : CallError) : String :=
  match error with
  | unknownElement name => inspectedCall error.kind (quoted name)
  | unknownAttribute element name declared =>
      inspectedRecord error.kind
        [("element", quoted element), ("attribute", quoted name), ("valid", inspectedList declared)]
  | invalidEnumValue element name value options =>
      inspectedRecord error.kind
        [("element", quoted element), ("attribute", quoted name), ("value", quoted value),
          ("options", inspectedList options)]
  | notASwitch element name =>
      inspectedRecord error.kind [("element", quoted element), ("attribute", quoted name)]
  | invalidSwitchValue element name value =>
      inspectedRecord error.kind
        [("element", quoted element), ("attribute", quoted name), ("value", quoted value)]
  | missingRequiredAttribute element name supplied =>
      inspectedRecord error.kind
        [("element", quoted element), ("attribute", quoted name),
          ("supplied", inspectedList supplied)]
  | contentOnEmptyElement element => inspectedCall error.kind (quoted element)
  | cannotStartEmptyElement element => inspectedCall error.kind (quoted element)
  | contentOnStart element => inspectedCall error.kind (quoted element)
  | conflictingContent element => inspectedCall error.kind (quoted element)
  | noOpenTags requested => inspectedCall error.kind (quoted requested)
  | mismatchedClose requested expected =>
      inspectedRecord error.kind [("requested", quoted requested), ("expected", quoted expected)]
  | unclosedTags openTags => inspectedCall error.kind (inspectedList openTags)
  | finished => error.kind

end CallError

inductive FileError where
  /-- The system refused, with its number, name and text for the reason. -/
  | system (code : Nat) (kind message : String)
  | notText
deriving Repr, DecidableEq

namespace FileError

def notFound : FileError := system 2 "NotFound" "No such file or directory"

def message : FileError → String
  | system code _ message => s!"{message} (os error {code})"
  | notText => "stream did not contain valid UTF-8"

def inspected : FileError → String
  | system code kind message =>
      inspectedRecord "Os" [("code", toString code), ("kind", kind), ("message", quoted message)]
  | notText =>
      inspectedRecord "Error" [("kind", "InvalidData"), ("message", quoted notText.message)]

end FileError

inductive Failure where
  | vocabulary (error : VocabularyError)
  | call (error : CallError)
  | file (error : FileError)
  | unknownElement (name : String)
deriving Repr, DecidableEq

namespace Failure

def message : Failure → String
  | vocabulary error => s!"Schema error: {error.message}"
  | call error => s!"Markup error: {error.message}"
  | file error => s!"I/O error: {error.message}"
  | unknownElement name => s!"Unknown element: <{name}>"

def inspected : Failure → String
  | vocabulary error => inspectedCall "Schema" error.inspected
  | call error => inspectedCall "Stream" error.inspected
  | file error => inspectedCall "Io" error.inspected
  | unknownElement name => inspectedCall "UnknownElement" (quoted name)

end Failure

end CheckedMarkup
