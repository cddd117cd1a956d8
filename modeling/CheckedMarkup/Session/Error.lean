/-! # Refused calls

Why a call is refused. A refused call changes nothing.
-/

namespace CheckedMarkup

inductive CallError where
  | unknownElement (name : String)
  | unknownAttribute (element name : String) (declared : List String)
  | invalidEnumValue (element name value : String) (options : List String)
  | notASwitch (element name : String)
  | invalidSwitchValue (element name value : String)
  | missingRequiredAttribute (element name : String) (supplied : List String)
  | contentOnEmptyElement (element : String)
  | cannotStartEmptyElement (element : String)
  | contentOnStart (element : String)
  | conflictingContent (element : String)
  | noOpenTags (requested : String)
  | mismatchedClose (requested expected : String)
  | unclosedTags (openTags : List String)
  | finished
deriving Repr, DecidableEq

namespace CallError

def listed (words : List String) : String := ", ".intercalate words

def listedOrNone (words : List String) : String :=
  if words.isEmpty then "none" else listed words

def message : CallError → String
  | unknownElement name => s!"<{name}> is not a known element"
  | unknownAttribute element name declared =>
      s!"<{element}> has no attribute '{name}' (only {listed declared})"
  | invalidEnumValue element name value options =>
      let texts := listed options
      s!"in <{element} {name}=\"{value}\">: value of attribute {name} must be one of {texts}"
  | notASwitch element name =>
      s!"in <{element}>: attribute {name} takes a value, not an on/off switch"
  | invalidSwitchValue element name value =>
      s!"in <{element} {name}=\"{value}\">: switch attribute {name} takes " ++
        "true, false or its own name"
  | missingRequiredAttribute element name supplied =>
      s!"<{element}> requires a value for the '{name}' attribute " ++
        s!"(only given attributes {listedOrNone supplied})"
  | contentOnEmptyElement element =>
      s!"<{element} /> is an empty element and cannot contain any content"
  | cannotStartEmptyElement element =>
      s!"<{element} /> is an empty element; it cannot just be started"
  | contentOnStart element => s!"for <{element}>: a tag that is only started cannot include content"
  | conflictingContent element =>
      s!"for <{element}>: give either separate content pieces or one bulk content list, not both"
  | noOpenTags requested => s!"cannot close </{requested}>: there are no tags waiting to be closed"
  | mismatchedClose requested expected =>
      s!"cannot close </{requested}>: other open tags still need to be closed " ++
        s!"(<{expected}> is next)"
  | unclosedTags openTags => s!"tags still need to be closed ({listed openTags})"
  | finished => "the markup stream has already been finished"

end CallError

end CheckedMarkup
