import CheckedMarkup.Text.Lowercase
import CheckedMarkup.Text.Quoted
import CheckedMarkup.Text.Words
import CheckedMarkup.Vocabulary.Declaration
import CheckedMarkup.Vocabulary.Name

/-! # Attribute descriptors

A descriptor is a name followed by markers: `href/*` is a required address,
`checked?` a switch, `align(left|right)` one of two texts. Its markers may come
in any order and may be repeated, as long as they agree.
-/

namespace CheckedMarkup

/-- What may follow the name of an attribute. -/
inductive Marker where
  | required
  | switch
  | contentType
  | charset
  | script
  | uri
  | options (texts : List String)
deriving Repr, DecidableEq

/-- The characters of an option: neither blank nor one of the marks of an option list. -/
def isOptionChar (c : Char) : Bool :=
  !Text.isBlank c && c != '(' && c != ')' && c != '|'

/-- The texts between the bars of an option list, if each is an option. -/
def splitOptions? (inside : List Char) : Option (List String) :=
  let parts := Text.fields (· == '|') inside
  if parts.all fun part => !part.isEmpty && part.all isOptionChar then
    some (parts.map String.ofList)
  else none

namespace Marker

/-- The marker at the front of a text, and what follows it. The address slash is read only where
no longer marker starts. -/
def read? : List Char → Option (Marker × List Char)
  | '*' :: rest => some (required, rest)
  | '?' :: rest => some (switch, rest)
  | '/' :: 't' :: rest => some (contentType, rest)
  | '/' :: 'c' :: rest => some (charset, rest)
  | '/' :: 'j' :: rest => some (script, rest)
  | '/' :: rest => some (uri, rest)
  | '(' :: rest =>
      match rest.dropWhile (· != ')') with
      | [] => none
      | _ :: after => (splitOptions? (rest.takeWhile (· != ')'))).map fun texts =>
          (options texts, after)
  | _ => none

theorem length_lt_of_read? {text rest : List Char} {marker : Marker}
    (h : read? text = some (marker, rest)) : rest.length < text.length := by
  unfold read? at h
  split at h
  case h_7 inside =>
    split at h
    · simp at h
    · next c after hdrop =>
      have hlength := (List.dropWhile_sublist (· != ')') (l := inside)).length_le
      simp only [Option.map_eq_some_iff, Prod.mk.injEq] at h
      obtain ⟨_, _, _, rfl⟩ := h
      rw [hdrop] at hlength
      simp only [List.length_cons] at hlength ⊢
      omega
  case h_8 => simp at h
  all_goals
    simp only [Option.some.injEq, Prod.mk.injEq] at h
    obtain ⟨_, rfl⟩ := h
    simp only [List.length_cons]
    omega

/-- The kind of value that a marker asks for. Options are kept in lower case. -/
def kind? : Marker → Option ValueKind
  | required => none
  | switch => some .switch
  | contentType => some .contentType
  | charset => some .charset
  | script => some .script
  | uri => some .uri
  | options texts => some (.oneOf (texts.map Text.lowercase))

/-- All markers at the front of a text, and what follows the last. -/
def readAll (text : List Char) : List Marker × List Char :=
  match h : read? text with
  | none => ([], text)
  | some (marker, rest) =>
      have := length_lt_of_read? h
      let (markers, after) := readAll rest
      (marker :: markers, after)
termination_by text.length

end Marker

structure Descriptor where
  name : String
  markers : List Marker
deriving Repr, DecidableEq

inductive TokenFault where
  | noName (token : String)
  /-- What follows the name and the markers starts no marker. -/
  | unreadMarkers (rest : String)
deriving Repr, DecidableEq

def TokenFault.reason : TokenFault → String
  | .noName token =>
      "Parsing Error: Error \x7b input: " ++ Text.quoted token ++ ", code: TakeWhile1 \x7d"
  | .unreadMarkers rest =>
      "Parsing Error: Error \x7b input: " ++ Text.quoted rest ++ ", code: Eof \x7d"

def Descriptor.read (token : String) : Except TokenFault Descriptor :=
  let name := token.toList.takeWhile isNameChar
  if name.isEmpty then .error (.noName token)
  else
    let (markers, rest) := Marker.readAll (token.toList.dropWhile isNameChar)
    if rest.isEmpty then .ok ⟨String.ofList name, markers⟩
    else .error (.unreadMarkers (String.ofList rest))

inductive MarkerConflict where
  | secondOptionList
  | kinds (first second : ValueKind)
  | requiredSwitch
deriving Repr, DecidableEq

def MarkerConflict.reason : MarkerConflict → String
  | .secondOptionList => "more than one option list"
  | .kinds first second => s!"both {first.name} and {second.name}"
  | .requiredSwitch => "a boolean switch cannot be required"

structure Marking where
  required : Bool
  kind : Option ValueKind
deriving Repr, DecidableEq

namespace Marking

def blank : Marking := ⟨false, none⟩

/-- Takes in one marker. A kind may be named twice, an option list may not. -/
def add (marking : Marking) (marker : Marker) : Except MarkerConflict Marking :=
  match marker.kind?, marking.kind with
  | none, _ => .ok { marking with required := true }
  | some kind, none => .ok { marking with kind := some kind }
  | some (.oneOf _), some (.oneOf _) => .error .secondOptionList
  | some kind, some earlier =>
      if kind = earlier then .ok marking else .error (.kinds earlier kind)

end Marking

/-- The attribute that a descriptor declares. Its name is kept in lower case. -/
def Descriptor.resolve (descriptor : Descriptor) : Except MarkerConflict AttributeDecl := do
  let marking ← descriptor.markers.foldlM Marking.add .blank
  let kind := marking.kind.getD .plain
  if marking.required && kind = .switch then .error .requiredSwitch
  else return ⟨descriptor.name.toLower, marking.required, kind⟩

end CheckedMarkup
