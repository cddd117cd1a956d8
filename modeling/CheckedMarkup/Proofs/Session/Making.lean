import CheckedMarkup.Proofs.Session.Checking
import CheckedMarkup.Proofs.Text.LowerCase

/-! # What a tag becomes

The markup of a tag that passed, as text: the name, the attributes one after the
other, and the content between an opening and a closing tag.
-/

namespace CheckedMarkup

open Fallible

/-- Attributes as they stand in a tag. -/
def attributesText (attributes : List (String × String)) : String :=
  String.join (attributes.map fun (name, value) => " " ++ name ++ "=\"" ++ value ++ "\"")

def Written.pair (escaper : Escaper) (written : Written) : String × String :=
  (written.name, match written.value with
    | .text raw => escaper.value raw
    | .markup fragment => fragment.text)

namespace ElementDecl

def openingTag (element : ElementDecl) (attributes : List (String × String)) : String :=
  "<" ++ element.name ++ attributesText attributes ++ ">"

def emptyTag (element : ElementDecl) (attributes : List (String × String)) : String :=
  "<" ++ element.name ++ attributesText attributes ++ " />"

def markup (element : ElementDecl) (form : Form) (attributes : List (String × String))
    (content : String) : String :=
  match form with
  | .opening => element.openingTag attributes
  | .whole =>
      if element.isEmpty then element.emptyTag attributes
      else element.openingTag attributes ++ content ++ closingTag element.name

end ElementDecl

/-- What an element writes of its attributes and around its content. -/
def ElementDecl.frame (element : ElementDecl) (form : Form) (written : List Written)
    (contents : Template) : Template :=
  .literal ("<" ++ element.name) :: written.flatMap Written.template ++
    match form with
    | .opening => [.literal ">"]
    | .whole =>
        if element.isEmpty then [.literal " />"]
        else .literal ">" :: contents ++ [.literal (closingTag element.name)]

/-! ## Templates as text -/

theorem Template.encode_cons (escaper : Escaper) (leaf : Leaf) (template : Template) :
    (Template.encode escaper (leaf :: template)).text =
      leaf.encode escaper ++ (Template.encode escaper template).text := by
  simp [Template.encode]

theorem encode_flatMap_template (escaper : Escaper) (written : List Written) :
    (Template.encode escaper (written.flatMap Written.template)).text =
      attributesText (written.map (Written.pair escaper)) := by
  induction written with
  | nil => rfl
  | cons first rest ih =>
      rw [List.flatMap_cons, Template.encode_append, ih]
      cases hvalue : first.value <;>
        simp [Written.template, Written.pair, hvalue, Template.encode, Leaf.encode, attributesText,
          String.append_assoc]

theorem Fragment.eq_of_text_eq {first second : Fragment} (h : first.text = second.text) :
    first = second := by
  cases first
  cases second
  exact congrArg Fragment.mk h

theorem encode_frame (escaper : Escaper) (element : ElementDecl) (form : Form)
    (written : List Written) (contents : Template) :
    (element.frame form written contents).encode escaper =
      ⟨element.markup form (written.map (Written.pair escaper))
        (contents.encode escaper).text⟩ := by
  apply Fragment.eq_of_text_eq
  unfold ElementDecl.frame
  rw [List.cons_append, Template.encode_cons, Template.encode_append, encode_flatMap_template]
  cases form with
  | opening =>
      simp [ElementDecl.markup, ElementDecl.openingTag, Template.encode, Leaf.encode,
        String.append_assoc]
  | whole =>
      cases hempty : element.isEmpty with
      | true =>
          simp [ElementDecl.markup, ElementDecl.emptyTag, hempty, Template.encode, Leaf.encode,
            String.append_assoc]
      | false =>
          simp only [hempty, Bool.false_eq_true, if_false, Template.encode_cons, List.cons_append,
            Template.encode_append, ElementDecl.markup, ElementDecl.openingTag, Leaf.encode]
          simp [Template.encode, String.append_assoc]

theorem encode_template (escaper : Escaper) (element : ElementDecl) (form : Form)
    (written : List Written) (contents : List Piece) :
    (element.template form written contents).encode escaper =
      ⟨element.markup form (written.map (Written.pair escaper))
        (Fragment.concat (contents.map (Piece.encode escaper))).text⟩ := by
  rw [← encode_map_leaf]
  exact encode_frame escaper element form written (contents.map Piece.leaf)

/-! ## Looking elements up -/

namespace Vocabulary

variable {vocabulary : Vocabulary} {name : String} {element : ElementDecl}

theorem mem_of_find? (h : vocabulary.find? name = some element) :
    element ∈ vocabulary.elements := by
  rcases find?_eq_some_iff.mp h with hexact | ⟨_, hlower⟩
  · exact Keyed.mem_of_find? hexact
  · exact Keyed.mem_of_find? hlower

/-- An element is declared under the name that it is looked up by, or under that in lower case. -/
theorem name_of_find? (h : vocabulary.find? name = some element) :
    element.name = name ∨ element.name = name.toLower := by
  rcases find?_eq_some_iff.mp h with hexact | ⟨_, hlower⟩
  · exact .inl (Keyed.key_eq_of_find? hexact)
  · exact .inr (Keyed.key_eq_of_find? hlower)

theorem sameUpToCase_of_find? (h : vocabulary.find? name = some element) :
    Text.sameUpToCase element.name name = true := by
  rcases name_of_find? h with hname | hname
  · rw [hname]
    exact Text.sameUpToCase_self name
  · rw [hname]
    exact Text.sameUpToCase_toLower name

theorem find?_name_of_find? (h : vocabulary.find? name = some element) :
    vocabulary.find? element.name = some element := by
  rcases find?_eq_some_iff.mp h with hexact | ⟨_, hlower⟩
  · rwa [Keyed.key_eq_of_find? hexact]
  · rw [find?_eq_some_iff, Keyed.key_eq_of_find? hlower]
    exact .inl hlower

/-- Whether what a name refers to is declared under the name in lower case. -/
def Lowers (vocabulary : Vocabulary) (name : String) : Prop :=
  ∀ element, vocabulary.find? name = some element → element.name = name.toLower

theorem lowers_of_toLower_eq (vocabulary : Vocabulary) (h : name.toLower = name) :
    vocabulary.Lowers name := by
  intro element hfind
  rcases name_of_find? hfind with hname | hname
  · rw [hname, h]
  · exact hname

theorem element_eq_ok_iff : vocabulary.element name = .ok element ↔
    vocabulary.find? name = some element := by
  unfold Vocabulary.element
  cases vocabulary.find? name <;> simp

end Vocabulary

/-! ## Making fragments -/

theorem Session.make_eq_ok_iff {session : Session} {form : Form} {tag : Tag}
    {fragment : Fragment} :
    session.make form tag = .ok fragment ↔
      ∃ element written, session.vocabulary.find? tag.name = some element ∧
        element.check form tag = .ok written ∧
        fragment = ⟨element.markup form (written.map (Written.pair session.escaper))
          (Fragment.concat (tag.contents.map (Piece.encode session.escaper))).text⟩ := by
  simp only [make, Vocabulary.template, bind_eq_ok_iff, Vocabulary.element_eq_ok_iff, pure_eq,
    Except.ok.injEq]
  constructor
  · intro hmake
    obtain ⟨_, ⟨element, hfind, written, hcheck, rfl⟩, rfl⟩ := hmake
    exact ⟨element, written, hfind, hcheck, encode_template ..⟩
  · intro hall
    obtain ⟨element, written, hfind, hcheck, rfl⟩ := hall
    exact ⟨_, ⟨element, hfind, written, hcheck, rfl⟩, encode_template ..⟩

end CheckedMarkup
