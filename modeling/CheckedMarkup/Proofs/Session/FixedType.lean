import CheckedMarkup.Proofs.Session.Run
import CheckedMarkup.Proofs.Tag.Made
import CheckedMarkup.Proofs.Text.Letters

/-! # Input fields keep their type

A tag that was made for a type of input field gives this type before everything
else, and no step changes that. A name is dropped if it differs from `type` in the
case of ASCII letters only, and stored under its lower case in all scripts. No
name slips through between the two, so the markup begins with the type too.
-/

namespace CheckedMarkup

/-! ## Steps -/

/-- What stays of a tag that was made for a type of input field. -/
structure Tag.HasType (tag : Tag) (type : InputType) : Prop where
  name : tag.name = "input"
  fixed : tag.fixedType = some type
  entries : ∃ rest, tag.attributes.entries = ("type", .text type.name) :: rest ∧
    "type" ∉ rest.map Prod.fst

namespace Tag

variable {tag : Tag} {type : InputType}

theorem hasType_input (type : InputType) : (input type).HasType type := by
  have hlower : Text.lowercase "type" = "type" := by decide +kernel
  refine ⟨rfl, rfl, [], ?_, List.not_mem_nil⟩
  simp only [input, Attributes.insert, Attributes.empty, hlower, Keyed.put]

namespace HasType

theorem attr_eq (h : tag.HasType type) (name : String) (value : AttributeValue) :
    tag.attr name value =
      if Text.sameUpToCase name "type" then tag
      else { tag with attributes := tag.attributes.insert name value } := by
  rw [Tag.attr, fixes, h.fixed, Option.isSome_some, Bool.true_and]

theorem insert (h : tag.HasType type) {name : String} (hname : Text.lowercase name ≠ "type")
    (value : AttributeValue) :
    HasType { tag with attributes := tag.attributes.insert name value } type := by
  obtain ⟨rest, hentries, hrest⟩ := h.entries
  refine ⟨h.name, h.fixed, Keyed.put Prod.fst (Text.lowercase name, value) rest, ?_, ?_⟩
  · simp only [Attributes.insert, hentries, Keyed.put, if_neg (Ne.symm hname)]
  · rw [Keyed.mem_map_key_put, not_or]
    exact ⟨hrest, Ne.symm hname⟩

theorem isKept (type : InputType) : IsKept fun tag => tag.HasType type where
  attr := by
    intro tag h name value
    rw [h.attr_eq]
    split
    next hsame => exact h
    next hother =>
      exact h.insert (fun hlower => hother (Text.sameUpToCase_type_iff.mpr hlower)) value
  content := fun h _ _ => ⟨h.name, h.fixed, h.entries⟩

end HasType

end Tag

/-! ## Markup -/

theorem InputType.lowercase_name (type : InputType) : Text.lowercase type.name = type.name := by
  cases type <;> decide +kernel

theorem InputType.name_ne_type (type : InputType) : type.name ≠ "type" := by
  cases type <;> decide

theorem InputType.xml_value_name (type : InputType) :
    Escaper.xml.value type.name = type.name := by
  cases type <;> decide +kernel

/-- An attribute that takes the name of a type writes it as it is. -/
theorem AttributeDecl.written?_type {decl : AttributeDecl} (hname : decl.name = "type")
    {type : InputType} (h : decl.Admits (.text type.name)) :
    decl.written? (.text type.name) = some ⟨"type", .text type.name⟩ := by
  have hnormal : decl.normal type.name = type.name := by
    unfold normal
    cases hkind : decl.kind with
    | switch =>
        -- the value of a switch is its own name, and no type is called so
        simp only [Admits, Takes, hkind, hname, Text.sameUpToCase_type_iff,
          type.lowercase_name] at h
        exact absurd h type.name_ne_type
    | oneOf options => exact type.lowercase_name
    | _ => rfl
  rw [written?, hname, hnormal]

theorem Tag.HasType.written_eq {tag : Tag} {type : InputType} (h : tag.HasType type)
    {element : ElementDecl} (hadmits : element.Admits tag.attributes.entries) :
    ∃ more, element.written tag.attributes.entries = ⟨"type", .text type.name⟩ :: more := by
  obtain ⟨rest, hentries, -⟩ := h.entries
  rw [hentries] at hadmits ⊢
  obtain ⟨decl, hdecl, hvalue⟩ := hadmits _ List.mem_cons_self
  have hwritten := decl.written?_type (ElementDecl.name_of_attribute? hdecl) hvalue
  refine ⟨element.written rest, ?_⟩
  rw [ElementDecl.written, List.filterMap_cons, ElementDecl.writtenOf?, hdecl, Option.bind_some,
    hwritten]
  rfl

theorem ElementDecl.exists_markup_eq (element : ElementDecl) (form : Form) (name value : String)
    (rest : List (String × String)) (content : String) :
    ∃ more, element.markup form ((name, value) :: rest) content =
      "<" ++ element.name ++ " " ++ name ++ "=\"" ++ value ++ "\"" ++ more := by
  have hattributes : attributesText ((name, value) :: rest) =
      " " ++ name ++ "=\"" ++ value ++ "\"" ++ attributesText rest := by
    simp [attributesText, String.append_assoc]
  cases form with
  | opening =>
      refine ⟨attributesText rest ++ ">", ?_⟩
      simp only [markup, openingTag, hattributes, String.append_assoc]
  | whole =>
      cases hempty : element.isEmpty with
      | true =>
          refine ⟨attributesText rest ++ " />", ?_⟩
          simp only [markup, hempty, if_true, emptyTag, hattributes, String.append_assoc]
      | false =>
          refine ⟨attributesText rest ++ ">" ++ content ++ closingTag element.name, ?_⟩
          simp only [markup, hempty, Bool.false_eq_true, if_false, openingTag, hattributes,
            String.append_assoc]

theorem Tag.HasType.text_of_make {tag : Tag} {type : InputType} (h : tag.HasType type)
    {session : Session} (hescaper : session.escaper = .xml) {form : Form} {fragment : Fragment}
    (hmake : session.make form tag = .ok fragment) :
    ∃ more, fragment.text = "<input type=\"" ++ type.name ++ "\"" ++ more := by
  obtain ⟨element, written, hfind, hcheck, rfl⟩ := Session.make_eq_ok_iff.mp hmake
  obtain ⟨-, hadmits, -, rfl⟩ := ElementDecl.check_eq_ok_iff.mp hcheck
  obtain ⟨rest, hwritten⟩ := h.written_eq hadmits
  have hlower : tag.name.toLower = tag.name := by
    rw [h.name]
    decide +kernel
  have hname : element.name = "input" := by
    rw [session.vocabulary.lowers_of_toLower_eq hlower element hfind, hlower, h.name]
  have hpair : Written.pair session.escaper ⟨"type", .text type.name⟩ = ("type", type.name) := by
    rw [hescaper]
    exact congrArg (Prod.mk "type") type.xml_value_name
  rw [hwritten, List.map_cons, hpair]
  obtain ⟨more, hmore⟩ := element.exists_markup_eq form "type" type.name
    (rest.map (Written.pair session.escaper))
    (Fragment.concat (tag.contents.map (Piece.encode session.escaper))).text
  refine ⟨more, hmore.trans ?_⟩
  rw [hname]
  rfl

/-! ## All steps -/

/-- The tag that steps make of an input field with a type. -/
def Tag.typed (type : InputType) (steps : List (BuildStep Piece)) : Tag :=
  Plan.tag ⟨.input type, steps⟩

/-- The type of an input field that was made with one can not be changed, whatever it is given and
in whatever script. It stays the first attribute and the only one of its name: another name is
either dropped or stored under its own lower case, which is not `type`. Over every vocabulary, the
markup of the field begins with its type. -/
theorem Tag.type_cannot_be_changed (type : InputType) (steps : List (BuildStep Piece)) :
    (∃ rest, (typed type steps).attributes.entries = ("type", .text type.name) :: rest ∧
      "type" ∉ rest.map Prod.fst) ∧
    (∀ name value,
      if Text.sameUpToCase name "type" then
        (typed type steps).attr name value = typed type steps
      else
        Text.lowercase name ≠ "type" ∧
          (typed type steps).attr name value =
            { typed type steps with
              attributes := (typed type steps).attributes.insert name value }) ∧
    ∀ session : Session, session.escaper = .xml →
      (∀ form fragment, session.make form (typed type steps) = .ok fragment →
        ∃ more, fragment.text = "<input type=\"" ++ type.name ++ "\"" ++ more) ∧
      ∀ reply, session.answer (.render (typed type steps)) = .ok reply →
        ∃ more, reply = .fragment ⟨"<input type=\"" ++ type.name ++ "\"" ++ more⟩ := by
  have htype : (typed type steps).HasType type :=
    (HasType.isKept type).tag_of_origin (.input type) (hasType_input type) steps
  refine ⟨htype.entries, ?_, ?_⟩
  · intro name value
    rw [htype.attr_eq]
    split
    next hsame => rfl
    next hother => exact ⟨fun hlower => hother (Text.sameUpToCase_type_iff.mpr hlower), rfl⟩
  · intro session hescaper
    constructor
    · exact fun form fragment hmake => htype.text_of_make hescaper hmake
    · intro reply hanswer
      obtain ⟨-, _, hleads, hreply⟩ := Session.answer_eq_ok_iff.mp hanswer
      cases hleads with
      | render hmake =>
          cases hreply
          obtain ⟨more, hmore⟩ := htype.text_of_make hescaper hmake
          exact ⟨more, congrArg Reply.fragment (Fragment.eq_of_text_eq hmore)⟩

/-- Steps that try to turn a field into one for text, and give it a name. -/
def radioSteps : List (BuildStep Piece) :=
  [.attrs [("TYPE", .text "text"), ("name", .text "a")]]

/-- A session in which every input field needs a name. -/
def fieldSession : Session :=
  .new ⟨[⟨"input", none, true, [⟨"type", false, .plain⟩, ⟨"name", true, .plain⟩]⟩]⟩ .xml

theorem Tag.type_cannot_be_changed_radio :
    fieldSession.make .whole (typed .radio radioSteps) =
      .ok ⟨"<input type=\"radio\" name=\"a\" />"⟩ ∧
    fieldSession.answer (.render (typed .radio radioSteps)) =
      .ok (.fragment ⟨"<input type=\"radio\" name=\"a\" />"⟩) ∧
    (∃ more, "<input type=\"radio\" name=\"a\" />" =
      "<input type=\"" ++ InputType.radio.name ++ "\"" ++ more) ∧
    ∃ more, Reply.fragment ⟨"<input type=\"radio\" name=\"a\" />"⟩ =
      .fragment ⟨"<input type=\"" ++ InputType.radio.name ++ "\"" ++ more⟩ := by
  have hmake : fieldSession.make .whole (typed .radio radioSteps) =
      .ok ⟨"<input type=\"radio\" name=\"a\" />"⟩ := by decide +kernel
  have hanswer : fieldSession.answer (.render (typed .radio radioSteps)) =
      .ok (.fragment ⟨"<input type=\"radio\" name=\"a\" />"⟩) := by decide +kernel
  obtain ⟨hfragment, hreply⟩ := (type_cannot_be_changed .radio radioSteps).2.2 fieldSession rfl
  exact ⟨hmake, hanswer, hfragment .whole _ hmake, hreply _ hanswer⟩

end CheckedMarkup
