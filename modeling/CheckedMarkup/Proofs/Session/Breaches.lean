import CheckedMarkup.Proofs.Session.Checking
import CheckedMarkup.Proofs.Session.Taking

/-! # The rules for a tag

Every rule that one use of an element can break, stated without regard to the
others. The breaches of a tag are listed in the order of the rules, all of them;
a call is refused just if there is one, and the first is the reason it gives.
-/

namespace CheckedMarkup

open Fallible

/-! ## Breaches -/

/-- The error of a rule, if the rule is broken. -/
def breach (broken : Prop) [Decidable broken] (error : CallError) : List CallError :=
  if broken then [error] else []

/-- The text that a value spells out, plain or trusted. A switch spells none. -/
def AttributeValue.spelled? : AttributeValue → Option String
  | .text raw => some raw
  | .markup fragment => some fragment.text
  | .flag _ => none

/-- Whether a tag was given some piece of content that is not empty, in either way. -/
abbrev Tag.GivesContent (tag : Tag) : Prop :=
  ∃ piece ∈ tag.pieces ++ tag.bulk.getD [], piece.isEmpty = false

namespace AttributeDecl

/-- What is wrong with a text as the value of an attribute. -/
def textBreaches (decl : AttributeDecl) (element raw : String) : List CallError :=
  breach (decl.kind = .switch ∧ Text.sameUpToCase raw decl.name = false)
    (.invalidSwitchValue element decl.name raw) ++
  decl.kind.options?.toList.flatMap fun options =>
    breach (Text.lowercase raw ∉ options) (.invalidEnumValue element decl.name raw options)

def breaches (decl : AttributeDecl) (element : String) (value : AttributeValue) :
    List CallError :=
  breach (value = .flag true ∧ decl.kind ≠ .switch) (.notASwitch element decl.name) ++
  value.spelled?.toList.flatMap (decl.textBreaches element)

end AttributeDecl

namespace ElementDecl

/-- What is wrong with one supplied attribute, which may not be declared at all. -/
def attributeBreaches (element : ElementDecl) (name : String) (value : AttributeValue) :
    List CallError :=
  match element.attribute? name with
  | none => [.unknownAttribute element.name name element.attributeNames]
  | some decl => decl.breaches element.name value

/-- What is wrong with the content of a tag in some form. -/
def contentBreaches (element : ElementDecl) (form : Form) (tag : Tag) : List CallError :=
  breach (tag.bulk.isSome ∧ tag.pieces ≠ []) (.conflictingContent element.name) ++
  breach (form = .opening ∧ element.isEmpty) (.cannotStartEmptyElement element.name) ++
  breach (form = .opening ∧ tag.GivesContent) (.contentOnStart element.name) ++
  breach (form = .whole ∧ element.isEmpty ∧ tag.GivesContent) (.contentOnEmptyElement element.name)

/-- The required attributes that a tag leaves out. A switch that is off counts as left out. -/
def missingBreaches (element : ElementDecl) (tag : Tag) : List CallError :=
  let given := (tag.attributes.entries.filter (·.2 ≠ .flag false)).map Prod.fst
  (element.required.filter fun decl => !given.contains decl.name).map fun decl =>
    .missingRequiredAttribute element.name decl.name given

def breaches (element : ElementDecl) (form : Form) (tag : Tag) : List CallError :=
  element.contentBreaches form tag ++
  tag.attributes.entries.flatMap (fun (name, value) => element.attributeBreaches name value) ++
  element.missingBreaches tag

end ElementDecl

/-- Everything that is wrong with a tag, in the order of the rules. -/
def Vocabulary.breaches (vocabulary : Vocabulary) (form : Form) (tag : Tag) : List CallError :=
  match vocabulary.find? tag.name with
  | none => [.unknownElement tag.name]
  | some element => element.breaches form tag

/-! ## Each check finds the first breach of its rules -/

@[simp] theorem head?_breach (broken : Prop) [Decidable broken] (error : CallError) :
    (breach broken error).head? = if broken then some error else none := by
  unfold breach
  split <;> rfl

/-- Where content was not given in both ways, the content that counts is all that was given. -/
theorem Tag.hasContent_iff (tag : Tag) (h : tag.hasConflictingContent = false) :
    tag.hasContent = true ↔ tag.GivesContent := by
  cases hbulk : tag.bulk with
  | none => simp [hasContent, contents, GivesContent, hbulk]
  | some pieces =>
      have hnone : tag.pieces = [] := by simpa [hasConflictingContent, hbulk] using h
      simp [hasContent, contents, GivesContent, hbulk, hnone]

namespace AttributeDecl

theorem fault?_normalize (decl : AttributeDecl) (element raw : String) :
    fault? (decl.normalize element raw) = (decl.textBreaches element raw).head? := by
  unfold normalize textBreaches
  cases hkind : decl.kind with
  | switch => cases hsame : Text.sameUpToCase raw decl.name <;> simp [ValueKind.options?, fault?]
  | oneOf options =>
      by_cases hmem : Text.lowercase raw ∈ options <;> simp [ValueKind.options?, fault?, hmem]
  | plain | uri | contentType | charset | script => rfl

theorem written?_eq_none_iff {decl : AttributeDecl} {value : AttributeValue} :
    decl.written? value = none ↔ value = .flag false := by
  cases value with
  | flag on => cases on <;> simp [written?]
  | text raw => simp [written?]
  | markup fragment => simp [written?]

theorem head?_breaches_of_spelled? {value : AttributeValue} {raw : String}
    (h : value.spelled? = some raw) (decl : AttributeDecl) (element : String) :
    (decl.breaches element value).head? = (decl.textBreaches element raw).head? := by
  have hflag : value ≠ .flag true := by
    rintro rfl
    cases h
  simp [breaches, h, hflag]

theorem fault?_accept (decl : AttributeDecl) (element : String) (value : AttributeValue) :
    fault? (decl.accept element value) = (decl.breaches element value).head? := by
  cases value with
  | flag on =>
      cases on with
      | false => rfl
      | true =>
          by_cases hkind : decl.kind = .switch <;>
            simp [accept, breaches, AttributeValue.spelled?, fault?, hkind]
  | text raw =>
      rw [accept, fault?_bind_pure, fault?_normalize]
      exact (head?_breaches_of_spelled? rfl decl element).symm
  | markup fragment =>
      rw [accept, fault?_bind_pure, fault?_normalize]
      exact (head?_breaches_of_spelled? rfl decl element).symm

end AttributeDecl

namespace ElementDecl

variable {element : ElementDecl} {form : Form} {tag : Tag}

theorem fault?_checkContent (element : ElementDecl) (form : Form) (tag : Tag) :
    fault? (element.checkContent form tag) = (element.contentBreaches form tag).head? := by
  have hmixed : tag.hasConflictingContent = true ↔ tag.bulk.isSome ∧ tag.pieces ≠ [] := by
    simp [Tag.hasConflictingContent]
  simp only [contentBreaches, List.head?_append, head?_breach, ← hmixed, checkContent]
  cases hconflict : tag.hasConflictingContent with
  | true => rfl
  | false =>
      simp only [← tag.hasContent_iff hconflict]
      cases form <;> cases element.isEmpty <;> cases tag.hasContent <;> rfl

theorem fault?_checkAttribute (element : ElementDecl) (name : String) (value : AttributeValue) :
    fault? (element.checkAttribute name value) = (element.attributeBreaches name value).head? := by
  unfold checkAttribute attributeBreaches
  cases element.attribute? name with
  | none => rfl
  | some decl => exact decl.fault?_accept element.name value

theorem fault?_checkAttributes (element : ElementDecl) (attributes : Attributes) :
    fault? (element.checkAttributes attributes) =
      (attributes.entries.flatMap fun (name, value) =>
        element.attributeBreaches name value).head? := by
  rw [checkAttributes, fault?_bind_pure, fault?_mapM, List.head?_flatMap]
  simp only [fault?_checkAttribute]

/-- What is written are the supplied attributes, but for switches that are off. -/
theorem map_name_written {entries : List (String × AttributeValue)} (h : element.Admits entries) :
    (element.written entries).map Written.name =
      (entries.filter (·.2 ≠ .flag false)).map Prod.fst := by
  induction entries with
  | nil => rfl
  | cons entry rest ih =>
      obtain ⟨⟨decl, hdecl, _⟩, hrest⟩ := List.forall_mem_cons.mp h
      have hentry : element.writtenOf? entry = decl.written? entry.2 := by
        rw [writtenOf?, hdecl, Option.bind_some]
      rw [written, List.filterMap_cons, hentry]
      cases hwritten : decl.written? entry.2 with
      | none =>
          have hoff := AttributeDecl.written?_eq_none_iff.mp hwritten
          rw [List.filter_cons_of_neg (by simp [hoff])]
          exact ih hrest
      | some given =>
          have hon : entry.2 ≠ .flag false := by
            intro hoff
            rw [AttributeDecl.written?_eq_none_iff.mpr hoff] at hwritten
            cases hwritten
          rw [List.filter_cons_of_pos (by simpa using hon), List.map_cons, List.map_cons,
            AttributeDecl.name_of_written? hwritten, name_of_attribute? hdecl]
          exact congrArg (entry.1 :: ·) (ih hrest)

/-- Of the required attributes the first that was not given is missed. -/
theorem head?_missingBreaches (h : element.Admits tag.attributes.entries) :
    (element.missingBreaches tag).head? =
      (element.missing? (element.written tag.attributes.entries)).map fun decl =>
        .missingRequiredAttribute element.name decl.name
          ((element.written tag.attributes.entries).map Written.name) := by
  rw [missingBreaches, missing?, map_name_written h, List.head?_map, List.head?_filter]

/-- A check ends at the first breach in the order of the rules. -/
theorem fault?_check (element : ElementDecl) (form : Form) (tag : Tag) :
    fault? (element.check form tag) = (element.breaches form tag).head? := by
  simp only [breaches, List.head?_append, ← fault?_checkContent, ← fault?_checkAttributes, check,
    fault?_bind]
  cases element.checkContent form tag with
  | error error => rfl
  | ok _ =>
      cases hattributes : element.checkAttributes tag.attributes with
      | error error => rfl
      | ok written =>
          obtain ⟨hadmits, rfl⟩ := checkAttributes_eq_ok_iff.mp hattributes
          rw [head?_missingBreaches hadmits]
          cases hmissing : element.missing? (element.written tag.attributes.entries) <;>
            simp [fault?, Except.toOption, hmissing]

end ElementDecl

theorem Vocabulary.fault?_template (vocabulary : Vocabulary) (form : Form) (tag : Tag) :
    fault? (vocabulary.template form tag) = (vocabulary.breaches form tag).head? := by
  rw [template, Vocabulary.element, breaches]
  cases vocabulary.find? tag.name with
  | none => rfl
  | some element =>
      rw [bind_ok, fault?_bind_pure]
      exact element.fault?_check form tag

namespace Session

variable {session : Session} {form : Form} {tag : Tag} {call : Call Tag Piece}

theorem fault?_make (session : Session) (form : Form) (tag : Tag) :
    fault? (session.make form tag) = (session.vocabulary.breaches form tag).head? := by
  rw [make, fault?_bind_pure, Vocabulary.fault?_template]

theorem fault?_answer (h : session.isFinished = false) (hcall : call ∈ form.calls tag) :
    fault? (session.answer call) = (session.vocabulary.breaches form tag).head? := by
  rw [fault?_answer_eq_fault?_make h hcall, fault?_make]

/-- A call that uses a tag is refused just if the tag breaks a rule, and for the first that it
breaks. -/
theorem refused_for_first_breach (h : session.isFinished = false) (hcall : call ∈ form.calls tag) :
    ((∃ error, session.answer call = .error error) ↔ session.vocabulary.breaches form tag ≠ []) ∧
      ∀ error, session.answer call = .error error ↔
        (session.vocabulary.breaches form tag).head? = some error := by
  have hfirst : ∀ error, session.answer call = .error error ↔
      (session.vocabulary.breaches form tag).head? = some error := by
    intro error
    rw [← fault?_answer h hcall, fault?_eq_some_iff]
  refine ⟨?_, hfirst⟩
  simp only [hfirst]
  rw [← Option.isSome_iff_exists, List.isSome_head?]

def fieldVocabulary : Vocabulary :=
  ⟨[⟨"br", some .inline, true, []⟩,
      ⟨"field", some .block, false, [⟨"name", true, .plain⟩, ⟨"locked", false, .switch⟩,
        ⟨"align", false, .oneOf ["left", "right"]⟩]⟩]⟩

/-- A tag that breaks a rule of each kind, when it is started. -/
def fieldTag : Tag :=
  ⟨"FIELD", ⟨[("align", .markup ⟨"Up"⟩), ("locked", .text "no"), ("size", .flag false),
    ("name", .flag false)]⟩, [.text "", .text "x"], none, none⟩

def fieldBreaches : List CallError :=
  [.contentOnStart "field",
    .invalidEnumValue "field" "align" "Up" ["left", "right"],
    .invalidSwitchValue "field" "locked" "no",
    .unknownAttribute "field" "size" ["name", "locked", "align"],
    .missingRequiredAttribute "field" "name" ["align", "locked"]]

theorem refused_for_first_breach_field :
    fieldVocabulary.breaches .opening fieldTag = fieldBreaches ∧
      (Session.new fieldVocabulary .xml).answer (.start fieldTag) =
        .error (.contentOnStart "field") := by
  have hall : fieldVocabulary.breaches .opening fieldTag = fieldBreaches := by decide +kernel
  have hopen : (Session.new fieldVocabulary .xml).isFinished = false := rfl
  have hcall : Call.start fieldTag ∈ Form.opening.calls fieldTag := List.mem_singleton_self _
  exact ⟨hall, ((refused_for_first_breach hopen hcall).2 _).mpr (congrArg List.head? hall)⟩

end Session

end CheckedMarkup
