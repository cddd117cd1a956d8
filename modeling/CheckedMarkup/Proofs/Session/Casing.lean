import CheckedMarkup.Proofs.Session.Leaves
import CheckedMarkup.Proofs.Text.Letters
import CheckedMarkup.Proofs.Vocabulary.Names
import Mathlib.Data.List.Forall2

/-! # Case

The case of names, and of the texts of switches and enumerated attributes, is
disregarded. Two scripts that differ in nothing else lead to the same sessions,
and where they are refused, it is for the same reason.
-/

namespace CheckedMarkup

open Fallible

/-! ## Results -/

/-- The same reason to refuse a call. The texts of the caller may differ in case. -/
inductive CallError.Agrees : CallError → CallError → Prop
  | same (error : CallError) : Agrees error error
  | unknownElement {name other : String} (h : Text.sameUpToCase name other = true) :
      Agrees (.unknownElement name) (.unknownElement other)
  | invalidEnumValue (element name : String) {value other : String} (options : List String)
      (h : Text.sameUpToCase value other = true) :
      Agrees (.invalidEnumValue element name value options)
        (.invalidEnumValue element name other options)
  | invalidSwitchValue (element name : String) {value other : String}
      (h : Text.sameUpToCase value other = true) :
      Agrees (.invalidSwitchValue element name value) (.invalidSwitchValue element name other)
  | noOpenTags {requested other : String} (h : Text.sameUpToCase requested other = true) :
      Agrees (.noOpenTags requested) (.noOpenTags other)
  | mismatchedClose {requested other : String} (expected : String)
      (h : Text.sameUpToCase requested other = true) :
      Agrees (.mismatchedClose requested expected) (.mismatchedClose other expected)

/-- The same result, or the same reason for there being none. -/
inductive ResultsAgree {α : Type} : Except CallError α → Except CallError α → Prop
  | ok (a : α) : ResultsAgree (.ok a) (.ok a)
  | error {error other : CallError} (h : error.Agrees other) :
      ResultsAgree (.error error) (.error other)

namespace ResultsAgree

variable {α β ι : Type}

theorem refl (result : Except CallError α) : ResultsAgree result result := by
  cases result with
  | ok a => exact .ok a
  | error error => exact .error (.same error)

theorem toOption_eq {first second : Except CallError α} (h : ResultsAgree first second) :
    first.toOption = second.toOption := by
  cases h <;> rfl

theorem bind {first second : Except CallError α} {f g : α → Except CallError β}
    (h : ResultsAgree first second) (hf : ∀ a, ResultsAgree (f a) (g a)) :
    ResultsAgree (first >>= f) (second >>= g) := by
  cases h with
  | ok a => exact hf a
  | error h => exact .error h

theorem map {first second : Except CallError α} (h : ResultsAgree first second) (f : α → β) :
    ResultsAgree (first.map f) (second.map f) := by
  cases h with
  | ok a => exact .ok (f a)
  | error h => exact .error h

theorem mapM {r : ι → ι → Prop} {f : ι → Except CallError α}
    (hf : ∀ x y, r x y → ResultsAgree (f x) (f y)) {xs ys : List ι} (h : List.Forall₂ r xs ys) :
    ResultsAgree (xs.mapM f) (ys.mapM f) := by
  induction h with
  | nil => exact .refl _
  | cons hfirst _ ih =>
      rw [List.mapM_cons, List.mapM_cons]
      exact (hf _ _ hfirst).bind fun a => ih.bind fun rest => .refl _

end ResultsAgree

/-! ## Values -/

/-- Whether the case of a value of this kind is disregarded. -/
def ValueKind.ignoresCase : ValueKind → Bool
  | switch | oneOf _ => true
  | plain | uri | contentType | charset | script => false

/-- The same value, or texts that differ in case, if the kind of the attribute disregards it. -/
inductive AttributeValue.Agrees (kind? : Option ValueKind) :
    AttributeValue → AttributeValue → Prop
  | same (value : AttributeValue) : Agrees kind? value value
  | text {kind : ValueKind} {raw other : String} (hkind : kind? = some kind)
      (hignores : kind.ignoresCase = true) (h : Text.sameUpToCase raw other = true) :
      Agrees kind? (.text raw) (.text other)

namespace AttributeDecl

variable {decl : AttributeDecl}

theorem normalize_agree (hignores : decl.kind.ignoresCase = true) (element : String)
    {raw other : String} (h : Text.sameUpToCase raw other = true) :
    ResultsAgree (decl.normalize element raw) (decl.normalize element other) := by
  unfold normalize
  cases hkind : decl.kind with
  | switch =>
      have hname : Text.sameUpToCase raw decl.name = Text.sameUpToCase other decl.name := by
        simp only [Text.sameUpToCase, Text.sameUpToCase_iff.mp h]
      simp only [hname]
      split
      · exact .ok _
      · exact .error (.invalidSwitchValue _ _ h)
  | oneOf options =>
      simp only [Text.lowercase_eq_of_sameUpToCase h]
      split
      · exact .ok _
      · exact .error (.invalidEnumValue _ _ _ h)
  | plain | uri | contentType | charset | script => simp [hkind, ValueKind.ignoresCase] at hignores

theorem accept_agree (element : String) {value other : AttributeValue}
    (h : value.Agrees (some decl.kind) other) :
    ResultsAgree (decl.accept element value) (decl.accept element other) := by
  cases h with
  | same value => exact .refl _
  | text hkind hignores h =>
      cases hkind
      exact (normalize_agree hignores element h).bind fun _ => .refl _

end AttributeDecl

/-! ## Tags -/

/-- The declared kind of an attribute of an element, by their names. -/
def Vocabulary.kind? (vocabulary : Vocabulary) (element name : String) : Option ValueKind :=
  ((vocabulary.find? element).bind fun element => element.attribute? name).map AttributeDecl.kind

/-- Attributes of a tag that agree. Their names are in lower case. -/
structure EntryAgrees (kind? : String → Option ValueKind)
    (entry other : String × AttributeValue) : Prop where
  name : entry.1 = other.1
  lower : Text.lowercase entry.1 = entry.1
  value : entry.2.Agrees (kind? entry.1) other.2

/-- Tags that differ at most in the case of their names, and of values where it is disregarded. -/
structure Tag.Agrees (vocabulary : Vocabulary) (tag other : Tag) : Prop where
  name : Text.sameUpToCase tag.name other.name = true
  attributes : List.Forall₂ (EntryAgrees (vocabulary.kind? tag.name)) tag.attributes.entries
    other.attributes.entries
  pieces : tag.pieces = other.pieces
  bulk : tag.bulk = other.bulk

theorem Vocabulary.IsNamed.find?_eq_of_sameUpToCase {vocabulary : Vocabulary}
    (hnamed : vocabulary.IsNamed) {name other : String}
    (h : Text.sameUpToCase name other = true) : vocabulary.find? name = vocabulary.find? other := by
  rw [hnamed.find?_eq, hnamed.find?_eq, Text.sameUpToCase_iff.mp h]

namespace Tag.Agrees

variable {vocabulary : Vocabulary} {tag other : Tag} {element : ElementDecl}

theorem contents_eq (h : tag.Agrees vocabulary other) : tag.contents = other.contents := by
  rw [contents, contents, h.pieces, h.bulk]

theorem checkAttributes (h : tag.Agrees vocabulary other)
    (hfind : vocabulary.find? tag.name = some element) :
    ResultsAgree (element.checkAttributes tag.attributes)
      (element.checkAttributes other.attributes) := by
  have hentry : ∀ first second : String × AttributeValue,
      EntryAgrees (vocabulary.kind? tag.name) first second →
      ResultsAgree (element.checkAttribute first.1 first.2)
        (element.checkAttribute second.1 second.2) := by
    intro first second hagrees
    have hvalue := hagrees.value
    simp only [Vocabulary.kind?, hfind, Option.bind_some] at hvalue
    rw [ElementDecl.checkAttribute, ElementDecl.checkAttribute, ← hagrees.name]
    cases hdecl : element.attribute? first.1 with
    | none => exact .refl _
    | some decl =>
        rw [hdecl] at hvalue
        exact decl.accept_agree element.name hvalue
  exact (ResultsAgree.mapM hentry h.attributes).bind fun _ => .refl _

theorem check (h : tag.Agrees vocabulary other) (hfind : vocabulary.find? tag.name = some element)
    (form : Form) : ResultsAgree (element.check form tag) (element.check form other) := by
  have hconflict : tag.hasConflictingContent = other.hasConflictingContent := by
    rw [hasConflictingContent, hasConflictingContent, h.pieces, h.bulk]
  have hany : tag.hasContent = other.hasContent := by
    rw [hasContent, hasContent, h.contents_eq]
  have hcontent : element.checkContent form tag = element.checkContent form other := by
    simp only [ElementDecl.checkContent, hconflict, hany]
  unfold ElementDecl.check
  rw [hcontent]
  exact (ResultsAgree.refl _).bind fun _ => (h.checkAttributes hfind).bind fun _ => .refl _

theorem template (hnamed : vocabulary.IsNamed) (h : tag.Agrees vocabulary other) (form : Form) :
    ResultsAgree (vocabulary.template form tag) (vocabulary.template form other) := by
  unfold Vocabulary.template Vocabulary.element
  rw [← hnamed.find?_eq_of_sameUpToCase h.name, h.contents_eq]
  cases hfind : vocabulary.find? tag.name with
  | none => exact .error (.unknownElement h.name)
  | some element => exact (h.check hfind form).bind fun _ => .refl _

end Tag.Agrees

/-! ## Calls -/

/-- Calls that agree in their tags, and up to case in the names of elements that they close. -/
inductive Call.Agrees {τ π : Type} (r : τ → τ → Prop) : Call τ π → Call τ π → Prop
  | render {tag other : τ} (h : r tag other) : Agrees r (.render tag) (.render other)
  | element {tag other : τ} (h : r tag other) : Agrees r (.element tag) (.element other)
  | start {tag other : τ} (h : r tag other) : Agrees r (.start tag) (.start other)
  | close {name other : String} (h : Text.sameUpToCase name other = true) :
      Agrees r (.close name) (.close other)
  | write (pieces : List π) : Agrees r (.write pieces) (.write pieces)
  | comment (lines : List String) : Agrees r (.comment lines) (.comment lines)
  | script (lines : List String) : Agrees r (.script lines) (.script lines)
  | finish : Agrees r .finish .finish

namespace Session

variable {session : Session}

theorem make_agree (hnamed : session.vocabulary.IsNamed) {tag other : Tag}
    (h : tag.Agrees session.vocabulary other) (form : Form) :
    ResultsAgree (session.make form tag) (session.make form other) :=
  (h.template hnamed form).bind fun _ => .refl _

theorem start_agree (hfinished : session.isFinished = false) (hnamed : session.vocabulary.IsNamed)
    {tag other : Tag} (h : tag.Agrees session.vocabulary other) :
    ResultsAgree (session.call (.start tag)).told (session.call (.start other)).told := by
  have hmake := make_agree hnamed h .opening
  rw [Outcome.told, Outcome.told, success_start hfinished, success_start hfinished]
  unfold Vocabulary.element
  rw [← hnamed.find?_eq_of_sameUpToCase h.name]
  cases session.vocabulary.find? tag.name with
  | none => exact .error (.unknownElement h.name)
  | some element =>
      -- the two are logged under different names
      generalize session.make .opening tag = made at hmake ⊢
      generalize session.make .opening other = remade at hmake ⊢
      cases hmake with
      | ok fragment => exact .ok _
      | error h => exact .error h

theorem close_agree (hfinished : session.isFinished = false) {name other : String}
    (h : Text.sameUpToCase name other = true) :
    ResultsAgree (session.call (.close name)).told (session.call (.close other)).told := by
  rw [Outcome.told, Outcome.told, success_close hfinished, success_close hfinished]
  cases session.stack with
  | nil => exact .error (.noOpenTags h)
  | cons innermost rest =>
      have hname : Text.sameUpToCase innermost name = Text.sameUpToCase innermost other := by
        simp only [Text.sameUpToCase, Text.sameUpToCase_iff.mp h]
      simp only [hname]
      split
      · exact .ok _
      · exact .error (.mismatchedClose _ h)

theorem call_agree (hnamed : session.vocabulary.IsNamed) {call other : Call Tag Piece}
    (h : call.Agrees (Tag.Agrees session.vocabulary) other) :
    ResultsAgree (session.call call).told (session.call other).told := by
  cases hfinished : session.isFinished with
  | true =>
      rw [call_of_isFinished hfinished, call_of_isFinished hfinished]
      exact .refl _
  | false =>
      cases h with
      | render h =>
          rw [Outcome.told, Outcome.told, success_render hfinished, success_render hfinished]
          exact ((make_agree hnamed h .whole).map _).map _
      | element h =>
          rw [Outcome.told, Outcome.told, success_element hfinished, success_element hfinished]
          exact ((make_agree hnamed h .whole).map _).map _
      | start h => exact start_agree hfinished hnamed h
      | close h => exact close_agree hfinished h
      | write | comment | script | finish => exact .refl _

end Session

/-! ## Plans -/

/-- Attributes as they are given that agree: their names have one lower case. -/
def GivenAgrees (kind? : String → Option ValueKind) (given other : String × AttributeValue) :
    Prop :=
  Text.lowercase given.1 = Text.lowercase other.1 ∧
    given.2.Agrees (kind? (Text.lowercase given.1)) other.2

inductive Origin.Agrees : Origin → Origin → Prop
  | named {name other : String} (h : Text.sameUpToCase name other = true) :
      Agrees (.named name) (.named other)
  | input (type : InputType) : Agrees (.input type) (.input type)

inductive BuildStep.Agrees (kind? : String → Option ValueKind) :
    BuildStep Source → BuildStep Source → Prop
  | attr {name other : String} {value again : AttributeValue}
      (h : GivenAgrees kind? (name, value) (other, again)) :
      Agrees kind? (.attr name value) (.attr other again)
  | attr? {name other : String} {value again : AttributeValue}
      (h : GivenAgrees kind? (name, value) (other, again)) :
      Agrees kind? (.attr? name (some value)) (.attr? other (some again))
  | absent {name other : String} (h : Text.lowercase name = Text.lowercase other) :
      Agrees kind? (.attr? name none) (.attr? other none)
  | attrs {pairs others : List (String × AttributeValue)}
      (h : List.Forall₂ (GivenAgrees kind?) pairs others) :
      Agrees kind? (.attrs pairs) (.attrs others)
  | child (source : Source) : Agrees kind? (.child source) (.child source)
  | text (raw : String) : Agrees kind? (.text raw) (.text raw)
  | markup (fragment : Fragment) : Agrees kind? (.markup fragment) (.markup fragment)
  | children (sources : List Source) : Agrees kind? (.children sources) (.children sources)

/-- Plans that differ at most in the case of their names, and of values where it is disregarded. -/
structure Plan.Agrees (vocabulary : Vocabulary) (plan other : Plan Source) : Prop where
  origin : plan.origin.Agrees other.origin
  steps : List.Forall₂ (BuildStep.Agrees (vocabulary.kind? plan.name)) plan.steps other.steps

/-- Steps of a script that differ at most in case where it is disregarded. -/
abbrev Step.Agrees (vocabulary : Vocabulary) : Step → Step → Prop :=
  Call.Agrees (Plan.Agrees vocabulary)

section

variable {kind? : String → Option ValueKind}

theorem GivenAgrees.of_lowercase_eq {name other lower : String} {value again : AttributeValue}
    (hname : Text.lowercase name = lower) (hother : Text.lowercase other = lower)
    (hvalue : value.Agrees (kind? lower) again) :
    GivenAgrees kind? (name, value) (other, again) :=
  ⟨hname.trans hother.symm, hname.symm ▸ hvalue⟩

theorem EntryAgrees.given {entry other : String × AttributeValue}
    (h : EntryAgrees kind? entry other) : GivenAgrees kind? entry other :=
  ⟨congrArg Text.lowercase h.name, by rw [h.lower]; exact h.value⟩

theorem put_agree {entry other : String × AttributeValue} (h : EntryAgrees kind? entry other)
    {entries others : List (String × AttributeValue)}
    (hrest : List.Forall₂ (EntryAgrees kind?) entries others) :
    List.Forall₂ (EntryAgrees kind?) (Keyed.put Prod.fst entry entries)
      (Keyed.put Prod.fst other others) := by
  -- the names are the same in both lists, so both entries take the same place
  induction hrest with
  | nil => exact .cons h .nil
  | cons hfirst hrest ih =>
      simp only [Keyed.put, ← hfirst.name, ← h.name]
      split
      · exact .cons h hrest
      · exact .cons hfirst ih

theorem insert_agree {attributes others : Attributes}
    (h : List.Forall₂ (EntryAgrees kind?) attributes.entries others.entries)
    {given other : String × AttributeValue} (hgiven : GivenAgrees kind? given other) :
    List.Forall₂ (EntryAgrees kind?) (attributes.insert given.1 given.2).entries
      (others.insert other.1 other.2).entries := by
  obtain ⟨hname, hvalue⟩ := hgiven
  have hentry : EntryAgrees kind? (Text.lowercase given.1, given.2)
      (Text.lowercase other.1, other.2) :=
    ⟨hname, Text.lowercase_lowercase given.1, hvalue⟩
  exact put_agree hentry h

theorem give_agree (isTyped : Bool) {attributes others : Attributes}
    (h : List.Forall₂ (EntryAgrees kind?) attributes.entries others.entries)
    {given other : String × AttributeValue} (hgiven : GivenAgrees kind? given other) :
    List.Forall₂ (EntryAgrees kind?) (attributes.give isTyped given).entries
      (others.give isTyped other).entries := by
  have htype : Text.sameUpToCase given.1 "type" = Text.sameUpToCase other.1 "type" := by
    rw [Bool.eq_iff_iff, Text.sameUpToCase_type_iff, Text.sameUpToCase_type_iff, hgiven.1]
  unfold Attributes.give
  rw [htype]
  split
  · exact h
  · exact insert_agree h hgiven

theorem foldl_give_agree (isTyped : Bool) {given others : List (String × AttributeValue)}
    (hgiven : List.Forall₂ (GivenAgrees kind?) given others) {attributes again : Attributes}
    (h : List.Forall₂ (EntryAgrees kind?) attributes.entries again.entries) :
    List.Forall₂ (EntryAgrees kind?) (given.foldl (Attributes.give isTyped) attributes).entries
      (others.foldl (Attributes.give isTyped) again).entries := by
  induction hgiven generalizing attributes again with
  | nil => exact h
  | cons hfirst _ ih => exact ih (give_agree isTyped h hfirst)

theorem ofList_agree {pairs others : List (String × AttributeValue)}
    (hpairs : List.Forall₂ (GivenAgrees kind?) pairs others) :
    List.Forall₂ (EntryAgrees kind?) (Attributes.ofList pairs).entries
      (Attributes.ofList others).entries := by
  have hall : ∀ attributes again : Attributes,
      List.Forall₂ (EntryAgrees kind?) attributes.entries again.entries →
      List.Forall₂ (EntryAgrees kind?) (attributes.insertAll pairs).entries
        (again.insertAll others).entries := by
    induction hpairs with
    | nil => exact fun _ _ h => h
    | cons hfirst _ ih => exact fun _ _ h => ih _ _ (insert_agree h hfirst)
  exact hall _ _ .nil

namespace BuildStep.Agrees

variable {step other : BuildStep Source}

theorem given_agree (h : step.Agrees kind? other) :
    List.Forall₂ (GivenAgrees kind?) step.given other.given := by
  cases h with
  | attr h | attr? h => exact .cons h .nil
  | absent | child | text | markup | children => exact .nil
  | attrs h => exact (ofList_agree h).imp fun _ _ hentry => hentry.given

theorem pieces_eq (h : step.Agrees kind? other) :
    BuildStep.pieces step = BuildStep.pieces other := by
  cases h <;> rfl

theorem gather_eq (h : step.Agrees kind? other) (bulk : Option (List Source)) :
    step.gather bulk = other.gather bulk := by
  cases h <;> rfl

end BuildStep.Agrees

theorem steps_agree {steps others : List (BuildStep Source)}
    (h : List.Forall₂ (BuildStep.Agrees kind?) steps others) :
    List.Forall₂ (GivenAgrees kind?) (steps.flatMap BuildStep.given)
        (others.flatMap BuildStep.given) ∧
      steps.flatMap BuildStep.pieces = others.flatMap BuildStep.pieces ∧
      ∀ bulk, steps.foldl BuildStep.gather bulk = others.foldl BuildStep.gather bulk := by
  induction h with
  | nil => exact ⟨.nil, rfl, fun _ => rfl⟩
  | cons hfirst _ ih =>
      obtain ⟨hgiven, hpieces, hbulk⟩ := ih
      refine ⟨List.rel_append hfirst.given_agree hgiven, ?_, ?_⟩
      · rw [List.flatMap_cons, List.flatMap_cons, hfirst.pieces_eq, hpieces]
      · intro bulk
        rw [List.foldl_cons, List.foldl_cons, hfirst.gather_eq, hbulk]

end

variable {vocabulary : Vocabulary}

theorem Origin.Agrees.tag {origin other : Origin} (h : origin.Agrees other) :
    origin.tag.Agrees vocabulary other.tag := by
  cases h with
  | named h => exact ⟨h, .nil, rfl, rfl⟩
  | input type =>
      have hentry : ∀ kind?, EntryAgrees kind? (Text.lowercase "type", .text type.name)
          (Text.lowercase "type", .text type.name) :=
        fun kind? => ⟨rfl, Text.lowercase_lowercase "type", .same _⟩
      exact ⟨Text.sameUpToCase_self _, .cons (hentry _) .nil, rfl, rfl⟩

theorem Origin.Agrees.fixedType_eq {origin other : Origin} (h : origin.Agrees other) :
    origin.tag.fixedType = other.tag.fixedType := by
  cases h <;> rfl

theorem Plan.Agrees.tag {plan other : Plan Source} (h : plan.Agrees vocabulary other)
    (returned : List (Option Fragment)) :
    (plan.map (Source.resolve returned)).tag.Agrees vocabulary
      (other.map (Source.resolve returned)).tag := by
  obtain ⟨hgiven, hpieces, hbulk⟩ := steps_agree h.steps
  have horigin : plan.origin.tag.Agrees vocabulary other.origin.tag := h.origin.tag
  refine ⟨?_, ?_, ?_, ?_⟩
  · rw [Plan.name_tag_resolve, Plan.name_tag_resolve]
    exact horigin.name
  · simp only [Plan.attributes_tag_resolve, Plan.name_tag_resolve, Plan.attributes,
      ← h.origin.fixedType_eq]
    exact foldl_give_agree _ hgiven horigin.attributes
  · simp only [Plan.tag_map_resolve, Plan.pieces, hpieces]
  · simp only [Plan.tag_map_resolve, Plan.bulk?, hbulk]

theorem Step.Agrees.resolve {step other : Step} (h : step.Agrees vocabulary other)
    (returned : List (Option Fragment)) :
    (step.resolve returned).Agrees (Tag.Agrees vocabulary) (other.resolve returned) := by
  cases h with
  | render h => exact .render (h.tag returned)
  | element h => exact .element (h.tag returned)
  | start h => exact .start (h.tag returned)
  | close h => exact .close h
  | write sources => exact .write _
  | comment lines => exact .comment lines
  | script lines => exact .script lines
  | finish => exact .finish

/-! ## Scripts -/

/-- Moments with the same answer, up to case in the reason of a refusal, and the same session. -/
structure Moment.Agrees (moment other : Moment) : Prop where
  answer : ResultsAgree moment.answer other.answer
  session : moment.session = other.session

namespace Session

theorem moment_agree {session : Session} {call other : Call Tag Piece}
    (h : ResultsAgree (session.call call).told (session.call other).told) :
    Moment.Agrees ⟨(session.call call).answer, (session.call call).session⟩
      ⟨(session.call other).answer, (session.call other).session⟩ := by
  generalize htold : (session.call call).told = first at h
  generalize hagain : (session.call other).told = second at h
  cases h with
  | ok told =>
      obtain ⟨reply, next⟩ := told
      obtain ⟨hanswer, hsession⟩ := Outcome.told_eq_ok_iff.mp htold
      obtain ⟨hsame, hnext⟩ := Outcome.told_eq_ok_iff.mp hagain
      rw [hanswer, hsession, hsame, hnext]
      exact ⟨.ok reply, rfl⟩
  | error h =>
      rw [call_of_told_eq_error htold, call_of_told_eq_error hagain]
      exact ⟨.error h, rfl⟩

theorem follow_agree {session : Session} (hvocabulary : session.vocabulary = vocabulary)
    (hnamed : vocabulary.IsNamed) (returned : List (Option Fragment)) {script others : List Step}
    (h : List.Forall₂ (Step.Agrees vocabulary) script others) :
    List.Forall₂ Moment.Agrees (session.follow returned script).moments
      (session.follow returned others).moments := by
  induction h generalizing session returned with
  | nil => exact .nil
  | @cons step other rest more hfirst hrest ih =>
      have hresolve := hfirst.resolve returned
      rw [← hvocabulary] at hresolve
      have hcall := call_agree (hvocabulary ▸ hnamed) hresolve
      have hmoment := moment_agree hcall
      have hfragment : (session.call (step.resolve returned)).fragment? =
          (session.call (other.resolve returned)).fragment? :=
        congrArg (Option.bind · Reply.fragment?) hmoment.answer.toOption_eq
      have hsession : session.after (step.resolve returned) =
          session.after (other.resolve returned) := hmoment.session
      have hkept := vocabulary_after session (step.resolve returned)
      -- from there on both scripts are followed from one session
      rw [moments_follow_cons, moments_follow_cons]
      refine .cons hmoment ?_
      rw [← hfragment, ← hsession]
      exact ih (hkept.trans hvocabulary) _

/-- Scripts that differ at most in the case of names, and of the texts of switches and enumerated
attributes, lead to the same sessions and the same answers. The names in their document are the
declared ones, which are in lower case; what is not markup of such tags is supplied by the
script. -/
theorem case_is_disregarded {table : Table} {vocabulary : Vocabulary}
    (hcompile : table.compile = .ok vocabulary) (escaper : Escaper) {script others : List Step}
    (h : List.Forall₂ (Step.Agrees vocabulary) script others) :
    List.Forall₂ Moment.Agrees ((new vocabulary escaper).runScript script).moments
      ((new vocabulary escaper).runScript others).moments ∧
    vocabulary.IsNamed ∧
    ∀ document, .ok (.document document) ∈
        ((new vocabulary escaper).runScript script).moments.map Moment.answer →
      ∃ template, document = (Template.encode escaper template).text ∧
        ∀ leaf ∈ template,
          vocabulary.Owns leaf ∨ ∃ step ∈ script, step.Supplies vocabulary leaf := by
  have hnamed := Vocabulary.isNamed_of_compile hcompile
  refine ⟨follow_agree rfl hnamed [] h, hnamed, ?_⟩
  intro document hdocument
  obtain ⟨moment, hmoment, hanswer⟩ := List.mem_map.mp hdocument
  rw [Outline.fill_runScript] at hmoment
  obtain ⟨drawn, hdrawn, rfl⟩ := List.mem_map.mp hmoment
  obtain ⟨template, htemplate, htext⟩ := Outline.exists_of_fill_answer_eq_document hanswer
  refine ⟨template, htext, fun leaf hleaf => ?_⟩
  apply Outline.owns_or_supplies_of_mem_leaves hdrawn
  simp [Outline.Moment.leaves, htemplate, Outline.Reply.leaves, hleaf]

def formTable : Table :=
  ⟨[("form", ""), ("Input", "empty type checked? kind(low|high)")], []⟩

def formVocabulary : Vocabulary :=
  ⟨[⟨"form", none, false, []⟩,
    ⟨"input", none, true, [⟨"type", false, .plain⟩, ⟨"checked", false, .switch⟩,
      ⟨"kind", false, .oneOf ["low", "high"]⟩]⟩]⟩

/-- A form with one field, and an attempt at another one under an attribute that is not declared. -/
def formScript : List Step :=
  [.start ⟨.named "Form", []⟩,
    .element ⟨.input .checkbox, [.attr "type" (.text "x"), .attr "checked" (.text "Checked"),
      .attr "kind" (.text "low")]⟩,
    .element ⟨.named "input", [.attr "ΟΔΟΣ" (.flag true)]⟩, .close "form", .finish]

/-- The same form. The sign of the kelvin has the lower case of the letter `K`. -/
def recasedFormScript : List Step :=
  [.start ⟨.named "FORM", []⟩,
    .element ⟨.input .checkbox, [.attr "Type" (.text "x"), .attr "CHECKED" (.text "cHECKED"),
      .attr "\u212AIND" (.text "Low")]⟩,
    .element ⟨.named "INPUT", [.attr "οδος" (.flag true)]⟩, .close "foRM", .finish]

theorem formScript_agrees :
    List.Forall₂ (Step.Agrees formVocabulary) formScript recasedFormScript := by
  have hform : Text.sameUpToCase "Form" "FORM" = true :=
    Text.sameUpToCase_of_toLower_eq (by decide +kernel : _ = "form") (by decide +kernel)
  have hclose : Text.sameUpToCase "form" "foRM" = true :=
    Text.sameUpToCase_of_toLower_eq (by decide +kernel : _ = "form") (by decide +kernel)
  have hinput : Text.sameUpToCase "input" "INPUT" = true :=
    Text.sameUpToCase_of_toLower_eq (by decide +kernel : _ = "input") (by decide +kernel)
  have hchecked : Text.sameUpToCase "Checked" "cHECKED" = true :=
    Text.sameUpToCase_of_toLower_eq (by decide +kernel : _ = "checked") (by decide +kernel)
  have hlow : Text.sameUpToCase "low" "Low" = true :=
    Text.sameUpToCase_of_toLower_eq (by decide +kernel : _ = "low") (by decide +kernel)
  have htype : GivenAgrees (formVocabulary.kind? "input") ("type", .text "x") ("Type", .text "x") :=
    .of_lowercase_eq (by decide +kernel : _ = "type") (by decide +kernel) (.same _)
  have hswitch : GivenAgrees (formVocabulary.kind? "input") ("checked", .text "Checked")
      ("CHECKED", .text "cHECKED") :=
    .of_lowercase_eq (by decide +kernel : _ = "checked") (by decide +kernel)
      (.text (by decide +kernel : _ = some .switch) rfl hchecked)
  have hkind : GivenAgrees (formVocabulary.kind? "input") ("kind", .text "low")
      ("\u212AIND", .text "Low") :=
    .of_lowercase_eq (by decide +kernel : _ = "kind") (by decide +kernel)
      (.text (by decide +kernel : _ = some (.oneOf ["low", "high"])) rfl hlow)
  have hgreek : GivenAgrees (formVocabulary.kind? "input") ("ΟΔΟΣ", .flag true)
      ("οδος", .flag true) :=
    .of_lowercase_eq (by decide +kernel : _ = "οδος") (by decide +kernel) (.same _)
  exact .cons (.start ⟨.named hform, .nil⟩)
    (.cons (.element ⟨.input _, .cons (.attr htype) (.cons (.attr hswitch)
        (.cons (.attr hkind) .nil))⟩)
      (.cons (.element ⟨.named hinput, .cons (.attr hgreek) .nil⟩)
        (.cons (.close hclose) (.cons .finish .nil))))

def formAnswers : List (Except CallError Reply) :=
  [.ok .nothing, .ok (.fragment ⟨"<input type=\"checkbox\" checked=\"checked\" kind=\"low\" />"⟩),
    .error (.unknownAttribute "input" "οδος" ["type", "checked", "kind"]), .ok .nothing,
    .ok (.document "<form><input type=\"checkbox\" checked=\"checked\" kind=\"low\" /></form>")]

theorem case_is_disregarded_form :
    formTable.compile = .ok formVocabulary ∧
      List.Forall₂ (Step.Agrees formVocabulary) formScript recasedFormScript ∧
      ((new formVocabulary .xml).runScript formScript).moments.map Moment.answer = formAnswers ∧
      List.Forall₂ Moment.Agrees ((new formVocabulary .xml).runScript formScript).moments
        ((new formVocabulary .xml).runScript recasedFormScript).moments ∧
      ∃ template, "<form><input type=\"checkbox\" checked=\"checked\" kind=\"low\" /></form>" =
          (Template.encode .xml template).text ∧
        ∀ leaf ∈ template, formVocabulary.Owns leaf ∨
          ∃ step ∈ formScript, step.Supplies formVocabulary leaf := by
  have hcompile : formTable.compile = .ok formVocabulary := by decide +kernel
  have hanswers : ((new formVocabulary .xml).runScript formScript).moments.map Moment.answer =
      formAnswers := by decide +kernel
  obtain ⟨hmoments, _, hnames⟩ := case_is_disregarded hcompile .xml formScript_agrees
  refine ⟨hcompile, formScript_agrees, hanswers, hmoments, hnames _ ?_⟩
  rw [hanswers]
  simp [formAnswers]

end Session

end CheckedMarkup
