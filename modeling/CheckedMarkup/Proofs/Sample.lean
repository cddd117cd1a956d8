import CheckedMarkup.Proofs.Session.Fitting
import CheckedMarkup.Sample

/-! # The sample page over any vocabulary

The calls of the sample page fit together, so that the page only depends on how the
vocabulary declares its six elements. It is the same over all vocabularies that
provide them, and over any other the first element that is not provided is the reason
why there is none.
-/

namespace CheckedMarkup

open Fallible

/-! ## Elements without attributes -/

/-- A tag without attributes that has content just if it is used as a whole. -/
structure Tag.IsSimple (form : Form) (tag : Tag) : Prop where
  name : tag.name.toLower = tag.name
  attributes : tag.attributes.entries = []
  bulk : tag.bulk = none
  content : tag.GivesContent ↔ form = .whole

theorem Tag.isSimple_named {name : String} (hname : name.toLower = name) :
    (Tag.named name).IsSimple .opening :=
  ⟨hname, rfl, rfl, by simp [GivesContent, named]⟩

theorem Tag.isSimple_text {name raw : String} (hname : name.toLower = name) (hraw : raw ≠ "") :
    ((Tag.named name).text raw).IsSimple .whole := by
  refine ⟨hname, rfl, rfl, iff_of_true ?_ rfl⟩
  exact ⟨.text raw, by simp [text, child], by simpa [Piece.isEmpty] using hraw⟩

theorem Tag.IsSimple.name_of_find? {form : Form} {tag : Tag} (h : tag.IsSimple form)
    {vocabulary : Vocabulary} {element : ElementDecl}
    (hfind : vocabulary.find? tag.name = some element) : element.name = tag.name :=
  (vocabulary.lowers_of_toLower_eq h.name element hfind).trans h.name

theorem Tag.IsSimple.fits {form : Form} {tag : Tag} (h : tag.IsSimple form)
    {element : ElementDecl} (hempty : element.isEmpty = false) : element.Fits form tag := by
  have hconflict : tag.hasConflictingContent = false := by
    rw [Tag.hasConflictingContent, h.bulk]
    rfl
  refine ⟨hconflict, ?_⟩
  cases form with
  | opening =>
      refine ⟨hempty, ?_⟩
      rw [← Bool.not_eq_true, tag.hasContent_iff hconflict, h.content]
      simp
  | whole => simp [hempty]

namespace Vocabulary

/-- Whether there is an element that may have content and needs no attribute. -/
def Provides (vocabulary : Vocabulary) (name : String) : Prop :=
  ∃ element, vocabulary.find? name = some element ∧ element.isEmpty = false ∧
    element.required = []

/-- What is wrong with an element that is opened, or is given content, and has no attribute. It is
unknown, or it is empty, or else it requires some attribute. -/
def objection? (vocabulary : Vocabulary) (form : Form) (name : String) : Option CallError :=
  match vocabulary.find? name with
  | none => some (.unknownElement name)
  | some element =>
      if element.isEmpty then
        match form with
        | .opening => some (.cannotStartEmptyElement name)
        | .whole => some (.contentOnEmptyElement name)
      else element.required.head?.map fun decl => .missingRequiredAttribute name decl.name []

variable {vocabulary : Vocabulary} {form : Form} {name : String}

theorem objection?_eq_none_iff :
    vocabulary.objection? form name = none ↔ vocabulary.Provides name := by
  unfold objection? Provides
  cases vocabulary.find? name with
  | none => simp
  | some element => cases hempty : element.isEmpty <;> cases form <;> simp [hempty]

theorem head?_breaches {tag : Tag} (h : tag.IsSimple form) :
    (vocabulary.breaches form tag).head? = vocabulary.objection? form tag.name := by
  unfold breaches objection?
  cases hfind : vocabulary.find? tag.name with
  | none => rfl
  | some element =>
      have helement := h.name_of_find? hfind
      have hmissing : (element.missingBreaches tag).head? =
          element.required.head?.map fun decl =>
            .missingRequiredAttribute tag.name decl.name [] := by
        simp [ElementDecl.missingBreaches, h.attributes, helement]
      simp only [ElementDecl.breaches, ElementDecl.contentBreaches, List.head?_append, head?_breach,
        h.attributes, List.flatMap_nil, hmissing, h.content, h.bulk, helement]
      cases form <;> cases element.isEmpty <;> simp

/-- What is written of an element that is provided. -/
theorem Provides.markup_eq {tag : Tag} (hprovides : vocabulary.Provides tag.name)
    (h : tag.IsSimple form) (escaper : Escaper) :
    vocabulary.markup escaper form tag = "<" ++ tag.name ++ ">" ++
      match form with
      | .opening => ""
      | .whole => (Fragment.concat (tag.contents.map (Piece.encode escaper))).text ++
          ElementDecl.closingTag tag.name := by
  obtain ⟨element, hfind, hempty, hrequired⟩ := hprovides
  have helement := h.name_of_find? hfind
  have hcheck : element.check form tag = .ok [] := by
    rw [ElementDecl.check_eq_ok_iff, h.attributes]
    exact ⟨h.fits hempty, by simp [ElementDecl.Admits],
      by simp [ElementDecl.IsComplete, hrequired], rfl⟩
  have htemplate : vocabulary.template form tag =
      .ok (element.template form [] tag.contents) := by
    rw [template, element_eq_ok_iff.mpr hfind, bind_ok, hcheck]
    rfl
  rw [markup, htemplate]
  dsimp only
  rw [encode_template]
  cases form <;>
    simp [ElementDecl.markup, ElementDecl.openingTag, attributesText, helement, hempty,
      String.append_assoc]

end Vocabulary

/-! ## The page -/

namespace Sample

open Session

/-- The elements of the page in the order in which they are made, and how each is used. -/
def uses : List (Form × String) :=
  [(.opening, "html"), (.opening, "head"), (.whole, "title"), (.opening, "body"), (.whole, "h1"),
    (.whole, "p")]

def text : String :=
  "<html><head><title>Hello world!</title></head><body><h1>Hello world!</h1>" ++
    "<p>So how is it going?  &lt;&gt;!</p></body></html>"

section

variable {vocabulary : Vocabulary} {name : String}

theorem breach?_start (hname : name.toLower = name) :
    Call.breach? vocabulary (.start (.named name)) = vocabulary.objection? .opening name :=
  Vocabulary.head?_breaches (Tag.isSimple_named hname)

theorem breach?_line (hname : name.toLower = name) {raw : String} (hraw : raw ≠ "") :
    (line name raw).breach? vocabulary = vocabulary.objection? .whole name :=
  Vocabulary.head?_breaches (Tag.isSimple_text hname hraw)

theorem adds_start (h : vocabulary.Provides name) (hname : name.toLower = name)
    (escaper : Escaper) :
    (Call.start (.named name)).adds vocabulary escaper = "<" ++ name ++ ">" := by
  rw [Call.adds, Vocabulary.Provides.markup_eq h (Tag.isSimple_named hname)]
  exact String.append_empty

theorem adds_line (h : vocabulary.Provides name) (hname : name.toLower = name) {raw : String}
    (hraw : raw ≠ "") (escaper : Escaper) :
    (line name raw).adds vocabulary escaper =
      "<" ++ name ++ ">" ++ (escaper.text raw ++ ElementDecl.closingTag name) := by
  rw [line, Call.adds, Vocabulary.Provides.markup_eq h (Tag.isSimple_text hname hraw)]
  simp [Tag.contents, Tag.text, Tag.child, Tag.named, Piece.encode, Piece.leaf, Leaf.encode]

end

variable (vocabulary : Vocabulary)

theorem foldlM_after?_calls :
    calls.foldlM Posture.after? (new vocabulary .xml).posture = some ⟨[], true⟩ := by
  change calls.foldlM Posture.after? ⟨[], false⟩ = _
  decide +kernel

theorem lowers_of_mem_calls : ∀ call ∈ calls, call.Lowers vocabulary := by
  have hstart : ∀ name, name.toLower = name → Call.Lowers vocabulary (.start (.named name)) :=
    fun _ hname => vocabulary.lowers_of_toLower_eq hname
  simp (disch := decide +kernel) only [calls, line, List.forall_mem_cons, hstart]
  simp [Call.Lowers]

/-- The page is what the last reply says. -/
theorem page_eq_map :
    page vocabulary = ((new vocabulary .xml).runAll calls).1.map fun replies =>
      (replies.getLast?.map replyText).getD "" := rfl

theorem fault?_page :
    fault? (page vocabulary) =
      uses.findSome? fun (form, name) => vocabulary.objection? form name := by
  have hclose : ∀ name, Call.breach? vocabulary (.close name) = none := fun _ => rfl
  have hfinish : Call.breach? vocabulary .finish = none := rfl
  rw [page_eq_map, fault?_map, fault?_runAll (lowers_of_mem_calls vocabulary)
    (foldlM_after?_calls vocabulary)]
  change calls.findSome? (Call.breach? vocabulary) = _
  simp (disch := decide +kernel) only [calls, uses, List.findSome?_cons, List.findSome?_nil,
    breach?_start, breach?_line, hclose, hfinish]

theorem fault?_page_eq_none_iff :
    fault? (page vocabulary) = none ↔ ∀ use ∈ uses, vocabulary.Provides use.2 := by
  rw [fault?_page, List.findSome?_eq_none_iff]
  exact forall₂_congr fun _ _ => Vocabulary.objection?_eq_none_iff

/-- The calls of the page before the last add its text to the document. -/
theorem join_adds (h : ∀ use ∈ uses, vocabulary.Provides use.2) :
    String.join (calls.dropLast.map (Call.adds vocabulary .xml)) = text := by
  simp only [uses, List.forall_mem_cons] at h
  obtain ⟨hhtml, hhead, htitle, hbody, hh1, hp, _⟩ := h
  have hclose : ∀ name, Call.adds vocabulary .xml (.close name) =
      ElementDecl.closingTag name.toLower := fun _ => rfl
  simp (disch := decide +kernel) only [calls, List.dropLast_cons_cons, List.dropLast_singleton,
    List.map_cons, List.map_nil, adds_start hhtml, adds_start hhead, adds_line htitle,
    adds_start hbody, adds_line hh1, adds_line hp, hclose]
  decide +kernel

theorem page_eq_of_provides (h : ∀ use ∈ uses, vocabulary.Provides use.2) :
    page vocabulary = .ok text := by
  have hnone := (fault?_page_eq_none_iff vocabulary).mpr h
  rw [page_eq_map, fault?_map, fault?_eq_none_iff] at hnone
  obtain ⟨replies, hrun⟩ := hnone
  have hcalls : calls = calls.dropLast ++ [.finish] := rfl
  have hlowers : ∀ call ∈ calls.dropLast, call.Lowers vocabulary := fun call hcall =>
    lowers_of_mem_calls vocabulary call (List.dropLast_subset calls hcall)
  obtain ⟨first, hreplies⟩ := exists_of_runAll_finish hlowers (hcalls ▸ hrun)
  rw [page_eq_map, hrun, hreplies, join_adds vocabulary h]
  simp [Except.map, replyText]

/-- There is a page just if a vocabulary provides all six elements, and it is always the same. If
not, the first element in the order of the calls that is not provided is objected to. A close and
the finish are taken whenever their turn comes. -/
theorem page_of_vocabulary :
    ((∃ markup, page vocabulary = .ok markup) ↔ ∀ use ∈ uses, vocabulary.Provides use.2) ∧
    (∀ markup, page vocabulary = .ok markup → markup = text) ∧
    (∀ error, page vocabulary = .error error ↔ ∃ before form name after,
      uses = before ++ (form, name) :: after ∧ (∀ use ∈ before, vocabulary.Provides use.2) ∧
        vocabulary.objection? form name = some error) ∧
    ∀ before call after, calls = before ++ call :: after →
      (call = .finish ∨ ∃ name, call = .close name) →
      (∃ replies, ((new vocabulary .xml).runAll before).1 = .ok replies) →
      ((new vocabulary .xml).afterAll before).Accepts call := by
  have hprovides : (∃ markup, page vocabulary = .ok markup) ↔
      ∀ use ∈ uses, vocabulary.Provides use.2 := by
    rw [← fault?_eq_none_iff, fault?_page_eq_none_iff]
  refine ⟨hprovides, ?_, ?_, ?_⟩
  · intro markup hmarkup
    have hpage := page_eq_of_provides vocabulary (hprovides.mp ⟨markup, hmarkup⟩)
    rw [hmarkup, Except.ok.injEq] at hpage
    exact hpage
  · intro error
    rw [← fault?_eq_some_iff, fault?_page, List.findSome?_eq_some_iff]
    simp only [Vocabulary.objection?_eq_none_iff, Prod.exists]
    constructor
    · rintro ⟨before, form, name, after, huses, herror, hbefore⟩
      exact ⟨before, form, name, after, huses, hbefore, herror⟩
    · rintro ⟨before, form, name, after, huses, hbefore, herror⟩
      exact ⟨before, form, name, after, huses, herror, hbefore⟩
  · rintro before call after hcalls hcall ⟨replies, hrun⟩
    have huse : call.use? = none := by
      rcases hcall with rfl | ⟨name, rfl⟩ <;> rfl
    have hfit := foldlM_after?_calls vocabulary
    rw [hcalls] at hfit
    have hlowers := lowers_of_mem_calls vocabulary
    rw [hcalls, List.forall_mem_append] at hlowers
    exact accepts_afterAll hlowers.1 hrun hfit huse

/-- A vocabulary in which headings need a name, and paragraphs are empty. -/
def headingVocabulary : Vocabulary :=
  ⟨[⟨"body", none, false, []⟩, ⟨"h1", none, false, [⟨"class", false, .plain⟩,
      ⟨"id", true, .plain⟩]⟩, ⟨"head", none, false, []⟩, ⟨"html", none, false, []⟩,
    ⟨"p", none, true, []⟩, ⟨"title", none, false, [⟨"dir", false, .oneOf ["ltr", "rtl"]⟩]⟩]⟩

theorem page_of_vocabulary_heading :
    page headingVocabulary = .error (.missingRequiredAttribute "h1" "id" []) ∧
      ((new headingVocabulary .xml).afterAll (calls.take 3)).Accepts (.close "head") := by
  have huses : ∀ use ∈ uses.take 4, headingVocabulary.objection? use.1 use.2 = none := by
    decide +kernel
  have hreplies : ((new headingVocabulary .xml).runAll (calls.take 3)).1 =
      .ok [.nothing, .nothing, .fragment ⟨"<title>Hello world!</title>"⟩] := by
    decide +kernel
  obtain ⟨_, _, herror, hclose⟩ := page_of_vocabulary headingVocabulary
  refine ⟨(herror _).mpr ⟨uses.take 4, .whole, "h1", [(.whole, "p")], rfl, ?_, ?_⟩, ?_⟩
  · exact fun use huse => Vocabulary.objection?_eq_none_iff.mp (huses use huse)
  · decide +kernel
  · exact hclose _ _ (calls.drop 4) rfl (.inr ⟨"head", rfl⟩) ⟨_, hreplies⟩

end Sample

end CheckedMarkup
