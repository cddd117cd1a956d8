import CheckedMarkup.Proofs.Session.Outline
import CheckedMarkup.Vocabulary.Table
import Mathlib.Data.List.Forall2

/-! # Leaves

The plain texts in a document are those that its script supplies, and trusted
markup of the script stands in it as it was supplied. No escaper has a say in
which texts these are.
-/

namespace CheckedMarkup

open Fallible

/-- Whether nothing was supplied, before any escaping. -/
def Leaf.isEmpty : Leaf → Bool
  | literal content | text content | value content => content.isEmpty

/-- The value of an attribute, in a template. -/
def Written.leaf (written : Written) : Leaf :=
  match written.value with
  | .text raw => .value raw
  | .markup fragment => .literal fragment.text

theorem Piece.isEmpty_leaf (piece : Piece) : piece.leaf.isEmpty = piece.isEmpty := by
  cases piece <;> rfl

/-! ## What a vocabulary supplies -/

/-- The markup that tags are made of, with the names that the vocabulary declares. -/
inductive Vocabulary.Owns (vocabulary : Vocabulary) : Leaf → Prop
  | opening {element : ElementDecl} (h : element ∈ vocabulary.elements) :
      Owns vocabulary (.literal ("<" ++ element.name))
  | attribute {element : ElementDecl} {decl : AttributeDecl} (h : element ∈ vocabulary.elements)
      (hdecl : decl ∈ element.attributes) :
      Owns vocabulary (.literal (" " ++ decl.name ++ "=\""))
  | quote : Owns vocabulary (.literal "\"")
  | bracket : Owns vocabulary (.literal ">")
  | slash : Owns vocabulary (.literal " />")
  | closing {element : ElementDecl} (h : element ∈ vocabulary.elements) :
      Owns vocabulary (.literal (ElementDecl.closingTag element.name))

namespace ElementDecl

variable {element : ElementDecl} {form : Form} {written : List Written} {contents : Template}
  {leaf : Leaf}

theorem exists_decl_of_mem_written {entries : List (String × AttributeValue)} {one : Written}
    (h : one ∈ element.written entries) : ∃ decl ∈ element.attributes, decl.name = one.name := by
  obtain ⟨entry, _, hwritten⟩ := List.mem_filterMap.mp h
  obtain ⟨decl, hdecl, hvalue⟩ := Option.bind_eq_some_iff.mp hwritten
  exact ⟨decl, mem_of_attribute? hdecl, (AttributeDecl.name_of_written? hvalue).symm⟩

/-- What an element writes is its own, apart from the values of attributes and the content. -/
theorem cases_of_mem_frame {vocabulary : Vocabulary} (helement : element ∈ vocabulary.elements)
    (hnames : ∀ one ∈ written, ∃ decl ∈ element.attributes, decl.name = one.name)
    (h : leaf ∈ element.frame form written contents) :
    vocabulary.Owns leaf ∨ leaf ∈ contents ∨ ∃ one ∈ written, leaf = one.leaf := by
  unfold frame at h
  rw [List.cons_append, List.mem_cons, List.mem_append, List.mem_flatMap] at h
  rcases h with rfl | ⟨one, hone, hleaf⟩ | hleaf
  · exact .inl (.opening helement)
  · obtain ⟨decl, hdecl, hname⟩ := hnames one hone
    simp only [Written.template, List.mem_cons, List.not_mem_nil, or_false, ← hname] at hleaf
    rcases hleaf with rfl | rfl | rfl
    · exact .inl (.attribute helement hdecl)
    · exact .inr (.inr ⟨one, hone, rfl⟩)
    · exact .inl .quote
  · cases form with
    | opening =>
        rw [List.mem_singleton] at hleaf
        subst hleaf
        exact .inl .bracket
    | whole =>
        simp only at hleaf
        split at hleaf
        · rw [List.mem_singleton] at hleaf
          subst hleaf
          exact .inl .slash
        · simp only [List.cons_append, List.mem_cons, List.mem_append, List.not_mem_nil,
            or_false] at hleaf
          rcases hleaf with rfl | hleaf | rfl
          · exact .inl .bracket
          · exact .inr (.inl hleaf)
          · exact .inl (.closing helement)

theorem leaf_mem_frame {one : Written} (h : one ∈ written) :
    one.leaf ∈ element.frame form written contents := by
  unfold frame
  rw [List.cons_append, List.mem_cons, List.mem_append, List.mem_flatMap]
  refine .inr (.inl ⟨one, h, ?_⟩)
  exact List.mem_cons_of_mem _ List.mem_cons_self

theorem mem_frame_of_mem_contents (hempty : element.isEmpty = false) (h : leaf ∈ contents) :
    leaf ∈ element.frame .whole written contents := by
  simp [frame, hempty, h]

end ElementDecl

/-! ## What a step supplies -/

namespace Step

def plan? : Step → Option (Plan Source)
  | .render plan | .element plan | .start plan => some plan
  | .close _ | .write _ | .comment _ | .script _ | .finish => none

def contents : Step → List Source
  | .render plan | .element plan | .start plan => plan.contents
  | .write sources => sources
  | .close _ | .comment _ | .script _ | .finish => []

/-- Whether a step gives a value to an attribute that its element declares. -/
def Gives (vocabulary : Vocabulary) (step : Step) (decl : AttributeDecl) (value : AttributeValue) :
    Prop :=
  ∃ plan element name, step.plan? = some plan ∧ vocabulary.find? plan.name = some element ∧
    element.attribute? name = some decl ∧ (name, value) ∈ plan.attributes.entries

/-- The leaves that a step supplies: its content as it is, and its attributes in the form in which
they are written. -/
inductive Supplies (vocabulary : Vocabulary) : Step → Leaf → Prop
  | piece {step : Step} {content : Piece} (h : .piece content ∈ step.contents) :
      Supplies vocabulary step content.leaf
  | text {step : Step} {decl : AttributeDecl} {raw : String}
      (h : step.Gives vocabulary decl (.text raw)) :
      Supplies vocabulary step (.value (decl.normal raw))
  | markup {step : Step} {decl : AttributeDecl} {fragment : Fragment}
      (h : step.Gives vocabulary decl (.markup fragment)) :
      Supplies vocabulary step (.literal (decl.normal fragment.text))
  | switch {step : Step} {decl : AttributeDecl} (hkind : decl.kind = .switch)
      (h : step.Gives vocabulary decl (.flag true)) : Supplies vocabulary step (.value decl.name)
  | comment (lines : List String) :
      Supplies vocabulary (.comment lines) (.literal (commentText lines))
  | script (lines : List String) :
      Supplies vocabulary (.script lines) (.literal (scriptText lines))

variable {vocabulary : Vocabulary} {step : Step} {plan : Plan Source} {element : ElementDecl}

theorem supplies_of_mem_written (hplan : step.plan? = some plan)
    (hfind : vocabulary.find? plan.name = some element)
    (hadmits : element.Admits plan.attributes.entries) {one : Written}
    (hone : one ∈ element.written plan.attributes.entries) :
    step.Supplies vocabulary one.leaf := by
  obtain ⟨⟨name, value⟩, hentry, hwritten⟩ := List.mem_filterMap.mp hone
  obtain ⟨decl, hdecl, hvalue⟩ := Option.bind_eq_some_iff.mp hwritten
  have hgives : step.Gives vocabulary decl value :=
    ⟨plan, element, name, hplan, hfind, hdecl, hentry⟩
  obtain ⟨other, hother, hadmitted⟩ := hadmits _ hentry
  cases hdecl.symm.trans hother
  cases value with
  | text raw =>
      cases hvalue
      exact .text hgives
  | markup fragment =>
      cases hvalue
      exact .markup hgives
  | flag on =>
      cases on with
      | false => cases hvalue
      | true =>
          cases hvalue
          exact .switch hadmitted hgives

theorem Gives.mem_written {decl : AttributeDecl} {value : AttributeValue} {one : Written}
    (h : step.Gives vocabulary decl value) (hplan : step.plan? = some plan)
    (hfind : vocabulary.find? plan.name = some element) (hone : decl.written? value = some one) :
    one ∈ element.written plan.attributes.entries := by
  obtain ⟨other, declared, name, hother, hdeclared, hdecl, hentry⟩ := h
  cases hplan.symm.trans hother
  cases hfind.symm.trans hdeclared
  exact List.mem_filterMap.mpr ⟨_, hentry, Option.bind_eq_some_iff.mpr ⟨decl, hdecl, hone⟩⟩

/-- A step without a tag supplies its content, or its comment or script. -/
theorem Supplies.of_plan?_eq_none {leaf : Leaf} (h : step.Supplies vocabulary leaf)
    (hplan : step.plan? = none) :
    (∃ content, .piece content ∈ step.contents ∧ leaf = content.leaf) ∨
      (∃ lines, step = .comment lines ∧ leaf = .literal (commentText lines)) ∨
      ∃ lines, step = .script lines ∧ leaf = .literal (scriptText lines) := by
  cases h with
  | piece h => exact .inl ⟨_, h, rfl⟩
  | text h | markup h | switch _ h =>
      obtain ⟨plan, _, _, hother, _⟩ := h
      cases hplan.symm.trans hother
  | comment lines => exact .inr (.inl ⟨lines, rfl, rfl⟩)
  | script lines => exact .inr (.inr ⟨lines, rfl, rfl⟩)

end Step

/-! ## The leaves of an outline -/

namespace Outline

def Reply.leaves : Reply → List Leaf
  | nothing => []
  | fragment template | document template => template

/-- The leaves of what a step returned, and of what has been added by then. -/
def Moment.leaves (moment : Moment) : List Leaf :=
  (match moment.answer with
    | .ok reply => reply.leaves
    | .error _ => []) ++ moment.outline.fragments.flatten

variable {outline next : Outline} {made : List (Option Template)} {step : Step} {reply : Reply}

theorem Leads.vocabulary_eq (h : Leads outline made step reply next) :
    next.vocabulary = outline.vocabulary := by
  cases h <;> rfl

section

variable {p : Leaf → Prop}

/-- Whether all leaves of an outline, and of what earlier steps made, are of one sort. Only declared
elements are open. -/
structure IsOf (p : Leaf → Prop) (outline : Outline) (made : List (Option Template)) : Prop where
  fragments : ∀ leaf ∈ outline.fragments.flatten, p leaf
  made : ∀ template, some template ∈ made → ∀ leaf ∈ template, p leaf
  stack : ∀ name ∈ outline.stack, ∃ element ∈ outline.vocabulary.elements, element.name = name

theorem IsOf.source (h : outline.IsOf p made) {source : Source}
    (hpiece : ∀ content, source = .piece content → p content.leaf) :
    ∀ leaf ∈ source.template made, p leaf := by
  intro leaf hleaf
  cases source with
  | piece content =>
      rw [List.mem_singleton.mp hleaf]
      exact hpiece content rfl
  | earlier step =>
      simp only [Source.template] at hleaf
      rcases hstep : made[step]? with _ | _ | template
      · simp [hstep] at hleaf
      · simp [hstep] at hleaf
      · simp only [hstep, Option.getD_some] at hleaf
        exact h.made template (List.mem_of_getElem? hstep) leaf hleaf

/-- What a planned tag writes is of the same sort, if all that its step supplies is. -/
theorem IsOf.template (h : outline.IsOf p made)
    (howned : ∀ leaf, outline.vocabulary.Owns leaf → p leaf)
    (hsupplied : ∀ leaf, step.Supplies outline.vocabulary leaf → p leaf)
    {form : Form} {plan : Plan Source} {template : Template}
    (hplan : step.plan? = some plan) (hcontents : step.contents = plan.contents)
    (hmake : outline.make made form plan = .ok template) : ∀ leaf ∈ template, p leaf := by
  obtain ⟨element, written, hfind, hcheck, rfl⟩ := make_eq_ok_iff.mp hmake
  obtain ⟨_, hadmits, _, hwritten⟩ := ElementDecl.check_eq_ok_iff.mp hcheck
  rw [Plan.attributes_tag_resolve] at hadmits hwritten
  subst hwritten
  intro leaf hleaf
  rcases ElementDecl.cases_of_mem_frame (Vocabulary.mem_of_find? hfind)
      (fun _ => ElementDecl.exists_decl_of_mem_written) hleaf with
    hown | hcontent | ⟨one, hone, rfl⟩
  · exact howned leaf hown
  · obtain ⟨source, hsource, hleaf⟩ := List.mem_flatMap.mp hcontent
    refine h.source (fun content hpiece => hsupplied _ (.piece ?_)) leaf hleaf
    rwa [hcontents, ← hpiece]
  · exact hsupplied _ (Step.supplies_of_mem_written hplan hfind hadmits hone)

theorem IsOf.add (h : outline.IsOf p made) {fragments : List Template}
    (hfragments : ∀ leaf ∈ fragments.flatten, p leaf) : (outline.add fragments).IsOf p made := by
  refine ⟨?_, h.made, h.stack⟩
  intro leaf hleaf
  rw [Outline.add, List.flatten_append] at hleaf
  rcases List.mem_append.mp hleaf with hold | hnew
  · exact h.fragments leaf hold
  · exact hfragments leaf hnew

theorem IsOf.push (h : outline.IsOf p made) {template : Template}
    (htemplate : ∀ leaf ∈ template, p leaf) {stack : List String}
    (hstack : ∀ name ∈ stack, ∃ element ∈ outline.vocabulary.elements, element.name = name) :
    (outline.push template stack).IsOf p made := by
  have hadd : (outline.add [template]).IsOf p made := h.add (by simpa using htemplate)
  exact ⟨hadd.fragments, hadd.made, hstack⟩

/-- What a step returns and adds is of the same sort as what was there and what it supplies. -/
theorem IsOf.leads (h : outline.IsOf p made)
    (howned : ∀ leaf, outline.vocabulary.Owns leaf → p leaf)
    (hsupplied : ∀ leaf, step.Supplies outline.vocabulary leaf → p leaf)
    (hleads : Leads outline made step reply next) :
    (∀ leaf ∈ reply.leaves, p leaf) ∧ next.IsOf p made := by
  cases hleads with
  | render hmake => exact ⟨h.template howned hsupplied rfl rfl hmake, h⟩
  | element hmake =>
      have htemplate := h.template howned hsupplied rfl rfl hmake
      exact ⟨htemplate, h.add (by simpa using htemplate)⟩
  | start hfind hmake =>
      refine ⟨by simp [Reply.leaves], h.push (h.template howned hsupplied rfl rfl hmake) ?_⟩
      rw [List.forall_mem_cons]
      exact ⟨⟨_, Vocabulary.mem_of_find? hfind, rfl⟩, h.stack⟩
  | close hstack name =>
      have hnames := h.stack
      rw [hstack, List.forall_mem_cons] at hnames
      obtain ⟨⟨element, helement, rfl⟩, hrest⟩ := hnames
      exact ⟨by simp [Reply.leaves], h.push (by simpa using howned _ (.closing helement)) hrest⟩
  | write sources =>
      refine ⟨by simp [Reply.leaves], h.add ?_⟩
      intro leaf hleaf
      obtain ⟨template, htemplate, hleaf⟩ := List.mem_flatten.mp hleaf
      obtain ⟨source, hsource, rfl⟩ := List.mem_map.mp htemplate
      refine h.source (fun content hpiece => hsupplied _ (.piece ?_)) leaf hleaf
      exact hpiece ▸ hsource
  | comment lines =>
      exact ⟨by simp [Reply.leaves], h.add (by simpa using hsupplied _ (.comment lines))⟩
  | script lines =>
      exact ⟨by simp [Reply.leaves], h.add (by simpa using hsupplied _ (.script lines))⟩
  | finish => exact ⟨h.fragments, by simp, h.made, h.stack⟩

theorem IsOf.concat (h : outline.IsOf p made) (hreply : ∀ leaf ∈ reply.leaves, p leaf) :
    outline.IsOf p (made ++ [reply.template?]) := by
  refine ⟨h.fragments, ?_, h.stack⟩
  intro template hmem
  rcases List.mem_append.mp hmem with hmem | hmem
  · exact h.made template hmem
  · cases reply with
    | fragment other =>
        cases List.mem_singleton.mp hmem
        exact hreply
    | nothing | document => cases List.mem_singleton.mp hmem

theorem IsOf.follow (h : outline.IsOf p made)
    (howned : ∀ leaf, outline.vocabulary.Owns leaf → p leaf) {script : List Step}
    (hsupplied : ∀ step ∈ script, ∀ leaf, step.Supplies outline.vocabulary leaf → p leaf) :
    ∀ moment ∈ outline.follow made script, ∀ leaf ∈ moment.leaves, p leaf := by
  induction script generalizing outline made with
  | nil => simp [Outline.follow]
  | cons step rest ih =>
      unfold Outline.follow
      split
      next error htake =>
        -- a refused step made nothing that a later one could use
        have hnone : outline.IsOf p (made ++ [Reply.nothing.template?]) :=
          h.concat (by simp [Reply.leaves])
        rw [List.forall_mem_cons]
        refine ⟨?_, ih hnone howned fun other hother =>
          hsupplied other (List.mem_cons_of_mem _ hother)⟩
        simpa [Moment.leaves] using h.fragments
      next reply next htake =>
        have hleads := leads_of_take htake
        obtain ⟨hreply, hnext⟩ := h.leads howned (hsupplied step List.mem_cons_self) hleads
        rw [List.forall_mem_cons]
        constructor
        · intro leaf hleaf
          rcases List.mem_append.mp hleaf with hleaf | hleaf
          · exact hreply leaf hleaf
          · exact hnext.fragments leaf hleaf
        · rw [← hleads.vocabulary_eq] at howned hsupplied
          exact ih (hnext.concat hreply) howned fun other hother =>
            hsupplied other (List.mem_cons_of_mem _ hother)

end

/-- All leaves are markup of the vocabulary's own, or supplied by the script. -/
theorem owns_or_supplies_of_mem_leaves {vocabulary : Vocabulary} {script : List Step}
    {moment : Moment} (h : moment ∈ (new vocabulary).runScript script) {leaf : Leaf}
    (hleaf : leaf ∈ moment.leaves) :
    vocabulary.Owns leaf ∨ ∃ step ∈ script, step.Supplies vocabulary leaf := by
  have hnew : (new vocabulary).IsOf
      (fun leaf => vocabulary.Owns leaf ∨ ∃ step ∈ script, step.Supplies vocabulary leaf) [] :=
    ⟨by simp [new], by simp, by simp [new]⟩
  exact hnew.follow (fun leaf hleaf => .inl hleaf)
    (fun step hstep leaf hleaf => .inr ⟨step, hstep, hleaf⟩) moment h leaf hleaf

/-! ## What is supplied is there -/

/-- What a tag supplies, it writes. -/
theorem mem_of_make {form : Form} {plan : Plan Source} {template : Template}
    (hplan : step.plan? = some plan) (hcontents : step.contents = plan.contents)
    (hmake : outline.make made form plan = .ok template) {leaf : Leaf}
    (hsupplied : step.Supplies outline.vocabulary leaf) (hempty : leaf.isEmpty = false) :
    leaf ∈ template := by
  obtain ⟨element, written, hfind, hcheck, rfl⟩ := make_eq_ok_iff.mp hmake
  obtain ⟨⟨_, hfits⟩, _, _, hwritten⟩ := ElementDecl.check_eq_ok_iff.mp hcheck
  rw [Plan.attributes_tag_resolve] at hwritten
  subst hwritten
  cases hsupplied with
  | @piece _ content hcontent =>
      rw [hcontents] at hcontent
      rw [Piece.isEmpty_leaf] at hempty
      have hany : (plan.map (Source.resolve (fillAll .plain made))).tag.hasContent = true := by
        rw [Plan.hasContent_tag_resolve, List.any_eq_true]
        exact ⟨_, hcontent, by simpa [Source.resolve] using hempty⟩
      have hmem : content.leaf ∈ plan.contents.flatMap (Source.template made) :=
        List.mem_flatMap.mpr ⟨_, hcontent, List.mem_singleton.mpr rfl⟩
      -- only an element that is not empty, used as a whole, may have content
      cases form with
      | opening => exact absurd (hfits.2.symm.trans hany) (by simp)
      | whole =>
          cases helement : element.isEmpty with
          | true => exact absurd ((hfits helement).symm.trans hany) (by simp)
          | false => exact ElementDecl.mem_frame_of_mem_contents helement hmem
  | text hgives | markup hgives | switch _ hgives =>
      have hone := hgives.mem_written hplan hfind rfl
      exact ElementDecl.leaf_mem_frame hone
  | comment | script => cases hplan

theorem mem_leaves_of_leads (hleads : Leads outline made step reply next) {leaf : Leaf}
    (hsupplied : step.Supplies outline.vocabulary leaf) (hempty : leaf.isEmpty = false) :
    leaf ∈ Moment.leaves ⟨.ok reply, next⟩ := by
  rw [Moment.leaves, List.mem_append]
  cases hleads with
  | render hmake => exact .inl (mem_of_make rfl rfl hmake hsupplied hempty)
  | element hmake => exact .inl (mem_of_make rfl rfl hmake hsupplied hempty)
  | start _ hmake =>
      refine .inr ?_
      simp [push, add, mem_of_make rfl rfl hmake hsupplied hempty]
  | write sources =>
      rcases hsupplied.of_plan?_eq_none rfl with
        ⟨content, hcontent, rfl⟩ | ⟨_, hstep, _⟩ | ⟨_, hstep, _⟩
      · refine .inr ?_
        rw [add, List.flatten_append, List.mem_append]
        refine .inr (List.mem_flatten.mpr ⟨_, List.mem_map_of_mem hcontent, ?_⟩)
        exact List.mem_singleton.mpr rfl
      · cases hstep
      · cases hstep
  | close | comment | script | finish =>
      rcases hsupplied.of_plan?_eq_none rfl with
        ⟨content, hcontent, rfl⟩ | ⟨_, hstep, rfl⟩ | ⟨_, hstep, rfl⟩
      · cases hcontent
      · cases hstep <;> simp [add]
      · cases hstep <;> simp [add]

theorem mem_leaves_of_mem_zip {script : List Step} {moment : Moment}
    (hzip : (step, moment) ∈ script.zip (outline.follow made script))
    (hanswer : moment.answer = .ok reply) {leaf : Leaf}
    (hsupplied : step.Supplies outline.vocabulary leaf) (hempty : leaf.isEmpty = false) :
    leaf ∈ moment.leaves := by
  induction script generalizing outline made with
  | nil => simp at hzip
  | cons first rest ih =>
      unfold Outline.follow at hzip
      split at hzip
      next error htake =>
        rcases List.mem_cons.mp hzip with heq | hrest
        · cases heq
          cases hanswer
        · exact ih hrest hsupplied
      next other next htake =>
        have hleads := leads_of_take htake
        rcases List.mem_cons.mp hzip with heq | hrest
        · cases heq
          cases hanswer
          exact mem_leaves_of_leads hleads hsupplied hempty
        · rw [← hleads.vocabulary_eq] at hsupplied
          exact ih hrest hsupplied

end Outline

/-- Whether two moments are alike in all that does not depend on what is written. -/
def Moment.Matches (moment other : Moment) : Prop :=
  fault? moment.answer = fault? other.answer ∧
    moment.session.openTags = other.session.openTags ∧
    moment.session.isFinished = other.session.isFinished

namespace Session

/-- An escaper fills in the leaves of the outline of a script and has no other effect: the same
calls are refused, for the same reasons, and the same elements are open. Apart from the markup that
tags are made of, the leaves are those that the script supplies, and all that a call supplies is
among them. -/
theorem escaper_fills_leaves (vocabulary : Vocabulary) (script : List Step) :
    (∀ escaper, ((new vocabulary escaper).runScript script).moments =
      ((Outline.new vocabulary).runScript script).map (Outline.Moment.fill escaper)) ∧
    (∀ first second, List.Forall₂ Moment.Matches
      ((new vocabulary first).runScript script).moments
      ((new vocabulary second).runScript script).moments) ∧
    (∀ moment ∈ (Outline.new vocabulary).runScript script, ∀ leaf ∈ moment.leaves,
      vocabulary.Owns leaf ∨ ∃ step ∈ script, step.Supplies vocabulary leaf) ∧
    ∀ step moment, (step, moment) ∈ script.zip ((Outline.new vocabulary).runScript script) →
      ∀ reply, moment.answer = .ok reply → ∀ leaf, step.Supplies vocabulary leaf →
        leaf.isEmpty = false → leaf ∈ moment.leaves := by
  have hfill := fun escaper => Outline.fill_runScript vocabulary escaper script
  refine ⟨hfill, ?_, ?_, ?_⟩
  · intro first second
    rw [hfill, hfill, List.forall₂_map_left_iff, List.forall₂_map_right_iff, List.forall₂_same]
    intro moment _
    refine ⟨?_, rfl, rfl⟩
    cases hanswer : moment.answer <;> simp [Outline.Moment.fill, hanswer, Except.map, fault?]
  · intro moment hmoment leaf hleaf
    exact Outline.owns_or_supplies_of_mem_leaves hmoment hleaf
  · intro step moment hzip reply hanswer leaf hsupplied hempty
    exact Outline.mem_leaves_of_mem_zip hzip hanswer hsupplied hempty

def cellTable : Table :=
  ⟨[("p", "block"), ("td", "nowrap? align(left|right)")], [("all", "title")]⟩

def cellVocabulary : Vocabulary :=
  ⟨[⟨"p", some .block, false, [⟨"title", false, .plain⟩]⟩,
    ⟨"td", none, false, [⟨"nowrap", false, .switch⟩, ⟨"align", false, .oneOf ["left", "right"]⟩,
      ⟨"title", false, .plain⟩]⟩]⟩

/-- A cell that holds the paragraph of an earlier step twice. -/
def cellPlan : Plan Source :=
  ⟨.named "TD", [.attr "Align" (.markup ⟨"LEFT"⟩), .attr "nowrap" (.flag true),
    .children [.earlier 0, .earlier 0]]⟩

/-- Writes a cell, and its paragraph once more. -/
def cellScript : List Step :=
  [.render ⟨.named "P", [.attr "title" (.text "x\"y"), .text "a<b"]⟩, .render cellPlan, .close "td",
    .write [.earlier 1, .earlier 2, .earlier 0], .finish]

def paragraphTemplate : Template :=
  [.literal "<p", .literal " title=\"", .value "x\"y", .literal "\"", .literal ">", .text "a<b",
    .literal "</p>"]

def cellTemplate : Template :=
  [.literal "<td", .literal " align=\"", .literal "left", .literal "\"", .literal " nowrap=\"",
    .value "nowrap", .literal "\"", .literal ">"] ++ paragraphTemplate ++ paragraphTemplate ++
    [.literal "</td>"]

theorem escaper_fills_leaves_cell :
    (∀ escaper : Escaper,
      ((new cellVocabulary escaper).runScript cellScript).moments.map Moment.answer =
        [.ok (.fragment (paragraphTemplate.encode escaper)),
          .ok (.fragment (cellTemplate.encode escaper)), .error (.noOpenTags "td"), .ok .nothing,
          .ok (.document (Template.encode escaper (cellTemplate ++ paragraphTemplate)).text)]) ∧
    ∃ moment, (.render cellPlan, moment) ∈
        cellScript.zip ((Outline.new cellVocabulary).runScript cellScript) ∧
      .literal "left" ∈ moment.leaves := by
  have hanswers : ((Outline.new cellVocabulary).runScript cellScript).map Outline.Moment.answer =
      [.ok (.fragment paragraphTemplate), .ok (.fragment cellTemplate), .error (.noOpenTags "td"),
        .ok .nothing, .ok (.document (cellTemplate ++ paragraphTemplate))] := by
    decide +kernel
  obtain ⟨hfill, _, _, hsupplied⟩ := escaper_fills_leaves cellVocabulary cellScript
  constructor
  · intro escaper
    have hmap : ∀ moments : List Outline.Moment,
        (moments.map (Outline.Moment.fill escaper)).map Moment.answer =
          (moments.map Outline.Moment.answer).map (Except.map (Outline.Reply.fill escaper)) := by
      simp [Outline.Moment.fill]
    rw [hfill, hmap, hanswers]
    rfl
  · -- the cell gives its alignment as markup, and it is written in lower case
    have hgives : Step.Gives cellVocabulary (.render cellPlan)
        ⟨"align", false, .oneOf ["left", "right"]⟩ (.markup ⟨"LEFT"⟩) := by
      refine ⟨cellPlan, cellVocabulary.elements[1], "align", rfl, ?_, ?_, ?_⟩ <;> decide +kernel
    have hnormal : AttributeDecl.normal ⟨"align", false, .oneOf ["left", "right"]⟩ "LEFT" =
        "left" := by decide +kernel
    have hleaf := Step.Supplies.markup hgives
    rw [hnormal] at hleaf
    have hsecond := congrArg (fun answers => answers[1]?) hanswers
    rw [List.getElem?_map] at hsecond
    obtain ⟨moment, hmoment, hanswer⟩ := Option.map_eq_some_iff.mp hsecond
    have hzip : (.render cellPlan, moment) ∈
        cellScript.zip ((Outline.new cellVocabulary).runScript cellScript) :=
      List.mem_of_getElem? (List.getElem?_zip_eq_some.mpr ⟨rfl, hmoment⟩)
    exact ⟨moment, hzip, hsupplied _ _ hzip _ hanswer _ hleaf (by decide)⟩

/-- A cell whose trusted value is not written as it was supplied. -/
def looseScript : List Step :=
  [.element ⟨.named "td", [.attr "align" (.markup ⟨"LEFT"⟩)]⟩, .finish]

/-- A trusted value of an enumerated attribute is in no template of the document: it is put into
lower case like a plain one. -/
theorem trusted_option_not_verbatim :
    cellTable.compile = .ok cellVocabulary ∧
    ¬∃ template : Template,
      (∀ escaper : Escaper, .ok (.document (template.encode escaper).text) ∈
        ((new cellVocabulary escaper).runScript looseScript).moments.map Moment.answer) ∧
      ∃ markup, .literal markup ∈ template ∧ "LEFT".toList <:+: markup.toList := by
  refine ⟨by decide +kernel, ?_⟩
  rintro ⟨template, hdocument, markup, hmarkup, hfound⟩
  have hanswers : ((new cellVocabulary .xml).runScript looseScript).moments.map Moment.answer =
      [.ok (.fragment ⟨"<td align=\"left\"></td>"⟩),
        .ok (.document "<td align=\"left\"></td>")] := by decide +kernel
  have hmem := hdocument .xml
  rw [hanswers] at hmem
  have htext : (template.encode .xml).text = "<td align=\"left\"></td>" := by simpa using hmem
  obtain ⟨before, after, rfl⟩ := List.append_of_mem hmarkup
  rw [Template.encode_append, Template.encode_cons, Leaf.encode] at htext
  have hpart : markup.toList <:+: "<td align=\"left\"></td>".toList := by
    rw [← htext]
    refine ⟨(Template.encode .xml before).text.toList, (Template.encode .xml after).text.toList, ?_⟩
    simp
  have habsent : ¬"LEFT".toList <:+: "<td align=\"left\"></td>".toList := by decide +kernel
  exact habsent (hfound.trans hpart)

end Session

end CheckedMarkup
