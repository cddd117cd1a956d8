import CheckedMarkup.Proofs.Session.Plans
import CheckedMarkup.Proofs.Session.Run

/-! # Outlines

An outline is a session that has no escaper yet. It answers a script as sessions
do, but with templates in the place of markup, and no escaper makes a difference
to a session beyond filling these in.
-/

namespace CheckedMarkup

open Fallible

/-- Writes plain text as it is. -/
def Escaper.plain : Escaper := ⟨id, id⟩

/-- The fragments that earlier steps returned, under an escaper. -/
def fillAll (escaper : Escaper) (made : List (Option Template)) : List (Option Fragment) :=
  made.map (Option.map (Template.encode escaper))

/-- What a source writes, given what earlier steps made. -/
def Source.template (made : List (Option Template)) : Source → Template
  | .piece content => [content.leaf]
  | .earlier step => (made[step]?.getD none).getD []

/-- What a call that succeeded led to, apart from what it logged. -/
def Outcome.told (outcome : Outcome) : Except CallError (Reply × Session) :=
  outcome.success.map fun (reply, session, _) => (reply, session)

theorem Outcome.told_eq_ok_iff {outcome : Outcome} {reply : Reply} {session : Session} :
    outcome.told = .ok (reply, session) ↔
      outcome.answer = .ok reply ∧ outcome.session = session := by
  obtain ⟨answer, after, log⟩ := outcome
  cases answer <;> simp [told, success, Except.map]

theorem Outcome.told_eq_error_iff {outcome : Outcome} {error : CallError} :
    outcome.told = .error error ↔ outcome.answer = .error error := by
  obtain ⟨answer, after, log⟩ := outcome
  cases answer <;> simp [told, success, Except.map]

theorem Session.call_of_told_eq_error {session : Session} {call : Call Tag Piece}
    {error : CallError} (h : (session.call call).told = .error error) :
    session.call call = ⟨.error error, session, []⟩ :=
  call_of_answer_eq_error (Outcome.told_eq_error_iff.mp h)

theorem Session.moments_follow_cons (session : Session) (returned : List (Option Fragment))
    (step : Step) (rest : List Step) :
    (session.follow returned (step :: rest)).moments =
      ⟨session.answer (step.resolve returned), session.after (step.resolve returned)⟩ ::
        ((session.after (step.resolve returned)).follow
          (returned ++ [(session.call (step.resolve returned)).fragment?]) rest).moments := rfl

/-- A session without an escaper. -/
structure Outline where
  vocabulary : Vocabulary
  /-- What has been added, in order. -/
  fragments : List Template
  /-- The names of the open elements, innermost first. -/
  stack : List String
  isFinished : Bool

namespace Outline

inductive Reply where
  | nothing
  | fragment (template : Template)
  | document (template : Template)
deriving DecidableEq

/-- What one step led to: the answer to it, and the outline after it. -/
structure Moment where
  answer : Except CallError Reply
  outline : Outline

def new (vocabulary : Vocabulary) : Outline := ⟨vocabulary, [], [], false⟩

def add (outline : Outline) (fragments : List Template) : Outline :=
  { outline with fragments := outline.fragments ++ fragments }

/-- What a planned tag will write. It is checked with the earlier fragments unescaped, since all
that counts is which of them are empty. -/
def make (outline : Outline) (made : List (Option Template)) (form : Form) (plan : Plan Source) :
    Except CallError Template := do
  let element ← outline.vocabulary.element plan.name
  let written ← element.check form (plan.map (Source.resolve (fillAll .plain made))).tag
  return element.frame form written (plan.contents.flatMap (Source.template made))

/-- Adds a template and has other elements open from then on. -/
def push (outline : Outline) (template : Template) (stack : List String) : Outline :=
  { outline.add [template] with stack := stack }

def start (outline : Outline) (made : List (Option Template)) (plan : Plan Source) :
    Except CallError (Reply × Outline) := do
  let element ← outline.vocabulary.element plan.name
  let template ← outline.make made .opening plan
  return (.nothing, outline.push template (element.name :: outline.stack))

def close (outline : Outline) (name : String) : Except CallError (Reply × Outline) :=
  match outline.stack with
  | [] => .error (.noOpenTags name)
  | innermost :: rest =>
      if Text.sameUpToCase innermost name then
        .ok (.nothing, outline.push [.literal (ElementDecl.closingTag innermost)] rest)
      else .error (.mismatchedClose name innermost)

def finish (outline : Outline) : Except CallError (Reply × Outline) :=
  if outline.stack.isEmpty then
    .ok (.document outline.fragments.flatten, { outline with fragments := [], isFinished := true })
  else .error (.unclosedTags outline.stack.reverse)

/-- Takes one step of a script. -/
def take (outline : Outline) (made : List (Option Template)) (step : Step) :
    Except CallError (Reply × Outline) :=
  if outline.isFinished then .error .finished
  else match step with
    | .render plan => return (.fragment (← outline.make made .whole plan), outline)
    | .element plan => do
        let template ← outline.make made .whole plan
        return (.fragment template, outline.add [template])
    | .start plan => outline.start made plan
    | .close name => outline.close name
    | .write sources => .ok (.nothing, outline.add (sources.map (Source.template made)))
    | .comment lines => .ok (.nothing, outline.add [[.literal (commentText lines)]])
    | .script lines => .ok (.nothing, outline.add [[.literal (scriptText lines)]])
    | .finish => outline.finish

/-- The template that a step returned as a fragment. -/
def Reply.template? : Reply → Option Template
  | fragment template => some template
  | nothing | document _ => none

/-- Takes the steps of a script, given what earlier steps made. -/
def follow (outline : Outline) (made : List (Option Template)) : List Step → List Moment
  | [] => []
  | step :: rest =>
      match outline.take made step with
      | .error error => ⟨.error error, outline⟩ :: outline.follow (made ++ [none]) rest
      | .ok (reply, next) => ⟨.ok reply, next⟩ :: next.follow (made ++ [reply.template?]) rest

def runScript (outline : Outline) (script : List Step) : List Moment :=
  outline.follow [] script

/-! ## Outlines under an escaper -/

/-- The session that an outline is under an escaper. -/
def fill (escaper : Escaper) (outline : Outline) : Session :=
  ⟨outline.vocabulary, escaper, outline.fragments.map (Template.encode escaper), outline.stack,
    outline.isFinished⟩

def Reply.fill (escaper : Escaper) : Reply → CheckedMarkup.Reply
  | nothing => .nothing
  | fragment template => .fragment (template.encode escaper)
  | document template => .document (template.encode escaper).text

def Moment.fill (escaper : Escaper) (moment : Moment) : CheckedMarkup.Moment :=
  ⟨moment.answer.map (Reply.fill escaper), moment.outline.fill escaper⟩

end Outline

/-! ## What no escaper makes empty -/

/-- Whether a template begins with markup. -/
def Template.IsSolid (template : Template) : Prop :=
  ∃ markup rest, template = .literal markup :: rest ∧ markup ≠ ""

/-- Whether all fragments that were made begin with markup. -/
def AreSolid (made : List (Option Template)) : Prop :=
  ∀ template, some template ∈ made → Template.IsSolid template

theorem Template.IsSolid.isEmpty_encode {template : Template} (h : template.IsSolid)
    (escaper : Escaper) : (template.encode escaper).isEmpty = false := by
  obtain ⟨markup, rest, rfl, hmarkup⟩ := h
  rw [Fragment.isEmpty, Template.encode_cons, Leaf.encode]
  simp [hmarkup]

theorem ElementDecl.isSolid_frame (element : ElementDecl) (form : Form) (written : List Written)
    (contents : Template) : (element.frame form written contents).IsSolid := by
  refine ⟨"<" ++ element.name, _, rfl, ?_⟩
  simp

variable {made : List (Option Template)}

theorem AreSolid.concat (h : AreSolid made) {template? : Option Template}
    (hnext : ∀ template, template? = some template → Template.IsSolid template) :
    AreSolid (made ++ [template?]) := by
  intro template hmem
  rcases List.mem_append.mp hmem with hmem | hmem
  · exact h template hmem
  · exact hnext template (List.mem_singleton.mp hmem).symm

namespace Source

theorem encode_resolve (escaper : Escaper) (source : Source) :
    (source.resolve (fillAll escaper made)).encode escaper =
      (source.template made).encode escaper := by
  cases source with
  | piece piece => simp [resolve, template, Piece.encode, Template.encode]
  | earlier step =>
      simp only [resolve, template, fillAll, List.getElem?_map]
      rcases made[step]? with _ | _ | template
      · rfl
      · rfl
      · simp [Piece.encode, Piece.leaf, Leaf.encode]

/-- Whether a source is empty does not depend on the escaper. -/
theorem isEmpty_resolve (h : AreSolid made) (escaper : Escaper) (source : Source) :
    (source.resolve (fillAll escaper made)).isEmpty =
      (source.resolve (fillAll .plain made)).isEmpty := by
  cases source with
  | piece piece => rfl
  | earlier step =>
      simp only [resolve, fillAll, List.getElem?_map]
      rcases hstep : made[step]? with _ | _ | template
      · rfl
      · rfl
      · have hsolid := h template (List.mem_of_getElem? hstep)
        simp [Piece.isEmpty, hsolid.isEmpty_encode]

theorem concat_encode_resolve (escaper : Escaper) (sources : List Source) :
    Fragment.concat ((sources.map (resolve (fillAll escaper made))).map (Piece.encode escaper)) =
      Template.encode escaper (sources.flatMap (template made)) := by
  induction sources with
  | nil => rfl
  | cons source rest ih =>
      apply Fragment.eq_of_text_eq
      rw [List.map_cons, List.map_cons, Fragment.concat_cons, ih, List.flatMap_cons,
        Template.encode_append, encode_resolve]

end Source

/-! ## One step -/

namespace Outline

variable {outline : Outline}

theorem fill_make (h : AreSolid made) (escaper : Escaper) (form : Form) (plan : Plan Source) :
    (outline.fill escaper).make form (plan.map (Source.resolve (fillAll escaper made))).tag =
      (outline.make made form plan).map (Template.encode escaper) := by
  have hcheck : ∀ element : ElementDecl,
      element.check form (plan.map (Source.resolve (fillAll escaper made))).tag =
        element.check form (plan.map (Source.resolve (fillAll .plain made))).tag := by
    -- a check sees the attributes and which content there is, but not what the content says
    intro element
    apply element.check_congr
    · simp only [Plan.attributes_tag_resolve]
    · simp only [Plan.hasConflictingContent_tag_resolve]
    · simp only [Plan.hasContent_tag_resolve, Source.isEmpty_resolve h escaper]
  simp only [Session.make, Vocabulary.template, Outline.make, fill, Plan.name_tag_resolve,
    Plan.contents_tag_resolve, hcheck]
  cases outline.vocabulary.element plan.name with
  | error error => rfl
  | ok element =>
      simp only [bind_ok]
      cases element.check form (plan.map (Source.resolve (fillAll .plain made))).tag with
      | error error => rfl
      | ok written =>
          simp only [bind_ok, pure_eq, Except.map]
          rw [encode_template, Source.concat_encode_resolve, encode_frame]

theorem fill_add (escaper : Escaper) (fragments : List Template) :
    (outline.add fragments).fill escaper =
      (outline.fill escaper).add (fragments.map (Template.encode escaper)) := by
  simp [fill, add, Session.add]

theorem fill_push (escaper : Escaper) (template : Template) (stack : List String) :
    (outline.push template stack).fill escaper =
      { (outline.fill escaper).add [template.encode escaper] with stack := stack } := by
  simp [fill, push, add, Session.add]

theorem document_fill (outline : Outline) (escaper : Escaper) :
    (outline.fill escaper).document = (Template.encode escaper outline.fragments.flatten).text := by
  rw [Session.document, fill]
  induction outline.fragments with
  | nil => rfl
  | cons fragment rest ih =>
      rw [List.map_cons, Fragment.concat_cons, ih, List.flatten_cons, Template.encode_append]

def fillNext (escaper : Escaper) (next : Reply × Outline) : CheckedMarkup.Reply × Session :=
  (next.1.fill escaper, next.2.fill escaper)

theorem fill_start (hfinished : outline.isFinished = false) (h : AreSolid made)
    (escaper : Escaper) (plan : Plan Source) :
    ((outline.fill escaper).call
        (.start (plan.map (Source.resolve (fillAll escaper made))).tag)).told =
      (outline.start made plan).map (fillNext escaper) := by
  have hvocabulary : (outline.fill escaper).vocabulary = outline.vocabulary := rfl
  rw [Outcome.told, Session.success_start hfinished]
  simp only [Outline.start, fill_make h, Plan.name_tag_resolve, hvocabulary]
  cases outline.vocabulary.element plan.name with
  | error error => rfl
  | ok element =>
      cases outline.make made .opening plan with
      | error error => rfl
      | ok template =>
          simp only [Except.map, bind_ok, pure_eq, fillNext, fill_push]
          rfl

theorem fill_close (hfinished : outline.isFinished = false) (escaper : Escaper) (name : String) :
    ((outline.fill escaper).call (.close name)).told =
      (outline.close name).map (fillNext escaper) := by
  have hstack : (outline.fill escaper).stack = outline.stack := rfl
  rw [Outcome.told, Session.success_close hfinished, hstack, Outline.close]
  cases outline.stack with
  | nil => rfl
  | cons innermost rest =>
      dsimp only
      cases Text.sameUpToCase innermost name with
      | false => rfl
      | true =>
          simp only [if_true, Except.map, fillNext, fill_push]
          simp [Reply.fill, Template.encode, Leaf.encode]

theorem fill_finish (hfinished : outline.isFinished = false) (escaper : Escaper) :
    ((outline.fill escaper).call .finish).told = outline.finish.map (fillNext escaper) := by
  have hstack : (outline.fill escaper).stack = outline.stack := rfl
  rw [Outcome.told, Session.success_finish hfinished, hstack, Outline.finish]
  cases outline.stack.isEmpty with
  | false => rfl
  | true =>
      simp only [if_true, Except.map, fillNext, Reply.fill, document_fill]
      rfl

/-- A session takes a step as its outline does. -/
theorem fill_take (h : AreSolid made) (escaper : Escaper) (step : Step) :
    ((outline.fill escaper).call (step.resolve (fillAll escaper made))).told =
      (outline.take made step).map (fillNext escaper) := by
  unfold take
  cases hfinished : outline.isFinished with
  | true =>
      rw [Session.call_of_isFinished hfinished]
      rfl
  | false =>
      have hopen : (outline.fill escaper).isFinished = false := hfinished
      simp only [Bool.false_eq_true, if_false]
      cases step with
      | render plan =>
          simp only [Step.resolve, Outcome.told, Session.success_render hopen, fill_make h]
          cases outline.make made .whole plan <;> rfl
      | element plan =>
          simp only [Step.resolve, Outcome.told, Session.success_element hopen, fill_make h]
          cases outline.make made .whole plan with
          | error error => rfl
          | ok template =>
              simp only [Except.map, bind_ok, pure_eq, fillNext, fill_add]
              rfl
      | start plan => exact fill_start hfinished h escaper plan
      | close name => exact fill_close hfinished escaper name
      | write sources =>
          simp only [Step.resolve, Outcome.told, Session.success_write hopen, Except.map,
            fillNext, fill_add, List.map_map]
          simp [Reply.fill, Source.encode_resolve, fill, Function.comp_def]
      | comment lines =>
          simp only [Step.resolve, Outcome.told, Session.success_comment hopen, Except.map,
            fillNext, fill_add]
          simp [Reply.fill, Template.encode, Leaf.encode]
      | script lines =>
          simp only [Step.resolve, Outcome.told, Session.success_script hopen, Except.map,
            fillNext, fill_add]
          simp [Reply.fill, Template.encode, Leaf.encode]
      | finish => exact fill_finish hfinished escaper

theorem make_eq_ok_iff {form : Form} {plan : Plan Source} {template : Template} :
    outline.make made form plan = .ok template ↔
      ∃ element written, outline.vocabulary.find? plan.name = some element ∧
        element.check form (plan.map (Source.resolve (fillAll .plain made))).tag = .ok written ∧
        template = element.frame form written (plan.contents.flatMap (Source.template made)) := by
  simp only [make, bind_eq_ok_iff, Vocabulary.element_eq_ok_iff, pure_eq, Except.ok.injEq]
  constructor
  · rintro ⟨element, hfind, written, hcheck, rfl⟩
    exact ⟨element, written, hfind, hcheck, rfl⟩
  · rintro ⟨element, written, hfind, hcheck, rfl⟩
    exact ⟨element, hfind, written, hcheck, rfl⟩

/-- What a step does to an outline. -/
inductive Leads (outline : Outline) (made : List (Option Template)) : Step → Reply → Outline → Prop
  | render {plan : Plan Source} {template : Template}
      (hmake : outline.make made .whole plan = .ok template) :
      Leads outline made (.render plan) (.fragment template) outline
  | element {plan : Plan Source} {template : Template}
      (hmake : outline.make made .whole plan = .ok template) :
      Leads outline made (.element plan) (.fragment template) (outline.add [template])
  | start {plan : Plan Source} {element : ElementDecl} {template : Template}
      (hfind : outline.vocabulary.find? plan.name = some element)
      (hmake : outline.make made .opening plan = .ok template) :
      Leads outline made (.start plan) .nothing
        (outline.push template (element.name :: outline.stack))
  | close {innermost : String} {rest : List String} (hstack : outline.stack = innermost :: rest)
      (name : String) :
      Leads outline made (.close name) .nothing
        (outline.push [.literal (ElementDecl.closingTag innermost)] rest)
  | write (sources : List Source) :
      Leads outline made (.write sources) .nothing
        (outline.add (sources.map (Source.template made)))
  | comment (lines : List String) :
      Leads outline made (.comment lines) .nothing (outline.add [[.literal (commentText lines)]])
  | script (lines : List String) :
      Leads outline made (.script lines) .nothing (outline.add [[.literal (scriptText lines)]])
  | finish :
      Leads outline made .finish (.document outline.fragments.flatten)
        { outline with fragments := [], isFinished := true }

theorem leads_of_take {step : Step} {reply : Reply} {next : Outline}
    (h : outline.take made step = .ok (reply, next)) : Leads outline made step reply next := by
  unfold take at h
  split at h
  · cases h
  · cases step with
    | render plan =>
        obtain ⟨template, hmake, hnext⟩ := bind_eq_ok_iff.mp h
        cases hnext
        exact .render hmake
    | element plan =>
        obtain ⟨template, hmake, hnext⟩ := bind_eq_ok_iff.mp h
        cases hnext
        exact .element hmake
    | start plan =>
        obtain ⟨element, hfind, hrest⟩ := bind_eq_ok_iff.mp h
        obtain ⟨template, hmake, hnext⟩ := bind_eq_ok_iff.mp hrest
        cases hnext
        exact .start (Vocabulary.element_eq_ok_iff.mp hfind) hmake
    | close name =>
        simp only [close] at h
        split at h
        · cases h
        next innermost rest hstack =>
          split at h
          · cases h
            exact .close hstack name
          · cases h
    | write sources =>
        cases h
        exact .write sources
    | comment lines =>
        cases h
        exact .comment lines
    | script lines =>
        cases h
        exact .script lines
    | finish =>
        simp only [finish] at h
        split at h
        · cases h
          exact .finish
        · cases h

/-! ## A whole script -/

theorem Leads.areSolid {step : Step} {reply : Reply} {next : Outline}
    (hleads : Leads outline made step reply next) (h : AreSolid made) :
    AreSolid (made ++ [reply.template?]) := by
  refine h.concat fun template htemplate => ?_
  cases hleads with
  | render hmake | element hmake =>
      cases htemplate
      obtain ⟨element, written, _, _, rfl⟩ := make_eq_ok_iff.mp hmake
      exact element.isSolid_frame ..
  | start | close | write | comment | script | finish => cases htemplate

theorem fragment?_fill (escaper : Escaper) (reply : Reply) :
    (reply.fill escaper).fragment? = reply.template?.map (Template.encode escaper) := by
  cases reply <;> rfl

theorem fillAll_concat (escaper : Escaper) (template? : Option Template) :
    fillAll escaper (made ++ [template?]) =
      fillAll escaper made ++ [template?.map (Template.encode escaper)] := by
  simp [fillAll]

/-- A session follows a script as its outline does. -/
theorem fill_follow (h : AreSolid made) (escaper : Escaper) (script : List Step) :
    ((outline.fill escaper).follow (fillAll escaper made) script).moments =
      (outline.follow made script).map (Moment.fill escaper) := by
  -- on the script, for all that may have been made by then, as long as none of it is empty
  induction script generalizing outline made with
  | nil => rfl
  | cons step rest ih =>
      have hstep := @fill_take made outline h escaper step
      rw [Session.moments_follow_cons, follow]
      unfold Session.answer Session.after
      cases htake : outline.take made step with
      | error error =>
          rw [htake] at hstep
          have hnone : AreSolid (made ++ [none]) := h.concat (by simp)
          rw [Session.call_of_told_eq_error hstep, List.map_cons, ← ih hnone, fillAll_concat]
          rfl
      | ok next =>
          obtain ⟨reply, next⟩ := next
          rw [htake] at hstep
          obtain ⟨hanswer, hsession⟩ := Outcome.told_eq_ok_iff.mp hstep
          have hnext : AreSolid (made ++ [reply.template?]) := (leads_of_take htake).areSolid h
          simp only [List.map_cons]
          rw [← ih hnext, fillAll_concat, ← fragment?_fill]
          simp [Moment.fill, Except.map, Outcome.fragment?, Except.toOption, hanswer, hsession]

theorem fill_runScript (vocabulary : Vocabulary) (escaper : Escaper) (script : List Step) :
    ((Session.new vocabulary escaper).runScript script).moments =
      ((new vocabulary).runScript script).map (Moment.fill escaper) :=
  @fill_follow [] (new vocabulary) (by simp [AreSolid]) escaper script

theorem exists_of_fill_answer_eq_document {escaper : Escaper} {moment : Moment}
    {document : String} (h : (moment.fill escaper).answer = .ok (.document document)) :
    ∃ template, moment.answer = .ok (.document template) ∧
      document = (Template.encode escaper template).text := by
  obtain ⟨answer, outline⟩ := moment
  cases answer with
  | error error => cases h
  | ok reply =>
      cases reply with
      | nothing => cases h
      | fragment template => cases h
      | document template =>
          cases h
          exact ⟨template, rfl, rfl⟩

end Outline

end CheckedMarkup
