import CheckedMarkup.Proofs.Session.Making
import CheckedMarkup.Proofs.Session.Taking

/-! # Runs

Calls are taken one after the other, and a refused call changes nothing. What a
call can do to a session is said here once for each kind of call.
-/

namespace CheckedMarkup.Session

open Fallible

def afterAll (session : Session) (calls : List (Call Tag Piece)) : Session :=
  calls.foldl after session

def Accepts (session : Session) (call : Call Tag Piece) : Prop :=
  ∃ reply, session.answer call = .ok reply

/-! ## One call -/

/-- What a call that succeeds leads to in a session that is not finished, with all that it asks
for. -/
inductive Leads (session : Session) : Call Tag Piece → Outcome → Prop
  | render {tag : Tag} {fragment : Fragment} (hmake : session.make .whole tag = .ok fragment) :
      Leads session (.render tag) ⟨.ok (.fragment fragment), session, []⟩
  | element {tag : Tag} {fragment : Fragment} (hmake : session.make .whole tag = .ok fragment) :
      Leads session (.element tag)
        ⟨.ok (.fragment fragment), session.add [fragment], [.added fragment]⟩
  | start {tag : Tag} {element : ElementDecl} {fragment : Fragment}
      (hfind : session.vocabulary.find? tag.name = some element)
      (hmake : session.make .opening tag = .ok fragment) :
      Leads session (.start tag)
        ⟨.ok .nothing, { session.add [fragment] with stack := element.name :: session.stack },
          [.opened tag.name session.depth]⟩
  | close {name innermost : String} {rest : List String}
      (hstack : session.stack = innermost :: rest)
      (hname : Text.sameUpToCase innermost name = true) :
      Leads session (.close name)
        ⟨.ok .nothing, { session.add [⟨ElementDecl.closingTag innermost⟩] with stack := rest },
          [.closed innermost rest.length]⟩
  | write (pieces : List Piece) :
      Leads session (.write pieces)
        ⟨.ok .nothing, session.add (pieces.map (Piece.encode session.escaper)), []⟩
  | comment (lines : List String) :
      Leads session (.comment lines) ⟨.ok .nothing, session.add [⟨commentText lines⟩], []⟩
  | script (lines : List String) :
      Leads session (.script lines) ⟨.ok .nothing, session.add [⟨scriptText lines⟩], []⟩
  | finish (hstack : session.stack = []) :
      Leads session .finish
        ⟨.ok (.document session.document), { session with fragments := [], isFinished := true },
          [.finished session.fragments.length session.document.utf8ByteSize]⟩

variable {session next : Session} {call : Call Tag Piece} {outcome : Outcome} {reply : Reply}
  {log : List Log.Entry}

theorem leads_of_call_eq (h : session.call call = ⟨.ok reply, next, log⟩) :
    session.isFinished = false ∧ Leads session call ⟨.ok reply, next, log⟩ := by
  cases hfinished : session.isFinished with
  | true =>
      rw [call_of_isFinished hfinished] at h
      cases h
  | false =>
      refine ⟨rfl, ?_⟩
      rw [← Outcome.success_eq_ok_iff] at h
      cases call with
      | render tag =>
          rw [success_render hfinished] at h
          cases hmake : session.make .whole tag <;> rw [hmake] at h <;> cases h
          exact .render hmake
      | element tag =>
          rw [success_element hfinished] at h
          cases hmake : session.make .whole tag <;> rw [hmake] at h <;> cases h
          exact .element hmake
      | start tag =>
          simp only [success_start hfinished, bind_eq_ok_iff, Vocabulary.element_eq_ok_iff] at h
          obtain ⟨element, hfind, fragment, hmake, h⟩ := h
          cases h
          exact .start hfind hmake
      | close name =>
          rw [success_close hfinished] at h
          split at h
          · cases h
          next innermost rest hstack =>
            split at h
            next hname =>
              cases h
              exact .close hstack hname
            · cases h
      | write pieces =>
          cases (success_write hfinished pieces).symm.trans h
          exact .write pieces
      | comment lines =>
          cases (success_comment hfinished lines).symm.trans h
          exact .comment lines
      | script lines =>
          cases (success_script hfinished lines).symm.trans h
          exact .script lines
      | finish =>
          rw [success_finish hfinished] at h
          split at h
          next hstack =>
            cases h
            exact .finish (List.isEmpty_iff.mp hstack)
          · cases h

theorem call_of_leads (hfinished : session.isFinished = false) (h : Leads session call outcome) :
    session.call call = outcome := by
  cases h with
  | render hmake =>
      rw [← Outcome.success_eq_ok_iff, success_render hfinished, hmake]
      rfl
  | element hmake =>
      rw [← Outcome.success_eq_ok_iff, success_element hfinished, hmake]
      rfl
  | start hfind hmake =>
      rw [← Outcome.success_eq_ok_iff, success_start hfinished,
        Vocabulary.element_eq_ok_iff.mpr hfind, hmake]
      rfl
  | close hstack hname =>
      rw [← Outcome.success_eq_ok_iff, success_close hfinished, hstack]
      exact if_pos hname
  | write pieces => exact Outcome.success_eq_ok_iff.mp (success_write hfinished pieces)
  | comment lines => exact Outcome.success_eq_ok_iff.mp (success_comment hfinished lines)
  | script lines => exact Outcome.success_eq_ok_iff.mp (success_script hfinished lines)
  | finish hstack =>
      rw [← Outcome.success_eq_ok_iff, success_finish hfinished, hstack]
      rfl

theorem leads_of_answer (h : session.answer call = .ok reply) :
    session.isFinished = false ∧ Leads session call (session.call call) := by
  have hcall : session.call call = ⟨.ok reply, session.after call, (session.call call).log⟩ := by
    rw [← h]
    rfl
  rw [hcall]
  exact leads_of_call_eq hcall

theorem Leads.exists_answer_eq (h : Leads session call outcome) :
    ∃ reply, outcome.answer = .ok reply := by
  cases h <;> exact ⟨_, rfl⟩

theorem answer_eq_ok_iff :
    session.answer call = .ok reply ↔ session.isFinished = false ∧
      ∃ outcome, Leads session call outcome ∧ outcome.answer = .ok reply := by
  constructor
  · intro hanswer
    obtain ⟨hfinished, hleads⟩ := leads_of_answer hanswer
    exact ⟨hfinished, _, hleads, hanswer⟩
  · rintro ⟨hfinished, outcome, hleads, hreply⟩
    rw [answer, call_of_leads hfinished hleads, hreply]

theorem accepts_iff :
    session.Accepts call ↔ session.isFinished = false ∧ ∃ outcome, Leads session call outcome := by
  constructor
  · rintro ⟨reply, hanswer⟩
    obtain ⟨hfinished, outcome, hleads, _⟩ := answer_eq_ok_iff.mp hanswer
    exact ⟨hfinished, outcome, hleads⟩
  · rintro ⟨hfinished, outcome, hleads⟩
    obtain ⟨reply, hreply⟩ := hleads.exists_answer_eq
    exact ⟨reply, answer_eq_ok_iff.mpr ⟨hfinished, outcome, hleads, hreply⟩⟩

/-- A call leads somewhere, or it is refused and nothing happens. -/
theorem call_cases (session : Session) (call : Call Tag Piece) :
    (∃ outcome, session.call call = outcome ∧ session.isFinished = false ∧
        Leads session call outcome) ∨
      ∃ error, session.call call = ⟨.error error, session, []⟩ := by
  cases hanswer : session.answer call with
  | ok reply => exact .inl ⟨_, rfl, leads_of_answer hanswer⟩
  | error error => exact .inr ⟨error, call_of_answer_eq_error hanswer⟩

theorem after_of_leads (hfinished : session.isFinished = false) (h : Leads session call outcome) :
    session.after call = outcome.session := by
  rw [after, call_of_leads hfinished h]

theorem after_of_not_accepts (h : ¬session.Accepts call) : session.after call = session := by
  rcases call_cases session call with ⟨outcome, _, hfinished, hleads⟩ | ⟨error, hcall⟩
  · exact absurd (accepts_iff.mpr ⟨hfinished, outcome, hleads⟩) h
  · rw [after, hcall]

theorem after_cases (session : Session) (call : Call Tag Piece) :
    (∃ outcome, session.Accepts call ∧ Leads session call outcome ∧
        session.after call = outcome.session) ∨
      (¬session.Accepts call ∧ session.after call = session) := by
  by_cases haccepts : session.Accepts call
  · obtain ⟨hfinished, outcome, hleads⟩ := accepts_iff.mp haccepts
    exact .inl ⟨outcome, haccepts, hleads, after_of_leads hfinished hleads⟩
  · exact .inr ⟨haccepts, after_of_not_accepts haccepts⟩

/-! ## Calls that succeed -/

variable {form : Form} {tag : Tag}

/-- A call that uses a tag is taken just if its element is declared and the tag passes. -/
theorem accepts_iff_check (hcall : call ∈ form.calls tag) :
    session.Accepts call ↔ session.isFinished = false ∧
      ∃ element written, session.vocabulary.find? tag.name = some element ∧
        element.check form tag = .ok written := by
  cases hfinished : session.isFinished with
  | true => simp [Accepts, answer, call_of_isFinished hfinished]
  | false =>
      rw [Accepts, ← fault?_eq_none_iff, fault?_answer_eq_fault?_make hfinished hcall,
        fault?_eq_none_iff]
      constructor
      · rintro ⟨fragment, hmake⟩
        obtain ⟨element, written, hfind, hcheck, _⟩ := make_eq_ok_iff.mp hmake
        exact ⟨rfl, element, written, hfind, hcheck⟩
      · rintro ⟨_, element, written, hfind, hcheck⟩
        exact ⟨_, make_eq_ok_iff.mpr ⟨element, written, hfind, hcheck, rfl⟩⟩

theorem accepts_element_iff :
    session.Accepts (.element tag) ↔ session.isFinished = false ∧
      ∃ element written, session.vocabulary.find? tag.name = some element ∧
        element.check .whole tag = .ok written :=
  accepts_iff_check (by simp [Form.calls])

theorem accepts_start_iff :
    session.Accepts (.start tag) ↔ session.isFinished = false ∧
      ∃ element written, session.vocabulary.find? tag.name = some element ∧
        element.check .opening tag = .ok written :=
  accepts_iff_check (by simp [Form.calls])

theorem accepts_close_iff {name : String} :
    session.Accepts (.close name) ↔ session.isFinished = false ∧
      ∃ innermost rest, session.stack = innermost :: rest ∧
        Text.sameUpToCase innermost name = true := by
  rw [accepts_iff]
  constructor
  · intro haccepts
    obtain ⟨hfinished, _, hleads⟩ := haccepts
    cases hleads with
    | close hstack hname => exact ⟨hfinished, _, _, hstack, hname⟩
  · intro hall
    obtain ⟨hfinished, innermost, rest, hstack, hname⟩ := hall
    exact ⟨hfinished, _, .close hstack hname⟩

section

variable {element : ElementDecl} {written : List Written}

theorem after_element (hfinished : session.isFinished = false)
    (hfind : session.vocabulary.find? tag.name = some element)
    (hcheck : element.check .whole tag = .ok written) :
    session.after (.element tag) =
      session.add [⟨element.markup .whole (written.map (Written.pair session.escaper))
        (Fragment.concat (tag.contents.map (Piece.encode session.escaper))).text⟩] :=
  after_of_leads hfinished (.element (make_eq_ok_iff.mpr ⟨_, _, hfind, hcheck, rfl⟩))

theorem after_start (hfinished : session.isFinished = false)
    (hfind : session.vocabulary.find? tag.name = some element)
    (hcheck : element.check .opening tag = .ok written) :
    session.after (.start tag) =
      { session with
        fragments := session.fragments ++
          [⟨element.openingTag (written.map (Written.pair session.escaper))⟩]
        stack := element.name :: session.stack } :=
  after_of_leads hfinished (.start hfind (make_eq_ok_iff.mpr ⟨_, _, hfind, hcheck, rfl⟩))

theorem after_close (hfinished : session.isFinished = false) {innermost name : String}
    {rest : List String} (hstack : session.stack = innermost :: rest)
    (hname : Text.sameUpToCase innermost name = true) :
    session.after (.close name) =
      { session with
        fragments := session.fragments ++ [⟨ElementDecl.closingTag innermost⟩]
        stack := rest } :=
  after_of_leads hfinished (.close hstack hname)

theorem answer_render_eq_ok_iff (hfinished : session.isFinished = false) {fragment : Fragment} :
    session.answer (.render tag) = .ok (.fragment fragment) ↔
      session.make .whole tag = .ok fragment := by
  rw [answer_eq_ok_iff]
  constructor
  · intro hanswer
    obtain ⟨_, _, hleads, hreply⟩ := hanswer
    cases hleads with
    | render hmake =>
        cases hreply
        exact hmake
  · intro hmake
    exact ⟨hfinished, _, .render hmake, rfl⟩

theorem answer_finish (hfinished : session.isFinished = false) :
    session.answer .finish =
      if session.stack.isEmpty then .ok (.document session.document)
      else .error (.unclosedTags session.openTags) := by
  rw [answer_eq_map_success, success_finish hfinished]
  split <;> rfl

theorem after_write (hfinished : session.isFinished = false) (pieces : List Piece) :
    session.after (.write pieces) =
      session.add (pieces.map (Piece.encode session.escaper)) :=
  after_of_leads hfinished (.write pieces)

end

/-! ## Calls in a row -/

@[simp] theorem afterAll_nil : session.afterAll [] = session := rfl

@[simp] theorem afterAll_cons (call : Call Tag Piece) (rest : List (Call Tag Piece)) :
    session.afterAll (call :: rest) = (session.after call).afterAll rest := rfl

theorem afterAll_append (first second : List (Call Tag Piece)) :
    session.afterAll (first ++ second) = (session.afterAll first).afterAll second :=
  List.foldl_append

theorem document_add (fragments : List Fragment) :
    (session.add fragments).document = session.document ++ (Fragment.concat fragments).text :=
  Fragment.concat_append _ _

theorem document_snoc (session : Session) (fragment : Fragment) (stack : List String) :
    document { session with fragments := session.fragments ++ [fragment], stack := stack } =
      session.document ++ fragment.text := by
  rw [← Fragment.concat_singleton fragment]
  exact Fragment.concat_append _ _

/-! ## What calls keep -/

@[simp] theorem vocabulary_after (session : Session) (call : Call Tag Piece) :
    (session.after call).vocabulary = session.vocabulary := by
  rcases after_cases session call with ⟨outcome, _, hleads, hafter⟩ | ⟨_, hafter⟩
  · rw [hafter]
    cases hleads <;> rfl
  · rw [hafter]

@[simp] theorem escaper_after (session : Session) (call : Call Tag Piece) :
    (session.after call).escaper = session.escaper := by
  rcases after_cases session call with ⟨outcome, _, hleads, hafter⟩ | ⟨_, hafter⟩
  · rw [hafter]
    cases hleads <;> rfl
  · rw [hafter]

@[simp] theorem vocabulary_afterAll (session : Session) (calls : List (Call Tag Piece)) :
    (session.afterAll calls).vocabulary = session.vocabulary := by
  induction calls generalizing session with
  | nil => rfl
  | cons call rest ih => rw [afterAll_cons, ih, vocabulary_after]

@[simp] theorem escaper_afterAll (session : Session) (calls : List (Call Tag Piece)) :
    (session.afterAll calls).escaper = session.escaper := by
  induction calls generalizing session with
  | nil => rfl
  | cons call rest ih => rw [afterAll_cons, ih, escaper_after]

theorem afterAll_of_isFinished (h : session.isFinished = true) (calls : List (Call Tag Piece)) :
    session.afterAll calls = session := by
  induction calls with
  | nil => rfl
  | cons call rest ih => rw [afterAll_cons, after, call_of_isFinished h, ih]

theorem isFinished_of_append {first second : List (Call Tag Piece)}
    (h : (session.afterAll (first ++ second)).isFinished = false) :
    (session.afterAll first).isFinished = false := by
  rw [afterAll_append] at h
  cases hfirst : (session.afterAll first).isFinished with
  | false => rfl
  | true =>
      rw [afterAll_of_isFinished hfirst, hfirst] at h
      cases h

end CheckedMarkup.Session
