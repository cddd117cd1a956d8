import CheckedMarkup.Proofs.Session.Breaches
import CheckedMarkup.Proofs.Session.History

/-! # Calls that fit together

Whether a close or a finish is taken depends on the calls before it and on no
vocabulary. Of calls that fit together in this respect only those that use a tag can
be refused, and the first of them whose tag breaks a rule gives the reason.
-/

namespace CheckedMarkup

open Fallible

/-- What decides on a close or a finish: the open elements, the innermost first, and whether the
session is finished. -/
structure Posture where
  stack : List String
  isFinished : Bool
deriving Repr, DecidableEq

/-- The posture after a call that is taken, for a call that fits. -/
def Posture.after? (posture : Posture) (call : Call Tag Piece) : Option Posture :=
  if posture.isFinished then none
  else match call with
    | .start tag => some ⟨tag.name.toLower :: posture.stack, false⟩
    | .close name =>
        match posture.stack with
        | [] => none
        | innermost :: rest =>
            if Text.sameUpToCase innermost name then some ⟨rest, false⟩ else none
    | .finish => if posture.stack.isEmpty then some ⟨[], true⟩ else none
    | .render _ | .element _ | .write _ | .comment _ | .script _ => some posture

/-- The tag that a call uses, and in which form. -/
def Call.use? : Call Tag Piece → Option (Form × Tag)
  | .render tag | .element tag => some (.whole, tag)
  | .start tag => some (.opening, tag)
  | .close _ | .write _ | .comment _ | .script _ | .finish => none

theorem Call.mem_calls_of_use? {call : Call Tag Piece} {form : Form} {tag : Tag}
    (h : call.use? = some (form, tag)) : call ∈ form.calls tag := by
  cases call with
  | render | element | start =>
      cases h
      simp [Form.calls]
  | close | write | comment | script | finish => cases h

/-- The first rule that the tag of a call breaks. A call that uses none breaks none. -/
def Call.breach? (vocabulary : Vocabulary) (call : Call Tag Piece) : Option CallError :=
  call.use?.bind fun (form, tag) => (vocabulary.breaches form tag).head?

namespace Session

def posture (session : Session) : Posture := ⟨session.stack, session.isFinished⟩

variable {session : Session} {call : Call Tag Piece} {outcome : Outcome} {reply : Reply}
  {next last : Posture} {calls rest : List (Call Tag Piece)}

/-! ## One call -/

theorem after?_posture_of_leads (hfinished : session.isFinished = false)
    (hlowers : call.Lowers session.vocabulary) (h : Leads session call outcome) :
    session.posture.after? call = some outcome.session.posture := by
  unfold Posture.after?
  rw [posture, hfinished, if_neg Bool.false_ne_true]
  cases h with
  | start hfind => simp [posture, add, hlowers _ hfind, hfinished]
  | close hstack hname => simp [posture, add, hstack, hname, hfinished]
  | finish hstack => simp [posture, hstack]
  | render | element | write | comment | script => simp [posture, add, hfinished]

theorem isFinished_of_after? (h : session.posture.after? call = some next) :
    session.isFinished = false := by
  unfold Posture.after? at h
  split at h
  · cases h
  next hfinished => simpa [posture] using hfinished

/-- A call that fits and uses no tag is taken. -/
theorem accepts_of_use?_eq_none (h : session.posture.after? call = some next)
    (huse : call.use? = none) : session.Accepts call := by
  have hfinished := isFinished_of_after? h
  unfold Posture.after? at h
  rw [posture, hfinished, if_neg Bool.false_ne_true] at h
  cases call with
  | render | element | start => cases huse
  | close name =>
      dsimp only at h
      split at h
      · cases h
      next innermost rest hstack =>
        split at h
        next hname => exact accepts_close_iff.mpr ⟨hfinished, innermost, rest, hstack, hname⟩
        · cases h
  | finish =>
      dsimp only at h
      split at h
      next hstack =>
        exact accepts_iff.mpr ⟨hfinished, _, .finish (List.isEmpty_iff.mp hstack)⟩
      · cases h
  | write pieces => exact accepts_iff.mpr ⟨hfinished, _, .write pieces⟩
  | comment lines => exact accepts_iff.mpr ⟨hfinished, _, .comment lines⟩
  | script lines => exact accepts_iff.mpr ⟨hfinished, _, .script lines⟩

/-- A call that fits is refused for its tag or not at all. -/
theorem fault?_answer_of_after? (h : session.posture.after? call = some next) :
    fault? (session.answer call) = call.breach? session.vocabulary := by
  unfold Call.breach?
  cases huse : call.use? with
  | none =>
      obtain ⟨reply, hanswer⟩ := accepts_of_use?_eq_none h huse
      rw [hanswer]
      rfl
  | some use => exact fault?_answer (isFinished_of_after? h) (Call.mem_calls_of_use? huse)

/-! ## Calls in a row -/

theorem runAll_cons_of_ok (hanswer : session.answer call = .ok reply) :
    (session.runAll (call :: rest)).1 =
      ((session.after call).runAll rest).1.map (reply :: ·) := by
  unfold answer at hanswer
  rw [runAll]
  simp only [hanswer]
  rfl

theorem runAll_cons_of_error {error : CallError} (hanswer : session.answer call = .error error) :
    (session.runAll (call :: rest)).1 = .error error := by
  unfold answer at hanswer
  rw [runAll]
  simp only [hanswer]

theorem runAll_append (session : Session) (first second : List (Call Tag Piece)) :
    (session.runAll (first ++ second)).1 =
      (return (← (session.runAll first).1) ++ (← ((session.afterAll first).runAll second).1)) := by
  induction first generalizing session with
  | nil =>
      rw [List.nil_append, afterAll_nil]
      cases (session.runAll second).1 <;> rfl
  | cons call rest ih =>
      rw [List.cons_append, afterAll_cons]
      cases hanswer : session.answer call with
      | error error => rw [runAll_cons_of_error hanswer, runAll_cons_of_error hanswer]; rfl
      | ok reply =>
          rw [runAll_cons_of_ok hanswer, runAll_cons_of_ok hanswer, ih]
          cases ((session.after call).runAll rest).1 with
          | error error => rfl
          | ok replies => cases (((session.after call).afterAll rest).runAll second).1 <;> rfl

theorem posture_after (hlowers : call.Lowers session.vocabulary)
    (h : session.posture.after? call = some next) (hanswer : session.answer call = .ok reply) :
    (session.after call).posture = next := by
  obtain ⟨hfinished, hleads⟩ := leads_of_answer hanswer
  rw [after?_posture_of_leads hfinished hlowers hleads] at h
  exact Option.some.inj h

/-- Calls that fit together are refused for the first rule that one of their tags breaks. -/
theorem fault?_runAll (hlowers : ∀ call ∈ calls, call.Lowers session.vocabulary)
    (h : calls.foldlM Posture.after? session.posture = some last) :
    fault? (session.runAll calls).1 = calls.findSome? (Call.breach? session.vocabulary) := by
  induction calls generalizing session with
  | nil => rfl
  | cons call rest ih =>
      obtain ⟨hfirst, hmore⟩ := List.forall_mem_cons.mp hlowers
      rw [List.foldlM_cons, Option.bind_eq_bind, Option.bind_eq_some_iff] at h
      obtain ⟨next, hnext, hrest⟩ := h
      rw [List.findSome?_cons, ← fault?_answer_of_after? hnext]
      cases hanswer : session.answer call with
      | error error => rw [runAll_cons_of_error hanswer]; rfl
      | ok reply =>
          -- the session is now in the posture that the rest of the calls fit
          rw [← posture_after hfirst hnext hanswer] at hrest
          rw [← vocabulary_after session call] at hmore ⊢
          rw [runAll_cons_of_ok hanswer, fault?_map, ih hmore hrest]
          rfl

/-! ## Calls that are all taken -/

theorem exists_of_runAll_cons {replies : List Reply}
    (h : (session.runAll (call :: rest)).1 = .ok replies) :
    ∃ reply, session.answer call = .ok reply ∧
      ∃ more, ((session.after call).runAll rest).1 = .ok more := by
  cases hanswer : session.answer call with
  | error error =>
      rw [runAll_cons_of_error hanswer] at h
      cases h
  | ok reply =>
      rw [runAll_cons_of_ok hanswer] at h
      refine ⟨reply, rfl, ?_⟩
      cases hrest : ((session.after call).runAll rest).1 with
      | error error =>
          rw [hrest] at h
          cases h
      | ok more => exact ⟨more, rfl⟩

theorem taken_of_runAll {replies : List Reply} (h : (session.runAll calls).1 = .ok replies) :
    session.taken calls = calls := by
  induction calls generalizing session replies with
  | nil => rfl
  | cons call rest ih =>
      obtain ⟨reply, hanswer, more, hrest⟩ := exists_of_runAll_cons h
      rw [taken, hanswer]
      exact congrArg (call :: ·) (ih hrest)

theorem posture_afterAll {replies : List Reply}
    (hlowers : ∀ call ∈ calls, call.Lowers session.vocabulary)
    (hrun : (session.runAll calls).1 = .ok replies)
    (h : calls.foldlM Posture.after? session.posture = some last) :
    (session.afterAll calls).posture = last := by
  induction calls generalizing session replies with
  | nil => exact Option.some.inj h
  | cons call rest ih =>
      obtain ⟨hfirst, hmore⟩ := List.forall_mem_cons.mp hlowers
      obtain ⟨reply, hanswer, more, hrest⟩ := exists_of_runAll_cons hrun
      rw [List.foldlM_cons, Option.bind_eq_bind, Option.bind_eq_some_iff] at h
      obtain ⟨next, hnext, hlast⟩ := h
      rw [← posture_after hfirst hnext hanswer] at hlast
      exact ih (by rwa [vocabulary_after]) hrest hlast

/-- What calls hand out in the end is what they have added. -/
theorem exists_of_runAll_finish {vocabulary : Vocabulary} {escaper : Escaper}
    {replies : List Reply} (hlowers : ∀ call ∈ calls, call.Lowers vocabulary)
    (h : ((new vocabulary escaper).runAll (calls ++ [.finish])).1 = .ok replies) :
    ∃ first, replies =
      first ++ [.document (String.join (calls.map (Call.adds vocabulary escaper)))] := by
  rw [runAll_append, bind_eq_ok_iff] at h
  obtain ⟨first, hfirst, h⟩ := h
  rw [bind_eq_ok_iff] at h
  obtain ⟨last, hlast, h⟩ := h
  cases h
  refine ⟨first, congrArg (first ++ ·) ?_⟩
  obtain ⟨reply, hanswer, _⟩ := exists_of_runAll_cons hlast
  rw [runAll_cons_of_ok hanswer] at hlast
  obtain ⟨hfinished, outcome, hleads, hreply⟩ := answer_eq_ok_iff.mp hanswer
  obtain ⟨tags, hrecalls⟩ := (recalls_new vocabulary escaper).afterAll hlowers
  rw [List.nil_append, taken_of_runAll hfirst] at hrecalls
  have hdocument := hrecalls.document hfinished
  rw [vocabulary_afterAll, escaper_afterAll] at hdocument
  cases hleads with
  | finish =>
      cases hreply
      cases hlast
      exact congrArg (fun text => [Reply.document text]) hdocument

/-- Where calls fit together, a call without a tag is taken when its turn comes. -/
theorem accepts_afterAll {before after : List (Call Tag Piece)} {replies : List Reply}
    (hlowers : ∀ call ∈ before, call.Lowers session.vocabulary)
    (hrun : (session.runAll before).1 = .ok replies)
    (h : (before ++ call :: after).foldlM Posture.after? session.posture = some last)
    (huse : call.use? = none) : (session.afterAll before).Accepts call := by
  rw [List.foldlM_append, Option.bind_eq_bind, Option.bind_eq_some_iff] at h
  obtain ⟨middle, hbefore, hcall⟩ := h
  rw [List.foldlM_cons, Option.bind_eq_bind, Option.bind_eq_some_iff] at hcall
  obtain ⟨next, hnext, _⟩ := hcall
  rw [← posture_afterAll hlowers hrun hbefore] at hnext
  exact accepts_of_use?_eq_none hnext huse

end Session

end CheckedMarkup
