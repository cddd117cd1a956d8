import CheckedMarkup.Proofs.Session.Run

/-! # Sessions that look alike

How a document is cut into fragments makes no difference to any call. The log is
the only place where the number of fragments shows.
-/

namespace CheckedMarkup.Session

/-- Sessions that differ in nothing but the cuts between their fragments. -/
structure Alike (session other : Session) : Prop where
  vocabulary : other.vocabulary = session.vocabulary
  escaper : other.escaper = session.escaper
  stack : other.stack = session.stack
  isFinished : other.isFinished = session.isFinished
  document : other.document = session.document

namespace Alike

variable {session other : Session}

theorem refl (session : Session) : session.Alike session := ⟨rfl, rfl, rfl, rfl, rfl⟩

theorem symm (h : session.Alike other) : other.Alike session :=
  ⟨h.vocabulary.symm, h.escaper.symm, h.stack.symm, h.isFinished.symm, h.document.symm⟩

theorem trans {last : Session} (h : session.Alike other) (hlast : other.Alike last) :
    session.Alike last :=
  ⟨hlast.vocabulary.trans h.vocabulary, hlast.escaper.trans h.escaper,
    hlast.stack.trans h.stack, hlast.isFinished.trans h.isFinished,
    hlast.document.trans h.document⟩

theorem make (h : session.Alike other) (form : Form) (tag : Tag) :
    other.make form tag = session.make form tag := by
  rw [Session.make, Session.make, h.vocabulary, h.escaper]

theorem document_add (h : session.Alike other) (fragments : List Fragment) :
    (other.add fragments).document = (session.add fragments).document := by
  rw [Session.document_add, Session.document_add, h.document]

theorem add (h : session.Alike other) (fragments : List Fragment) :
    (session.add fragments).Alike (other.add fragments) :=
  ⟨h.vocabulary, h.escaper, h.stack, h.isFinished, h.document_add fragments⟩

/-- A call that one of them takes is taken by the other, with the same reply. -/
theorem leads (h : session.Alike other) {call : Call Tag Piece} {outcome : Outcome}
    (hleads : Leads session call outcome) :
    ∃ next, Leads other call next ∧ next.answer = outcome.answer ∧
      outcome.session.Alike next.session := by
  cases hleads with
  | render hmake =>
      rw [← h.make] at hmake
      exact ⟨_, .render hmake, rfl, h⟩
  | element hmake =>
      rw [← h.make] at hmake
      exact ⟨_, .element hmake, rfl, h.add _⟩
  | start hfind hmake =>
      rw [← h.make] at hmake
      rw [← h.vocabulary] at hfind
      exact ⟨_, .start hfind hmake, rfl, h.vocabulary, h.escaper,
        congrArg (List.cons _) h.stack, h.isFinished, h.document_add _⟩
  | close hstack hname =>
      rw [← h.stack] at hstack
      exact ⟨_, .close hstack hname, rfl, h.vocabulary, h.escaper, rfl, h.isFinished,
        h.document_add _⟩
  | write pieces =>
      refine ⟨_, .write pieces, rfl, ?_⟩
      rw [h.escaper]
      exact h.add _
  | comment lines => exact ⟨_, .comment lines, rfl, h.add _⟩
  | script lines => exact ⟨_, .script lines, rfl, h.add _⟩
  | finish hstack =>
      rw [← h.stack] at hstack
      exact ⟨_, .finish hstack, congrArg (Except.ok ∘ Reply.document) h.document, h.vocabulary,
        h.escaper, h.stack, rfl, rfl⟩

theorem answer (h : session.Alike other) {call : Call Tag Piece} {reply : Reply}
    (hanswer : session.answer call = .ok reply) : other.answer call = .ok reply := by
  obtain ⟨hfinished, outcome, hleads, hreply⟩ := answer_eq_ok_iff.mp hanswer
  rw [← h.isFinished] at hfinished
  obtain ⟨next, hnext, hsame, _⟩ := h.leads hleads
  exact answer_eq_ok_iff.mpr ⟨hfinished, next, hnext, hsame.trans hreply⟩

theorem accepts (h : session.Alike other) {call : Call Tag Piece}
    (haccepts : session.Accepts call) : other.Accepts call := by
  obtain ⟨reply, hanswer⟩ := haccepts
  exact ⟨reply, h.answer hanswer⟩

theorem after (h : session.Alike other) (call : Call Tag Piece) :
    (session.after call).Alike (other.after call) := by
  by_cases haccepts : session.Accepts call
  · obtain ⟨hfinished, outcome, hleads⟩ := accepts_iff.mp haccepts
    obtain ⟨next, hnext, _, halike⟩ := h.leads hleads
    rw [after_of_leads hfinished hleads, after_of_leads (h.isFinished ▸ hfinished) hnext]
    exact halike
  · rw [after_of_not_accepts haccepts,
      after_of_not_accepts fun hother => haccepts (h.symm.accepts hother)]
    exact h

theorem afterAll (h : session.Alike other) (calls : List (Call Tag Piece)) :
    (session.afterAll calls).Alike (other.afterAll calls) := by
  induction calls generalizing session other with
  | nil => exact h
  | cons call rest ih => exact ih (h.after call)

end Alike

end CheckedMarkup.Session
