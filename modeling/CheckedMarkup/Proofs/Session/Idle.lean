import CheckedMarkup.Proofs.Session.Run
import CheckedMarkup.Session.Script
import Mathlib.Data.List.Forall2

/-! # Calls that leave no trace

A call that is refused, and one that makes a fragment for later use, does nothing
to the session. A caller who leaves such calls out is told the same in all other
calls, as long as these do not depend on what the left out calls returned.
-/

namespace CheckedMarkup

open Fallible

abbrev Answer := Except CallError Reply

/-- One call of a caller who may leave some of the calls out. -/
inductive Move where
  /-- A call that stays. It may depend on the answers to the earlier calls that stay. -/
  | stays (choose : List Answer → Call Tag Piece)
  | goes (call : Call Tag Piece)

def Move.isStaying : Move → Bool
  | stays _ => true
  | goes _ => false

namespace Session

/-- The answer to a call, and the session after it. -/
def moment (session : Session) (call : Call Tag Piece) : Moment :=
  ⟨session.answer call, session.after call⟩

/-- Takes all calls, and tells what those that stay led to. The caller knows the answers to those
before. -/
def play (session : Session) (heard : List Answer) : List Move → List Moment
  | [] => []
  | .stays choose :: rest =>
      let moment := session.moment (choose heard)
      moment :: moment.session.play (heard ++ [moment.answer]) rest
  | .goes call :: rest => (session.after call).play heard rest

/-- A call that is refused, or makes a fragment without adding it to the document. -/
def IsIdle (session : Session) (call : Call Tag Piece) : Prop :=
  (∃ tag, call = .render tag) ∨ ∃ error, session.answer call = .error error

/-- Whether all calls that go are idle when their turn comes. -/
def GoIdle (session : Session) (heard : List Answer) : List Move → Prop
  | [] => True
  | .stays choose :: rest =>
      (session.after (choose heard)).GoIdle (heard ++ [session.answer (choose heard)]) rest
  | .goes call :: rest => session.IsIdle call ∧ (session.after call).GoIdle heard rest

variable {session : Session} {call : Call Tag Piece}

/-- A refusal leaves the session as it was, and so does a fragment that is only returned. -/
theorem IsIdle.after_eq (h : session.IsIdle call) : session.after call = session := by
  rcases h with ⟨tag, rfl⟩ | ⟨error, herror⟩
  · rcases after_cases session (.render tag) with ⟨outcome, _, hleads, hafter⟩ | ⟨_, hafter⟩
    · rw [hafter]
      cases hleads
      rfl
    · exact hafter
  · rw [after, call_of_answer_eq_error herror]

theorem play_filter_isStaying {heard : List Answer} {moves : List Move}
    (h : session.GoIdle heard moves) :
    session.play heard (moves.filter Move.isStaying) = session.play heard moves := by
  induction moves generalizing session heard with
  | nil => rfl
  | cons move rest ih =>
      cases move with
      | stays choose => exact congrArg (List.cons _) (ih h)
      | goes call =>
          obtain ⟨hidle, hrest⟩ := h
          rw [hidle.after_eq] at hrest
          rw [List.filter_cons_of_neg (by simp [Move.isStaying]), ih hrest, play, hidle.after_eq]

theorem afterAll_of_goIdle {heard : List Answer} {calls : List (Call Tag Piece)}
    (h : session.GoIdle heard (calls.map .goes)) : session.afterAll calls = session := by
  induction calls generalizing session with
  | nil => rfl
  | cons call rest ih =>
      obtain ⟨hidle, hrest⟩ := h
      rw [hidle.after_eq] at hrest
      rw [afterAll_cons, hidle.after_eq, ih hrest]

/-! ## Closing what is open -/

/-- Names under which the open elements can be closed, the innermost first. -/
def Closes (session : Session) (names : List String) : Prop :=
  List.Forall₂ (fun innermost name => Text.sameUpToCase innermost name = true) session.stack names

theorem closes_stack (session : Session) : session.Closes session.stack := by
  unfold Closes
  induction session.stack with
  | nil => exact .nil
  | cons innermost rest ih => exact .cons (Text.sameUpToCase_self innermost) ih

theorem afterAll_close (hfinished : session.isFinished = false) {names : List String}
    (hnames : session.Closes names) :
    session.afterAll (names.map .close) =
      { session with
        fragments := session.fragments ++
          session.stack.map fun name => ⟨ElementDecl.closingTag name⟩
        stack := [] } := by
  unfold Closes at hnames
  generalize hstack : session.stack = stack at hnames
  induction hnames generalizing session with
  | nil =>
      cases session
      simp_all
  | cons hname _ ih =>
      rw [List.map_cons, afterAll_cons, after_close hfinished hstack hname, ih]
      · simp
      · exact hfinished
      · rfl

theorem answer_finish_of_stack_eq_nil (hfinished : session.isFinished = false)
    (hstack : session.stack = []) :
    session.answer .finish = .ok (.document session.document) := by
  rw [answer_finish hfinished, hstack]
  rfl

theorem answer_finish_close (hfinished : session.isFinished = false) {names : List String}
    (hnames : session.Closes names) :
    (session.afterAll (names.map .close)).answer .finish =
      .ok (.document (session.document ++
        String.join (session.stack.map ElementDecl.closingTag))) := by
  rw [afterAll_close hfinished hnames, answer_finish_of_stack_eq_nil]
  · simp [document, Fragment.concat, Function.comp_def]
  · exact hfinished
  · rfl

theorem answer_finish_close_stack (hfinished : session.isFinished = false) :
    (session.afterAll (session.stack.map .close)).answer .finish =
      .ok (.document (session.document ++
        String.join (session.stack.map ElementDecl.closingTag))) :=
  answer_finish_close hfinished session.closes_stack

theorem eq_of_answer_finish_eq_unclosedTags {tags : List String}
    (h : session.answer .finish = .error (.unclosedTags tags)) :
    session.isFinished = false ∧ tags = session.openTags := by
  cases hfinished : session.isFinished with
  | true =>
      rw [answer, call_of_isFinished hfinished] at h
      cases h
  | false =>
      rw [answer_finish hfinished] at h
      split at h
      · cases h
      · cases h
        exact ⟨rfl, rfl⟩

/-! ## Leaving calls out -/

/-- A caller may leave out any calls that are refused or only make fragments: the other calls are
answered as before, and lead to the same sessions. A document that was asked for too early can still
be had, whatever was refused in the meantime. -/
theorem idle_calls_leave_no_trace (session : Session) :
    (∀ moves, session.GoIdle [] moves →
      session.play [] (moves.filter Move.isStaying) = session.play [] moves) ∧
    ∀ tags calls, session.answer .finish = .error (.unclosedTags tags) →
      session.GoIdle [] (calls.map .goes) →
      (session.afterAll calls).answer .finish = .error (.unclosedTags tags) ∧
      ((session.afterAll calls).afterAll (tags.reverse.map .close)).answer .finish =
        .ok (.document (session.document ++
          String.join (tags.reverse.map ElementDecl.closingTag))) := by
  refine ⟨fun moves hidle => play_filter_isStaying hidle, ?_⟩
  intro tags calls hunclosed hidle
  obtain ⟨hfinished, rfl⟩ := eq_of_answer_finish_eq_unclosedTags hunclosed
  rw [afterAll_of_goIdle hidle]
  refine ⟨hunclosed, ?_⟩
  rw [openTags, List.reverse_reverse]
  exact answer_finish_close_stack hfinished

/-- A session with sections and paragraphs. -/
def sectionSession : Session :=
  .new ⟨[⟨"br", none, true, []⟩, ⟨"div", none, false, []⟩, ⟨"p", none, false, []⟩]⟩ .xml

/-- A section with a paragraph that was made before, and a few calls that are idle in between. -/
def sectionMoves : List Move :=
  [.goes (.close "p"), .stays fun _ => .render ((Tag.named "p").text "x < y"),
    .stays fun _ => .start (.named "div"), .goes .finish, .goes (.start (.named "br")),
    .goes (.render (.named "p")),
    .stays fun heard => .write (heard.filterMap fun answer =>
      answer.toOption.bind fun reply => reply.fragment?.map .markup),
    .stays fun _ => .close "div", .stays fun _ => .finish, .goes .finish]

theorem idle_calls_leave_no_trace_section :
    sectionSession.GoIdle [] sectionMoves ∧
      sectionSession.play [] (sectionMoves.filter Move.isStaying) =
        sectionSession.play [] sectionMoves ∧
      (sectionSession.play [] sectionMoves).map Moment.answer =
        [.ok (.fragment ⟨"<p>x &lt; y</p>"⟩), .ok .nothing, .ok .nothing, .ok .nothing,
          .ok (.document "<div><p>x &lt; y</p></div>")] := by
  have hidle : sectionSession.GoIdle [] sectionMoves := by
    simp only [sectionMoves, GoIdle]
    exact ⟨.inr ⟨.noOpenTags "p", by decide +kernel⟩,
      .inr ⟨.unclosedTags ["div"], by decide +kernel⟩,
      .inr ⟨.cannotStartEmptyElement "br", by decide +kernel⟩, .inl ⟨_, rfl⟩,
      .inr ⟨.finished, by decide +kernel⟩, trivial⟩
  exact ⟨hidle, (idle_calls_leave_no_trace sectionSession).1 sectionMoves hidle,
    by decide +kernel⟩

end Session

end CheckedMarkup
