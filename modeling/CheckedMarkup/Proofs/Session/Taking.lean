import CheckedMarkup.Proofs.Fallible
import CheckedMarkup.Session.Basic

/-! # Taking calls

A call checks first and acts afterwards. Its checks may fail, but they only read
the session; what it does once they have passed changes the session, but cannot
fail. So a call that is refused, by whichever of its steps, leaves the session as
it found it, and logs nothing.
-/

namespace CheckedMarkup

namespace SessionM

variable {α β : Type} {action : SessionM α} {next : α → SessionM β}

/-! ## Running actions -/

section

variable (progress : Progress)

@[simp] theorem run_current : current.run progress = .ok progress.session progress := rfl

@[simp] theorem run_setSession (session : Session) :
    (setSession session).run progress = .ok () { progress with session := session } := rfl

@[simp] theorem run_add (fragments : List Fragment) :
    (add fragments).run progress =
      .ok () { progress with session := progress.session.add fragments } := rfl

@[simp] theorem run_setStack (stack : List String) :
    (setStack stack).run progress =
      .ok () { progress with session := { progress.session with stack := stack } } := rfl

@[simp] theorem run_log (entry : Log.Entry) :
    (log entry).run progress = .ok () { progress with log := progress.log ++ [entry] } := rfl

@[simp] theorem run_liftExcept_ok (a : α) :
    (liftExcept (.ok a : Except CallError α) : SessionM α).run progress = .ok a progress := rfl

@[simp] theorem run_liftExcept_error (error : CallError) :
    (liftExcept (.error error : Except CallError α) : SessionM α).run progress =
      .error error progress := rfl

@[simp] theorem run_ensure (condition : Bool) (error : CallError) :
    (ensure condition error).run progress =
      if condition then .ok () progress else .error error progress := by
  cases condition <;> rfl

@[simp] theorem run_ensureUnfinished :
    ensureUnfinished.run progress =
      if progress.session.isFinished then .error .finished progress else .ok () progress := by
  cases h : progress.session.isFinished <;> simp [ensureUnfinished, h]

end

/-! ## Checks and changes -/

/-- Whether an action changes nothing, be it that it fails or not. -/
def IsCheck (action : SessionM α) : Prop :=
  ∀ progress, (∃ a, action.run progress = .ok a progress) ∨
    ∃ error, action.run progress = .error error progress

/-- Whether an action never fails. -/
def IsSafe (action : SessionM α) : Prop :=
  ∀ progress, ∃ a after, action.run progress = .ok a after

/-- Whether an action changes nothing if it fails. -/
def IsAtomic (action : SessionM α) : Prop :=
  ∀ progress error left, action.run progress = .error error left → left = progress

theorem isCheck_current : IsCheck current := fun progress => .inl ⟨progress.session, rfl⟩

theorem isCheck_liftExcept (result : Except CallError α) :
    IsCheck (liftExcept result : SessionM α) := by
  intro progress
  cases result with
  | ok a => exact .inl ⟨a, rfl⟩
  | error error => exact .inr ⟨error, rfl⟩

theorem isCheck_throw (error : CallError) : IsCheck (throw error : SessionM α) :=
  fun _ => .inr ⟨error, rfl⟩

theorem isCheck_ensure (condition : Bool) (error : CallError) :
    IsCheck (ensure condition error) := by
  intro progress
  cases condition with
  | true => exact .inl ⟨(), rfl⟩
  | false => exact .inr ⟨error, rfl⟩

theorem isSafe_current : IsSafe current := fun progress => ⟨progress.session, progress, rfl⟩

theorem isSafe_pure (a : α) : IsSafe (pure a) := fun progress => ⟨a, progress, rfl⟩

theorem isSafe_setSession (session : Session) : IsSafe (setSession session) :=
  fun _ => ⟨_, _, rfl⟩

theorem isSafe_log (entry : Log.Entry) : IsSafe (log entry) := fun _ => ⟨_, _, rfl⟩

theorem isSafe_add (fragments : List Fragment) : IsSafe (add fragments) :=
  fun _ => ⟨_, _, rfl⟩

theorem isSafe_setStack (stack : List String) : IsSafe (setStack stack) :=
  fun _ => ⟨_, _, rfl⟩

/-! ## Actions in a row -/

theorem IsCheck.bind (h : IsCheck action) (hnext : ∀ a, IsCheck (next a)) :
    IsCheck (action >>= next) := by
  intro progress
  rw [EStateM.run_bind]
  rcases h progress with ⟨a, hrun⟩ | ⟨error, hrun⟩
  · rw [hrun]
    exact hnext a progress
  · rw [hrun]
    exact .inr ⟨error, rfl⟩

theorem IsCheck.bind_isAtomic (h : IsCheck action) (hnext : ∀ a, IsAtomic (next a)) :
    IsAtomic (action >>= next) := by
  intro progress error left hfailed
  rw [EStateM.run_bind] at hfailed
  rcases h progress with ⟨a, hrun⟩ | ⟨first, hrun⟩
  · rw [hrun] at hfailed
    exact hnext a progress error left hfailed
  · rw [hrun] at hfailed
    cases hfailed
    rfl

theorem IsCheck.isAtomic (h : IsCheck action) : IsAtomic action := by
  intro progress error left hfailed
  rcases h progress with ⟨a, hrun⟩ | ⟨first, hrun⟩
  · rw [hrun] at hfailed
    cases hfailed
  · rw [hrun] at hfailed
    cases hfailed
    rfl

theorem IsSafe.bind (h : IsSafe action) (hnext : ∀ a, IsSafe (next a)) :
    IsSafe (action >>= next) := by
  intro progress
  obtain ⟨a, after, hrun⟩ := h progress
  rw [EStateM.run_bind, hrun]
  exact hnext a after

theorem IsSafe.isAtomic (h : IsSafe action) : IsAtomic action := by
  intro progress error left hfailed
  obtain ⟨a, after, hrun⟩ := h progress
  rw [hrun] at hfailed
  cases hfailed

theorem IsAtomic.bind_isSafe (h : IsAtomic action) (hnext : ∀ a, IsSafe (next a)) :
    IsAtomic (action >>= next) := by
  intro progress error left hfailed
  rw [EStateM.run_bind] at hfailed
  cases hrun : action.run progress with
  | ok a after =>
      obtain ⟨b, last, hlast⟩ := hnext a after
      rw [hrun] at hfailed
      cases hlast.symm.trans hfailed
  | error first after =>
      rw [hrun] at hfailed
      cases hfailed
      exact h progress error left hrun

/-! ## One call -/

theorem isCheck_ensureUnfinished : IsCheck ensureUnfinished :=
  isCheck_current.bind fun _ => isCheck_ensure _ _

theorem isCheck_render (tag : Tag) : IsCheck (render tag) :=
  isCheck_ensureUnfinished.bind fun _ => isCheck_current.bind fun _ => isCheck_liftExcept _

theorem isAtomic_element (tag : Tag) : IsAtomic (element tag) :=
  (isCheck_render tag).bind_isAtomic fun fragment => IsSafe.isAtomic <|
    (isSafe_log _).bind fun _ => (isSafe_add [fragment]).bind fun _ => isSafe_pure fragment

theorem isAtomic_start (tag : Tag) : IsAtomic (start tag) := by
  refine isCheck_ensureUnfinished.bind_isAtomic fun _ => ?_
  refine isCheck_current.bind_isAtomic fun session => ?_
  refine (isCheck_liftExcept _).bind_isAtomic fun element => ?_
  refine (isCheck_liftExcept _).bind_isAtomic fun fragment => ?_
  exact ((isSafe_log _).bind fun _ => (isSafe_add _).bind fun _ => isSafe_setStack _).isAtomic

theorem isAtomic_close (name : String) : IsAtomic (close name) := by
  refine isCheck_ensureUnfinished.bind_isAtomic fun _ => ?_
  refine isCheck_current.bind_isAtomic fun session => ?_
  split
  · exact (isCheck_throw _).isAtomic
  · refine (isCheck_ensure _ _).bind_isAtomic fun _ => ?_
    exact ((isSafe_setStack _).bind fun _ => (isSafe_log _).bind fun _ => isSafe_add _).isAtomic

theorem isAtomic_write (pieces : List Piece) : IsAtomic (write pieces) := by
  refine isCheck_ensureUnfinished.bind_isAtomic fun _ => ?_
  exact isCheck_current.bind_isAtomic fun _ => (isSafe_add _).isAtomic

theorem isAtomic_comment (lines : List String) : IsAtomic (comment lines) :=
  isCheck_ensureUnfinished.bind_isAtomic fun _ => (isSafe_add _).isAtomic

theorem isAtomic_script (lines : List String) : IsAtomic (script lines) :=
  isCheck_ensureUnfinished.bind_isAtomic fun _ => (isSafe_add _).isAtomic

theorem isAtomic_finish : IsAtomic finish := by
  refine isCheck_ensureUnfinished.bind_isAtomic fun _ => ?_
  refine isCheck_current.bind_isAtomic fun session => ?_
  refine (isCheck_ensure _ _).bind_isAtomic fun _ => IsSafe.isAtomic ?_
  refine (isSafe_setSession _).bind fun _ => isSafe_current.bind fun _ => ?_
  exact (isSafe_setSession _).bind fun _ => (isSafe_log _).bind fun _ => isSafe_pure _

theorem isAtomic_take (call : Call Tag Piece) : IsAtomic (take call) := by
  cases call with
  | render tag => exact (isCheck_render tag).isAtomic.bind_isSafe fun _ => isSafe_pure _
  | element tag => exact (isAtomic_element tag).bind_isSafe fun _ => isSafe_pure _
  | start tag => exact (isAtomic_start tag).bind_isSafe fun _ => isSafe_pure _
  | close name => exact (isAtomic_close name).bind_isSafe fun _ => isSafe_pure _
  | write pieces => exact (isAtomic_write pieces).bind_isSafe fun _ => isSafe_pure _
  | comment lines => exact (isAtomic_comment lines).bind_isSafe fun _ => isSafe_pure _
  | script lines => exact (isAtomic_script lines).bind_isSafe fun _ => isSafe_pure _
  | finish => exact isAtomic_finish.bind_isSafe fun _ => isSafe_pure _

end SessionM

namespace Session

variable {session : Session}

/-- A call that is refused leaves the session as it was, and logs nothing. -/
theorem call_of_answer_eq_error {call : Call Tag Piece}
    {error : CallError} (h : session.answer call = .error error) :
    session.call call = ⟨.error error, session, []⟩ := by
  unfold Session.answer at h
  unfold Session.call at h ⊢
  cases hrun : (SessionM.take call).run ⟨session, []⟩ with
  | ok reply left =>
      rw [hrun] at h
      cases h
  | error other left =>
      obtain rfl := SessionM.isAtomic_take call _ other left hrun
      rw [hrun] at h
      cases h
      rfl

end Session

/-- The reply to a call that succeeded, the session after it and what it logged. -/
def Outcome.success (outcome : Outcome) : Except CallError (Reply × Session × List Log.Entry) :=
  outcome.answer.map fun reply => (reply, outcome.session, outcome.log)

theorem Outcome.success_eq_ok_iff {outcome : Outcome} {reply : Reply} {next : Session}
    {log : List Log.Entry} :
    outcome.success = .ok (reply, next, log) ↔ outcome = ⟨.ok reply, next, log⟩ := by
  obtain ⟨answer, after, entries⟩ := outcome
  unfold success
  cases answer <;> simp [Except.map]

/-- The calls that use a tag in some form. -/
def Form.calls (form : Form) (tag : Tag) : List (Call Tag Piece) :=
  match form with
  | .whole => [.render tag, .element tag]
  | .opening => [.start tag]

namespace Session

open Fallible SessionM

variable {session : Session}

/-! ## What calls come to -/

theorem answer_eq_map_success (session : Session) (call : Call Tag Piece) :
    session.answer call = (session.call call).success.map Prod.fst := by
  unfold answer Outcome.success
  cases (session.call call).answer <;> rfl

theorem success_eq_run (session : Session) (call : Call Tag Piece) :
    (session.call call).success = match (take call).run ⟨session, []⟩ with
      | .ok reply progress => .ok (reply, progress.session, progress.log)
      | .error error _ => .error error := by
  unfold Session.call Outcome.success
  cases (take call).run ⟨session, []⟩ <;> rfl

theorem call_of_isFinished (h : session.isFinished = true) (call : Call Tag Piece) :
    session.call call = ⟨.error .finished, session, []⟩ := by
  apply call_of_answer_eq_error
  unfold answer Session.call
  cases call <;> simp [take, render, element, start, close, write, comment, script, finish, h]

theorem success_render (h : session.isFinished = false) (tag : Tag) :
    (session.call (.render tag)).success =
      (session.make .whole tag).map fun fragment => (.fragment fragment, session, []) := by
  rw [success_eq_run]
  cases hmake : session.make .whole tag <;>
    simp [take, render, h, hmake, Except.map, -bind_pure_comp]

theorem success_element (h : session.isFinished = false) (tag : Tag) :
    (session.call (.element tag)).success =
      (session.make .whole tag).map fun fragment =>
        (.fragment fragment, session.add [fragment], [.added fragment]) := by
  rw [success_eq_run]
  cases hmake : session.make .whole tag <;>
    simp [take, element, render, h, hmake, Except.map, -bind_pure_comp]

theorem success_start (h : session.isFinished = false) (tag : Tag) :
    (session.call (.start tag)).success = do
      let element ← session.vocabulary.element tag.name
      let fragment ← session.make .opening tag
      return (.nothing, { session.add [fragment] with stack := element.name :: session.stack },
        [.opened tag.name session.depth]) := by
  rw [success_eq_run]
  cases helement : session.vocabulary.element tag.name with
  | error error => simp [take, start, h, helement, -bind_pure_comp]
  | ok element =>
      cases hmake : session.make .opening tag <;>
        simp [take, start, h, helement, hmake, -bind_pure_comp]

theorem success_close (h : session.isFinished = false) (name : String) :
    (session.call (.close name)).success = match session.stack with
      | [] => .error (.noOpenTags name)
      | innermost :: rest =>
          if Text.sameUpToCase innermost name then
            .ok (.nothing, { session.add [⟨ElementDecl.closingTag innermost⟩] with stack := rest },
              [.closed innermost rest.length])
          else .error (.mismatchedClose name innermost) := by
  rw [success_eq_run]
  cases hstack : session.stack with
  | nil => simp [take, close, h, hstack, -bind_pure_comp]
  | cons innermost rest =>
      cases hname : Text.sameUpToCase innermost name <;>
        simp [take, close, add, h, hstack, hname, -bind_pure_comp]

theorem success_write (h : session.isFinished = false) (pieces : List Piece) :
    (session.call (.write pieces)).success =
      .ok (.nothing, session.add (pieces.map (Piece.encode session.escaper)), []) := by
  simp [success_eq_run, take, write, h, -bind_pure_comp]

theorem success_comment (h : session.isFinished = false) (lines : List String) :
    (session.call (.comment lines)).success =
      .ok (.nothing, session.add [⟨commentText lines⟩], []) := by
  simp [success_eq_run, take, comment, h, -bind_pure_comp]

theorem success_script (h : session.isFinished = false) (lines : List String) :
    (session.call (.script lines)).success =
      .ok (.nothing, session.add [⟨scriptText lines⟩], []) := by
  simp [success_eq_run, take, script, h, -bind_pure_comp]

theorem success_finish (h : session.isFinished = false) :
    (session.call .finish).success =
      if session.stack.isEmpty then
        .ok (.document session.document, { session with fragments := [], isFinished := true },
          [.finished session.fragments.length session.document.utf8ByteSize])
      else .error (.unclosedTags session.openTags) := by
  rw [success_eq_run]
  cases hstack : session.stack.isEmpty <;> simp [take, finish, h, hstack, -bind_pure_comp]

/-- A call that uses a tag is refused for the reason for which no fragment can be made. -/
theorem fault?_answer_eq_fault?_make (h : session.isFinished = false) {form : Form} {tag : Tag}
    {call : Call Tag Piece} (hcall : call ∈ form.calls tag) :
    fault? (session.answer call) = fault? (session.make form tag) := by
  rw [answer_eq_map_success, fault?_map]
  cases form with
  | opening =>
      obtain rfl := List.mem_singleton.mp hcall
      rw [success_start h]
      cases helement : session.vocabulary.element tag.name with
      | error error => simp only [make, Vocabulary.template, helement, bind_error]; rfl
      | ok element => rw [bind_ok, fault?_bind_pure]
  | whole =>
      rcases List.mem_cons.mp hcall with rfl | hcall
      · rw [success_render h, fault?_map]
      · obtain rfl := List.mem_singleton.mp hcall
        rw [success_element h, fault?_map]

end Session

end CheckedMarkup
