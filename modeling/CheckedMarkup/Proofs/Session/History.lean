import CheckedMarkup.Proofs.Session.Idle
import CheckedMarkup.Proofs.Session.Nesting
import CheckedMarkup.Proofs.Vocabulary.Names

/-! # The history of a session

A session keeps no record of its calls. Its open elements and its document are
nevertheless what the calls say that were taken: each start that no later close
matches is open, and the document is what these calls added, one after the other.
-/

namespace CheckedMarkup

/-! ## Calls in balance -/

/-- Calls that close every element that they open, and close no other. -/
inductive IsBalanced : List (Call Tag Piece) → Prop
  | nil : IsBalanced []
  | other {call : Call Tag Piece} {rest : List (Call Tag Piece)} (hcall : call.isNesting = false)
      (hrest : IsBalanced rest) : IsBalanced (call :: rest)
  | bracket {tag : Tag} {name : String} {between rest : List (Call Tag Piece)}
      (hbetween : IsBalanced between) (hrest : IsBalanced rest) :
      IsBalanced (.start tag :: (between ++ .close name :: rest))

/-- Calls of which the starts with some tags, the outermost first, are not matched by a close. What
stands before, between and after these starts is in balance. -/
inductive LeavesOpen : List Tag → List (Call Tag Piece) → Prop
  | balanced {calls : List (Call Tag Piece)} (h : IsBalanced calls) : LeavesOpen [] calls
  | opened {tags : List Tag} {tag : Tag} {calls more : List (Call Tag Piece)}
      (houter : LeavesOpen tags calls) (hinner : IsBalanced more) :
      LeavesOpen (tags ++ [tag]) (calls ++ .start tag :: more)

/-- The tags of the starts that wait for a close, the innermost first. -/
def Call.wait (tags : List Tag) : Call Tag Piece → List Tag
  | .start tag => tag :: tags
  | .close _ => tags.tail
  | .render _ | .element _ | .write _ | .comment _ | .script _ | .finish => tags

variable {tags others : List Tag} {calls more : List (Call Tag Piece)}

namespace IsBalanced

theorem append (h : IsBalanced calls) (hmore : IsBalanced more) : IsBalanced (calls ++ more) := by
  induction h with
  | nil => exact hmore
  | other hcall _ ih => exact .other hcall ih
  | bracket hbetween _ _ ih =>
      rw [List.cons_append, List.append_assoc]
      exact .bracket hbetween ih

theorem foldl_wait (h : IsBalanced calls) (tags : List Tag) :
    calls.foldl Call.wait tags = tags := by
  -- along the balance itself: what a bracket opens, its close takes off again
  induction h generalizing tags with
  | nil => rfl
  | @other call rest hcall _ ih =>
      have hsame : call.wait tags = tags := by
        cases call with
        | start | close => cases hcall
        | render | element | write | comment | script | finish => rfl
      rw [List.foldl_cons, hsame, ih]
  | bracket _ _ ihbetween ihrest =>
      rw [List.foldl_cons, List.foldl_append, ihbetween, List.foldl_cons, ihrest]
      rfl

end IsBalanced

namespace LeavesOpen

theorem append (h : LeavesOpen tags calls) (hmore : IsBalanced more) :
    LeavesOpen tags (calls ++ more) := by
  cases h with
  | balanced h => exact .balanced (h.append hmore)
  | opened houter hinner =>
      rw [List.append_assoc, List.cons_append]
      exact .opened houter (hinner.append hmore)

/-- A close matches the last start that is still open. -/
theorem close {tag : Tag} (h : LeavesOpen (tags ++ [tag]) calls) (name : String) :
    LeavesOpen tags (calls ++ [.close name]) := by
  generalize htags : tags ++ [tag] = all at h
  cases h with
  | balanced => simp at htags
  | opened houter hinner =>
      obtain ⟨rfl, -⟩ := List.append_inj' htags rfl
      rw [List.append_assoc, List.cons_append]
      exact houter.append (.bracket hinner .nil)

theorem foldl_wait (h : LeavesOpen tags calls) : calls.foldl Call.wait [] = tags.reverse := by
  induction h with
  | balanced h => exact h.foldl_wait []
  | opened _ hinner ih =>
      rw [List.foldl_append, ih, List.foldl_cons, hinner.foldl_wait, List.reverse_append]
      rfl

theorem unique (h : LeavesOpen tags calls) (hothers : LeavesOpen others calls) :
    others = tags :=
  List.reverse_inj.mp (hothers.foldl_wait.symm.trans h.foldl_wait)

end LeavesOpen

theorem leavesOpen_nil_iff : LeavesOpen [] calls ↔ IsBalanced calls := by
  constructor
  · intro h
    generalize htags : ([] : List Tag) = tags at h
    cases h with
    | balanced h => exact h
    | opened => simp at htags
  · exact .balanced

/-! ## What calls add -/

/-- The markup of a tag, if it passes. -/
def Vocabulary.markup (vocabulary : Vocabulary) (escaper : Escaper) (form : Form) (tag : Tag) :
    String :=
  match vocabulary.template form tag with
  | .ok template => (template.encode escaper).text
  | .error _ => ""

/-- Whether a call opens no element, or one that is declared under its name in lower case. -/
def Call.Lowers (vocabulary : Vocabulary) : Call Tag Piece → Prop
  | .start tag => vocabulary.Lowers tag.name
  | .render _ | .element _ | .close _ | .write _ | .comment _ | .script _ | .finish => True

theorem Vocabulary.IsNamed.lowers {vocabulary : Vocabulary} (h : vocabulary.IsNamed)
    (call : Call Tag Piece) : call.Lowers vocabulary := by
  cases call with
  | start tag => exact fun element hfind => h.name_of_find? hfind
  | render | element | close | write | comment | script | finish => trivial

/-- What a call that is taken adds to the document. -/
def Call.adds (vocabulary : Vocabulary) (escaper : Escaper) : Call Tag Piece → String
  | .element tag => vocabulary.markup escaper .whole tag
  | .start tag => vocabulary.markup escaper .opening tag
  | .close name => ElementDecl.closingTag name.toLower
  | .write pieces => (Fragment.concat (pieces.map (Piece.encode escaper))).text
  | .comment lines => commentText lines
  | .script lines => scriptText lines
  | .render _ | .finish => ""

namespace Session

/-- The calls that are taken when some calls are made, in their order. -/
def taken (session : Session) : List (Call Tag Piece) → List (Call Tag Piece)
  | [] => []
  | call :: rest =>
      match session.answer call with
      | .ok _ => call :: (session.after call).taken rest
      | .error _ => (session.after call).taken rest

variable {session : Session}

theorem taken_cons (call : Call Tag Piece) (rest : List (Call Tag Piece)) :
    session.taken (call :: rest) = session.taken [call] ++ (session.after call).taken rest := by
  simp only [taken]
  cases session.answer call <;> rfl

theorem taken_of_accepts {call : Call Tag Piece} (h : session.Accepts call) :
    session.taken [call] = [call] := by
  obtain ⟨reply, hanswer⟩ := h
  simp [taken, hanswer]

theorem taken_of_not_accepts {call : Call Tag Piece} (h : ¬session.Accepts call) :
    session.taken [call] = [] := by
  simp only [taken]
  split
  next reply hanswer => exact absurd ⟨reply, hanswer⟩ h
  · rfl

theorem taken_of_isFinished (h : session.isFinished = true) (calls : List (Call Tag Piece)) :
    session.taken calls = [] := by
  induction calls with
  | nil => rfl
  | cons call rest ih =>
      simp only [taken, answer, Session.after, call_of_isFinished h]
      exact ih

theorem Leads.isFinished_iff {call : Call Tag Piece} {outcome : Outcome}
    (h : Leads session call outcome) (hfinished : session.isFinished = false) :
    outcome.session.isFinished = true ↔ call = .finish := by
  cases h with
  | finish => simp
  | render | element | start | close | write | comment | script => simp [add, hfinished]

/-- The finish that ends a session is the only one that is taken. -/
theorem count_finish_taken (hfinished : session.isFinished = false)
    (calls : List (Call Tag Piece)) :
    (session.taken calls).count .finish =
      if (session.afterAll calls).isFinished then 1 else 0 := by
  induction calls generalizing session with
  | nil => simp [taken, hfinished]
  | cons call rest ih =>
      rw [taken_cons, List.count_append, afterAll_cons]
      rcases after_cases session call with ⟨outcome, haccepts, hleads, hafter⟩ | ⟨hrefused, hafter⟩
      · rw [taken_of_accepts haccepts, hafter]
        have hlast := hleads.isFinished_iff hfinished
        cases hnext : outcome.session.isFinished with
        | true =>
            rw [hlast.mp hnext, taken_of_isFinished hnext, afterAll_of_isFinished hnext, hnext]
            rfl
        | false =>
            have hcall : call ≠ .finish := by rwa [ne_eq, ← hlast, Bool.not_eq_true]
            rw [ih hnext, List.count_singleton]
            simp [hcall]
      · rw [taken_of_not_accepts hrefused, hafter, ih hfinished]
        exact Nat.zero_add _

theorem finish_mem_taken_iff (hfinished : session.isFinished = false)
    (calls : List (Call Tag Piece)) :
    .finish ∈ session.taken calls ↔ (session.afterAll calls).isFinished = true := by
  rw [← List.count_pos_iff, count_finish_taken hfinished]
  cases (session.afterAll calls).isFinished <;> simp

theorem text_of_make {form : Form} {tag : Tag} {fragment : Fragment}
    (h : session.make form tag = .ok fragment) :
    fragment.text = session.vocabulary.markup session.escaper form tag := by
  obtain ⟨template, htemplate, hencode⟩ := Fallible.bind_eq_ok_iff.mp h
  cases hencode
  rw [Vocabulary.markup, htemplate]

theorem closes_of_map_toLower {names : List String}
    (h : names.map String.toLower = session.stack) : session.Closes names := by
  rw [Closes, ← h, List.forall₂_map_left_iff]
  exact List.forall₂_same.mpr fun name _ => Text.sameUpToCase_toLower name

/-! ## The record of a session -/

/-- What a session has to do with the calls that it has taken, where the starts with some tags are
the ones that are not matched. -/
structure Recalls (session : Session) (tags : List Tag) (history : List (Call Tag Piece)) :
    Prop where
  nesting : LeavesOpen tags history
  stack : session.stack = (tags.map fun tag => tag.name.toLower).reverse
  declared : ∀ tag ∈ tags, ∃ element, session.vocabulary.find? tag.name = some element ∧
    element.isEmpty = false
  closed : session.isFinished = true → tags = []
  document : session.isFinished = false →
    session.document = String.join (history.map (Call.adds session.vocabulary session.escaper))

theorem recalls_new (vocabulary : Vocabulary) (escaper : Escaper) :
    (new vocabulary escaper).Recalls [] [] :=
  ⟨.balanced .nil, rfl, by simp, fun _ => rfl, fun _ => rfl⟩

namespace Recalls

variable {history : List (Call Tag Piece)}

/-- A call that only adds to the document leaves the same starts open. -/
theorem add (h : session.Recalls tags history) {call : Call Tag Piece}
    (hnesting : call.isNesting = false) {fragments : List Fragment}
    (hadds : (Fragment.concat fragments).text = call.adds session.vocabulary session.escaper) :
    (session.add fragments).Recalls tags (history ++ [call]) := by
  refine ⟨h.nesting.append (.other hnesting .nil), h.stack, h.declared, h.closed, ?_⟩
  intro hfinished
  rw [document_add, h.document hfinished, hadds]
  simp [Session.add]

theorem start (h : session.Recalls tags history) (hfinished : session.isFinished = false)
    {tag : Tag} (hlowers : session.vocabulary.Lowers tag.name) {element : ElementDecl}
    (hfind : session.vocabulary.find? tag.name = some element) {fragment : Fragment}
    (hmake : session.make .opening tag = .ok fragment) :
    Recalls { session.add [fragment] with stack := element.name :: session.stack } (tags ++ [tag])
      (history ++ [.start tag]) := by
  refine ⟨.opened h.nesting .nil, ?_, ?_, ?_, ?_⟩
  · simp [h.stack, hlowers element hfind]
  · -- an opening tag only passes for an element that may have content
    obtain ⟨other, _, hother, hcheck, _⟩ := make_eq_ok_iff.mp hmake
    rw [hfind, Option.some.injEq] at hother
    subst hother
    intro other hother
    rcases List.mem_append.mp hother with hother | hother
    · exact h.declared other hother
    · rw [List.mem_singleton.mp hother]
      exact ⟨element, hfind, (ElementDecl.check_eq_ok_iff.mp hcheck).1.2.1⟩
  · exact fun htrue => absurd (hfinished.symm.trans htrue) (by simp)
  · intro _
    have hdocument := document_snoc session fragment (element.name :: session.stack)
    rw [h.document hfinished, text_of_make hmake] at hdocument
    refine hdocument.trans ?_
    simp [Call.adds, Session.add]

theorem close (h : session.Recalls tags history) (hfinished : session.isFinished = false)
    {name innermost : String} {rest : List String} (hstack : session.stack = innermost :: rest)
    (hname : Text.sameUpToCase innermost name = true) :
    ∃ tags, Recalls { session.add [⟨ElementDecl.closingTag innermost⟩] with stack := rest } tags
      (history ++ [.close name]) := by
  -- the last tag is the one whose element is closed
  have hlast : ∃ outer tag, tags = outer ++ [tag] ∧ innermost = tag.name.toLower ∧
      rest = (outer.map fun tag => tag.name.toLower).reverse := by
    have hnames := h.stack.symm.trans hstack
    rcases List.eq_nil_or_concat tags with rfl | ⟨outer, tag, rfl⟩
    · cases hnames
    · rw [List.concat_eq_append, List.map_append, List.reverse_append] at hnames
      obtain ⟨rfl, rfl⟩ := List.cons.inj hnames
      exact ⟨outer, tag, List.concat_eq_append, rfl, rfl⟩
  obtain ⟨outer, tag, rfl, rfl, rfl⟩ := hlast
  have hlower : name.toLower = tag.name.toLower := by
    have heq : tag.name.toLower.toLower = name.toLower := by
      simpa [Text.sameUpToCase] using hname
    rw [← heq, Text.toLower_toLower]
  refine ⟨outer, h.nesting.close name, rfl, ?_, ?_, ?_⟩
  · exact fun other hother => h.declared other (List.mem_append_left _ hother)
  · exact fun htrue => absurd (hfinished.symm.trans htrue) (by simp)
  · intro _
    have hdocument := document_snoc session ⟨ElementDecl.closingTag tag.name.toLower⟩
      (outer.map fun tag => tag.name.toLower).reverse
    rw [h.document hfinished] at hdocument
    refine hdocument.trans ?_
    simp [Call.adds, Session.add, hlower]

theorem finish (h : session.Recalls tags history) (hstack : session.stack = []) :
    Recalls { session with fragments := [], isFinished := true } [] (history ++ [.finish]) := by
  have htags := h.stack.symm.trans hstack
  rw [List.reverse_eq_nil_iff, List.map_eq_nil_iff] at htags
  subst htags
  refine ⟨h.nesting.append (.other rfl .nil), hstack, by simp, fun _ => rfl, ?_⟩
  exact fun hfalse => absurd hfalse (by simp)

/-- What is recalled of a session is recalled of the one that a call leads to. -/
theorem leads (h : session.Recalls tags history) (hfinished : session.isFinished = false)
    {call : Call Tag Piece} (hlowers : call.Lowers session.vocabulary) {outcome : Outcome}
    (hleads : Leads session call outcome) :
    ∃ tags, outcome.session.Recalls tags (history ++ [call]) := by
  cases hleads with
  | @render tag fragment hmake =>
      -- a fragment that is only returned adds nothing
      have hsame : session.add [] = session := by simp [Session.add]
      have hadd : (session.add []).Recalls tags (history ++ [.render tag]) :=
        h.add rfl rfl
      rw [hsame] at hadd
      exact ⟨tags, hadd⟩
  | element hmake =>
      refine ⟨tags, h.add rfl ?_⟩
      rw [Fragment.concat_singleton, text_of_make hmake]
      rfl
  | start hfind hmake => exact ⟨_, h.start hfinished hlowers hfind hmake⟩
  | close hstack hname => exact h.close hfinished hstack hname
  | write pieces => exact ⟨tags, h.add rfl rfl⟩
  | comment lines => exact ⟨tags, h.add rfl (by rw [Fragment.concat_singleton]; rfl)⟩
  | script lines => exact ⟨tags, h.add rfl (by rw [Fragment.concat_singleton]; rfl)⟩
  | finish hstack => exact ⟨[], h.finish hstack⟩

theorem after (h : session.Recalls tags history) {call : Call Tag Piece}
    (hlowers : call.Lowers session.vocabulary) :
    ∃ tags, (session.after call).Recalls tags (history ++ session.taken [call]) := by
  rcases after_cases session call with ⟨outcome, haccepts, hleads, hafter⟩ | ⟨hrefused, hafter⟩
  · rw [hafter, taken_of_accepts haccepts]
    exact h.leads (accepts_iff.mp haccepts).1 hlowers hleads
  · rw [hafter, taken_of_not_accepts hrefused, List.append_nil]
    exact ⟨tags, h⟩

theorem afterAll (h : session.Recalls tags history) {calls : List (Call Tag Piece)}
    (hlowers : ∀ call ∈ calls, call.Lowers session.vocabulary) :
    ∃ tags, (session.afterAll calls).Recalls tags (history ++ session.taken calls) := by
  induction calls generalizing session tags history with
  | nil => exact ⟨tags, by simpa [taken] using h⟩
  | cons call rest ih =>
      obtain ⟨hfirst, hrest⟩ := List.forall_mem_cons.mp hlowers
      obtain ⟨next, hnext⟩ := h.after hfirst
      rw [taken_cons, ← List.append_assoc, afterAll_cons]
      exact ih hnext (by rwa [vocabulary_after])

theorem isBalanced_iff (h : session.Recalls tags history) :
    IsBalanced history ↔ session.stack = [] := by
  rw [h.stack, List.reverse_eq_nil_iff, List.map_eq_nil_iff, ← leavesOpen_nil_iff]
  constructor
  · exact fun hnil => hnil.unique h.nesting
  · rintro rfl
    exact h.nesting

/-- The open elements can be closed under the names that they were opened with. -/
theorem closes (h : session.Recalls tags history) :
    session.Closes (tags.reverse.map Tag.name) := by
  apply closes_of_map_toLower
  rw [h.stack, List.map_map, List.map_reverse]
  rfl

end Recalls

/-! ## The stack -/

/-- Whether elements can be closed under some names, one after the other, and the document then
ended. -/
def EndsBy (session : Session) (names : List String) (document : String) : Prop :=
  (∀ before name after, names = before ++ name :: after →
    (session.afterAll (before.map .close)).Accepts (.close name)) ∧
  (session.afterAll (names.map .close)).answer .finish = .ok (.document document)

theorem Closes.accepts (hfinished : session.isFinished = false) {before after : List String}
    {name : String} (h : session.Closes (before ++ name :: after)) :
    (session.afterAll (before.map .close)).Accepts (.close name) := by
  unfold Closes at h
  generalize hstack : session.stack = stack at h
  -- each close that is made leaves the session that the rest of the names fits
  induction before generalizing session stack with
  | nil =>
      cases h with
      | cons hname _ => exact accepts_close_iff.mpr ⟨hfinished, _, _, hstack, hname⟩
  | cons first rest ih =>
      cases h with
      | cons hfirst hrest =>
          rw [List.map_cons, afterAll_cons, after_close hfinished hstack hfirst]
          exact ih hfinished _ rfl hrest

theorem Closes.endsBy (hfinished : session.isFinished = false) {names : List String}
    (h : session.Closes names) :
    session.EndsBy names
      (session.document ++ String.join (session.stack.map ElementDecl.closingTag)) := by
  refine ⟨?_, answer_finish_close hfinished h⟩
  rintro before name after rfl
  exact h.accepts hfinished

theorem answer_finish_of_stack_ne_nil (hfinished : session.isFinished = false)
    (hstack : session.stack ≠ []) :
    session.answer .finish = .error (.unclosedTags session.openTags) := by
  rw [answer_finish hfinished]
  simp [hstack]

theorem exists_answer_finish_iff (hfinished : session.isFinished = false) :
    (∃ document, session.answer .finish = .ok (.document document)) ↔ session.stack = [] := by
  constructor
  · rintro ⟨document, hanswer⟩
    obtain ⟨_, _, hleads, _⟩ := answer_eq_ok_iff.mp hanswer
    cases hleads with
    | finish hstack => exact hstack
  · exact fun hstack => ⟨_, answer_finish_of_stack_eq_nil hfinished hstack⟩

/-- A session remembers of its calls just what it has to. Its open elements are those of the starts
that no close has matched; it can be finished once and only in balance; and until then the open
elements can be closed under any spelling of their names, after which the document is what the
calls added that were taken. -/
theorem stack_is_history {table : Table} {vocabulary : Vocabulary}
    (hcompile : table.compile = .ok vocabulary) (escaper : Escaper)
    {calls history : List (Call Tag Piece)} {session : Session}
    (hhistory : (new vocabulary escaper).taken calls = history)
    (hsession : (new vocabulary escaper).afterAll calls = session) :
    (∃ tags, LeavesOpen tags history ∧ (∀ others, LeavesOpen others history → others = tags) ∧
      session.openTags = tags.map (fun tag => tag.name.toLower) ∧
      (∀ tag ∈ tags, ∃ element ∈ vocabulary.elements,
        element.name = tag.name.toLower ∧ IsLowerName element.name ∧ element.isEmpty = false) ∧
      session.Closes (tags.reverse.map Tag.name)) ∧
    (session.isFinished = true →
      session.openTags = [] ∧ ∀ call, session.call call = ⟨.error .finished, session, []⟩) ∧
    (session.isFinished = true ↔ .finish ∈ history) ∧ history.count .finish ≤ 1 ∧
    (session.isFinished = false →
      ((∃ document, session.answer .finish = .ok (.document document)) ↔ IsBalanced history) ∧
      (¬IsBalanced history →
        session.answer .finish = .error (.unclosedTags session.openTags)) ∧
      ∀ names, session.Closes names →
        session.EndsBy names (String.join (history.map (Call.adds vocabulary escaper)) ++
          String.join (session.openTags.reverse.map ElementDecl.closingTag))) := by
  have hnamed := Vocabulary.isNamed_of_compile hcompile
  have hfinishes : history.count .finish = if session.isFinished then 1 else 0 := by
    rw [← hhistory, ← hsession]
    exact count_finish_taken rfl calls
  have hfinish : .finish ∈ history ↔ session.isFinished = true := by
    rw [← hhistory, ← hsession]
    exact finish_mem_taken_iff rfl calls
  obtain ⟨tags, hrecalls⟩ :=
    (recalls_new vocabulary escaper).afterAll fun call (_ : call ∈ calls) => hnamed.lowers call
  rw [List.nil_append, hhistory, hsession] at hrecalls
  have hvocabulary : session.vocabulary = vocabulary := by
    rw [← hsession, vocabulary_afterAll]
    rfl
  have hescaper : session.escaper = escaper := by
    rw [← hsession, escaper_afterAll]
    rfl
  refine ⟨⟨tags, hrecalls.nesting, fun others hothers => hrecalls.nesting.unique hothers, ?_, ?_,
    hrecalls.closes⟩, ?_, ?_, ?_, ?_⟩
  · rw [openTags, hrecalls.stack, List.reverse_reverse]
  · intro tag htag
    obtain ⟨element, hfind, hempty⟩ := hrecalls.declared tag htag
    rw [hvocabulary] at hfind
    have helement := Vocabulary.mem_of_find? hfind
    exact ⟨element, helement, hnamed.name_of_find? hfind, (hnamed element helement).name, hempty⟩
  · intro hfinished
    refine ⟨?_, call_of_isFinished hfinished⟩
    rw [openTags, hrecalls.stack, hrecalls.closed hfinished]
    rfl
  · exact hfinish.symm
  · rw [hfinishes]
    split <;> simp
  · intro hfinished
    refine ⟨?_, ?_, ?_⟩
    · rw [hrecalls.isBalanced_iff]
      exact exists_answer_finish_iff hfinished
    · intro hopen
      exact answer_finish_of_stack_ne_nil hfinished fun hnil =>
        hopen (hrecalls.isBalanced_iff.mpr hnil)
    · intro names hnames
      have hdocument := hrecalls.document hfinished
      rw [hvocabulary, hescaper] at hdocument
      rw [← hdocument, openTags, List.reverse_reverse]
      exact hnames.endsBy hfinished

def memoTable : Table := ⟨[("P", "block"), ("br", "empty only"), ("Div", "block")], [("all", "id")]⟩

def memoVocabulary : Vocabulary :=
  ⟨[⟨"br", none, true, []⟩, ⟨"div", some .block, false, [⟨"id", false, .plain⟩]⟩,
    ⟨"p", some .block, false, [⟨"id", false, .plain⟩]⟩]⟩

/-- A section with one paragraph and the start of another. -/
def memoHistory : List (Call Tag Piece) :=
  [.start ((Tag.named "DIV").attr "ID" (.text "a<b")), .start (.named "P"), .write [.text "x & y"],
    .close "p", .start (.named "p"), .element (.named "Br")]

/-- The same calls, and some that are refused. -/
def memoCalls : List (Call Tag Piece) :=
  .close "div" :: memoHistory ++ [.finish, .close "div", .start (.named "br")]

def memoSession : Session := (new memoVocabulary .xml).afterAll memoCalls

theorem stack_is_history_memo :
    memoTable.compile = .ok memoVocabulary ∧
      (new memoVocabulary .xml).taken memoCalls = memoHistory ∧
      memoSession.answer .finish = .error (.unclosedTags ["div", "p"]) ∧
      memoSession.EndsBy ["P", "dIV"]
        "<div id=\"a&lt;b\"><p>x &amp; y</p><p><br /></p></div>" := by
  have hcompile : memoTable.compile = .ok memoVocabulary := by decide +kernel
  have hhistory : (new memoVocabulary .xml).taken memoCalls = memoHistory := by decide +kernel
  have hsession : (new memoVocabulary .xml).afterAll memoCalls = memoSession := rfl
  have hfinished : memoSession.isFinished = false := by decide +kernel
  have hstack : memoSession.stack = ["p", "div"] := by decide +kernel
  have htext : String.join (memoHistory.map (Call.adds memoVocabulary .xml)) ++
      String.join (["p", "div"].map ElementDecl.closingTag) =
        "<div id=\"a&lt;b\"><p>x &amp; y</p><p><br /></p></div>" := by decide +kernel
  have hwaiting : memoHistory.foldl Call.wait [] ≠ [] := by decide +kernel
  have hunbalanced : ¬IsBalanced memoHistory := fun hbalanced =>
    hwaiting (hbalanced.foldl_wait [])
  have hcloses : memoSession.Closes ["P", "dIV"] := closes_of_map_toLower (by decide +kernel)
  obtain ⟨_, _, _, _, hopen⟩ := stack_is_history hcompile .xml hhistory hsession
  obtain ⟨_, hrefused, hends⟩ := hopen hfinished
  have hanswer := hrefused hunbalanced
  have hdocument := hends _ hcloses
  rw [openTags, hstack] at hanswer hdocument
  rw [List.reverse_reverse, htext] at hdocument
  exact ⟨hcompile, hhistory, hanswer, hdocument⟩

end Session

end CheckedMarkup
