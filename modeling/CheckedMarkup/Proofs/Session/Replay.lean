import CheckedMarkup.Proofs.Log
import CheckedMarkup.Proofs.Session.Farewell
import Mathlib.Algebra.Ring.Nat

/-! # What the log tells of a session

The log of a script can be replayed without the session: its messages about opened
and closed elements match like brackets, and after each call those that are not
matched are the open elements. Calls that are idle say nothing, and a document that
is handed out is reported once, with the number of its fragments and bytes.
-/

namespace CheckedMarkup

/-- Whether an entry comes from a call, and not from what is done before or after the calls. -/
def Log.Entry.isOfCall : Log.Entry → Bool
  | added _ | opened _ _ | closed _ _ | finished _ _ => true
  | compiled _ _ | typeFixed _ | abandoned _ => false

def Log.Entry.isFinish : Log.Entry → Bool
  | finished _ _ => true
  | compiled _ _ | typeFixed _ | added _ | opened _ _ | closed _ _ | abandoned _ => false

theorem Log.Entry.isNesting_of_not_isOfCall (entry : Log.Entry) (h : entry.isOfCall = false) :
    entry.isNesting = false := by
  cases entry with
  | added | opened | closed | finished => cases h
  | compiled | typeFixed | abandoned => rfl

/-- How many fragments a call that is taken adds. -/
def Call.fragmentCount {τ π : Type} : Call τ π → Nat
  | .element _ | .start _ | .close _ | .comment _ | .script _ => 1
  | .write pieces => pieces.length
  | .render _ | .finish => 0

namespace Session

variable {session : Session} {call : Call Tag Piece} {outcome : Outcome} {names : List String}
  {calls : List (Call Tag Piece)}

/-! ## One call -/

theorem told_singleton (session : Session) (call : Call Tag Piece) :
    session.told [call] = (session.call call).log := List.append_nil _

/-- A call leads somewhere and is told, or it is refused and nothing is said. -/
theorem told_cases (session : Session) (call : Call Tag Piece) :
    (∃ outcome, Leads session call outcome ∧ session.told [call] = outcome.log ∧
        session.taken [call] = [call] ∧ session.after call = outcome.session) ∨
      (session.told [call] = [] ∧ session.taken [call] = [] ∧ session.after call = session) := by
  rw [told_singleton, after]
  rcases call_cases session call with ⟨outcome, hcall, hfinished, hleads⟩ | ⟨error, hcall⟩
  · have haccepts : session.Accepts call := accepts_iff.mpr ⟨hfinished, outcome, hleads⟩
    exact .inl ⟨outcome, hleads, by rw [hcall], taken_of_accepts haccepts, by rw [hcall]⟩
  · exact .inr ⟨by rw [hcall], by simp [taken, answer, hcall], by rw [hcall]⟩

/-- A reader who knows the names of the open elements up to case knows them after the call too. -/
theorem Leads.exists_replay?_eq (h : Leads session call outcome)
    (hstack : session.Closes names) :
    ∃ next, Log.replay? names outcome.log = some next ∧ outcome.session.Closes next := by
  cases h with
  | render | element | write | comment | script => exact ⟨names, rfl, hstack⟩
  | finish => exact ⟨names, rfl, hstack⟩
  | @start tag element fragment hfind hmake =>
      have hdepth : session.depth = names.length := hstack.length_eq
      refine ⟨tag.name :: names, ?_, .cons (Vocabulary.sameUpToCase_of_find? hfind) hstack⟩
      rw [Log.replay?_singleton]
      exact if_pos hdepth
  | @close name innermost rest hclose hname =>
      rw [Closes, hclose] at hstack
      cases hstack with
      | @cons _ opened _ others hfirst hrest =>
          refine ⟨others, ?_, hrest⟩
          rw [Log.replay?_singleton]
          exact if_pos ⟨hfirst, hrest.length_eq⟩

theorem Leads.isOfCall_eq (h : Leads session call outcome) {entry : Log.Entry}
    (hentry : entry ∈ outcome.log) : entry.isOfCall = true := by
  cases h with
  | render | write | comment | script => cases hentry
  | element | start | close | finish =>
      obtain rfl := List.mem_singleton.mp hentry
      rfl

theorem Leads.length_fragments (h : Leads session call outcome)
    (hfinished : outcome.session.isFinished = false) :
    outcome.session.fragments.length = session.fragments.length + call.fragmentCount := by
  cases h with
  | render => rfl
  | finish => cases hfinished
  | element | start | close | write | comment | script => simp [add, Call.fragmentCount]

theorem Leads.countP_isFinish (h : Leads session call outcome) :
    outcome.log.countP Log.Entry.isFinish = [call].count .finish := by
  cases h <;> rfl

theorem IsIdle.told_eq (h : session.IsIdle call) : session.told [call] = [] := by
  rcases h with ⟨tag, rfl⟩ | ⟨error, herror⟩
  · rcases session.told_cases (.render tag) with ⟨_, hleads, htold, -⟩ | ⟨htold, -⟩
    · rw [htold]
      cases hleads
      rfl
    · exact htold
  · rw [told_singleton, call_of_answer_eq_error herror]

/-! ## Calls in a row -/

theorem told_cons (call : Call Tag Piece) (rest : List (Call Tag Piece)) :
    session.told (call :: rest) = session.told [call] ++ (session.after call).told rest := by
  rw [told_singleton, told]

theorem told_append (first second : List (Call Tag Piece)) :
    session.told (first ++ second) =
      session.told first ++ (session.afterAll first).told second := by
  induction first generalizing session with
  | nil => rfl
  | cons call rest ih =>
      rw [List.cons_append, told_cons, ih, told_cons call rest, List.append_assoc, afterAll_cons]

theorem told_of_isFinished (h : session.isFinished = true) (calls : List (Call Tag Piece)) :
    session.told calls = [] := by
  induction calls with
  | nil => rfl
  | cons call rest ih =>
      rw [told, Session.after, call_of_isFinished h]
      exact ih

/-- All through some calls, the reader knows the open elements. -/
theorem exists_replay?_told_eq (hstack : session.Closes names)
    (calls : List (Call Tag Piece)) :
    ∃ next, Log.replay? names (session.told calls) = some next ∧
      (session.afterAll calls).Closes next := by
  induction calls generalizing session names with
  | nil => exact ⟨names, rfl, hstack⟩
  | cons call rest ih =>
      rw [told_cons, Log.replay?_append, afterAll_cons]
      rcases session.told_cases call with ⟨outcome, hleads, htold, -, hafter⟩ | ⟨htold, -, hafter⟩
      · obtain ⟨next, hreplay, hnext⟩ := hleads.exists_replay?_eq hstack
        rw [htold, hreplay, hafter]
        exact ih hnext
      · rw [htold, hafter]
        exact ih hstack

theorem length_fragments_afterAll (hfinished : (session.afterAll calls).isFinished = false) :
    (session.afterAll calls).fragments.length =
      session.fragments.length + ((session.taken calls).map Call.fragmentCount).sum := by
  induction calls generalizing session with
  | nil => rfl
  | cons call rest ih =>
      have hsplit : (session.afterAll ([call] ++ rest)).isFinished = false := hfinished
      have hnext : (session.after call).isFinished = false := isFinished_of_append hsplit
      rw [afterAll_cons, ih hfinished, taken_cons, List.map_append, List.sum_append,
        ← Nat.add_assoc]
      rcases session.told_cases call with ⟨outcome, hleads, -, htaken, hafter⟩ | ⟨-, htaken, hafter⟩
      · rw [hafter] at hnext
        rw [hafter, htaken, hleads.length_fragments hnext]
        rfl
      · rw [hafter, htaken]
        rfl

theorem countP_isFinish_told (session : Session) (calls : List (Call Tag Piece)) :
    (session.told calls).countP Log.Entry.isFinish = (session.taken calls).count .finish := by
  induction calls generalizing session with
  | nil => rfl
  | cons call rest ih =>
      rw [told_cons, taken_cons, List.countP_append, List.count_append, ih]
      rcases session.told_cases call with ⟨outcome, hleads, htold, htaken, -⟩ | ⟨htold, htaken, -⟩
      · rw [htold, htaken, hleads.countP_isFinish]
      · rw [htold, htaken]
        rfl

/-! ## The log of a script -/

theorem filter_farewell_eq_nil {p : Log.Entry → Bool} (hp : ∀ tags, p (.abandoned tags) = false)
    (session : Session) : session.farewell.filter p = [] := by
  unfold farewell
  split
  · rfl
  · simp [hp]

theorem filter_isOfCall_follow (session : Session) (returned : List (Option Fragment))
    (script : List Step) :
    (session.follow returned script).log.filter Log.Entry.isOfCall =
      session.told (session.sent returned script) := by
  have hall := forall_mem_told (fun h _ => h.isOfCall_eq) session (session.sent returned script)
  rw [filter_follow fun _ => rfl, filter_farewell_eq_nil fun _ => rfl, List.append_nil,
    List.filter_eq_self.mpr hall]

theorem countP_isFinish_follow (session : Session) (returned : List (Option Fragment))
    (script : List Step) :
    (session.follow returned script).log.countP Log.Entry.isFinish =
      (session.taken (session.sent returned script)).count .finish := by
  rw [← countP_isFinish_told, List.countP_eq_length_filter, filter_follow fun _ => rfl,
    filter_farewell_eq_nil fun _ => rfl, List.append_nil, List.countP_eq_length_filter]

theorem exists_leavesOpen_told (vocabulary : Vocabulary) (escaper : Escaper)
    (calls : List (Call Tag Piece)) :
    ∃ names, Log.LeavesOpen names ((new vocabulary escaper).told calls) ∧
      List.Forall₂ (fun tag name => Text.sameUpToCase tag name = true)
        ((new vocabulary escaper).afterAll calls).openTags names := by
  have hnew : (new vocabulary escaper).Closes [] := .nil
  obtain ⟨names, hnames, hstack⟩ := exists_replay?_told_eq hnew calls
  exact ⟨names.reverse, Log.leavesOpen_of_replay? hnames, List.rel_reverse hstack⟩

theorem told_finish {before : List (Call Tag Piece)} {document : String}
    (hanswer : (session.afterAll before).answer .finish = .ok (.document document))
    (after : List (Call Tag Piece)) :
    session.told (before ++ .finish :: after) = session.told before ++
      [.finished (session.fragments.length + ((session.taken before).map Call.fragmentCount).sum)
        document.utf8ByteSize] := by
  obtain ⟨hfinished, outcome, hleads, hreply⟩ := answer_eq_ok_iff.mp hanswer
  have hclosed : outcome.session.isFinished = true := by
    cases hleads
    rfl
  have hlast : (session.afterAll before).told (.finish :: after) = outcome.log := by
    rw [told, after_of_leads hfinished hleads, told_of_isFinished hclosed, List.append_nil,
      call_of_leads hfinished hleads]
  rw [told_append, hlast, ← length_fragments_afterAll hfinished]
  cases hleads with
  | finish hstack =>
      cases hreply
      rfl

/-- The log of a script tells the run of its session. What is said of opened and closed elements
matches like brackets, at the same depth and under the same name up to case, and after any call what
has no match is what is open. Idle calls say nothing, and a document that is handed out is reported
once, with its bytes and with the fragments that the calls have added. -/
theorem log_replays_run (vocabulary : Vocabulary) (escaper : Escaper) (script : List Step)
    {first : Session} {calls : List (Call Tag Piece)} {log : List Log.Entry}
    (hfirst : new vocabulary escaper = first) (hcalls : first.sent [] script = calls)
    (hlog : (first.runScript script).log = log) :
    (∀ entry : Log.Entry,
      (∀ name depth, entry.level = .trace ∧ entry.message = s!"start <{name}> at depth {depth}" ↔
        entry = .opened name depth) ∧
      (∀ name depth, entry.level = .trace ∧ entry.message = s!"end </{name}> at depth {depth}" ↔
        entry = .closed name depth) ∧
      ∀ fragments bytes, entry.level = .debug ∧
          entry.message = s!"finished markup stream: {fragments} fragments, {bytes} bytes" ↔
        entry = .finished fragments bytes) ∧
    (∃ names, Log.LeavesOpen names log) ∧
    (∀ before after, calls = before ++ after →
      log.filter Log.Entry.isOfCall = first.told before ++ (first.afterAll before).told after ∧
      ∃ names, Log.LeavesOpen names (first.told before) ∧
        (∀ others, Log.LeavesOpen others (first.told before) → others = names) ∧
        names.length = (first.afterAll before).depth ∧
        List.Forall₂ (fun tag name => Text.sameUpToCase tag name = true)
          (first.afterAll before).openTags names) ∧
    (∀ before call after, calls = before ++ call :: after →
      (first.afterAll before).IsIdle call → first.told (before ++ [call]) = first.told before) ∧
    (log.countP Log.Entry.isFinish = if (first.afterAll calls).isFinished then 1 else 0) ∧
    ∀ before after document, calls = before ++ .finish :: after →
      (first.afterAll before).answer .finish = .ok (.document document) →
      log.filter Log.Entry.isOfCall = first.told before ++
        [.finished ((first.taken before).map Call.fragmentCount).sum document.utf8ByteSize] := by
  have htold : log.filter Log.Entry.isOfCall = first.told calls := by
    rw [← hlog, ← hcalls, runScript, filter_isOfCall_follow]
  refine ⟨fun entry => ⟨fun _ _ => entry.says_opened_iff, fun _ _ => entry.says_closed_iff,
    fun _ _ => entry.says_finished_iff⟩, ?_, ?_, ?_, ?_, ?_⟩
  · obtain ⟨names, hnames, -⟩ := exists_leavesOpen_told vocabulary escaper calls
    rw [hfirst, ← htold, Log.leavesOpen_filter_iff Log.Entry.isNesting_of_not_isOfCall] at hnames
    exact ⟨names, hnames⟩
  · rintro before after rfl
    obtain ⟨names, hnames, hsame⟩ := exists_leavesOpen_told vocabulary escaper before
    rw [hfirst] at hnames hsame
    refine ⟨htold.trans (told_append before after), names, hnames,
      fun _ hothers => hnames.unique hothers, ?_, hsame⟩
    rw [← hsame.length_eq, openTags, List.length_reverse, depth]
  · intro before call after _ hidle
    rw [told_append, hidle.told_eq, List.append_nil]
  · rw [← hlog, runScript, countP_isFinish_follow, hcalls, ← hfirst]
    exact count_finish_taken rfl calls
  · rintro before after document rfl hanswer
    rw [htold, told_finish hanswer, ← hfirst]
    simp [new]

def letterTable : Table := ⟨[("q", "inline"), ("p", "block"), ("br", "empty only")], []⟩

def letterVocabulary : Vocabulary :=
  ⟨[⟨"br", none, true, []⟩, ⟨"p", some .block, false, []⟩, ⟨"q", some .inline, false, []⟩]⟩

/-- A paragraph with a quotation, a break and a comment that looks like a message. Some of the
calls are refused. -/
def letterScript : List Step :=
  [.start ⟨.named "P", []⟩, .start ⟨.named "q", [.text "x"]⟩,
    .render ⟨.named "Q", [.text "x"]⟩, .start ⟨.named "Q", []⟩,
    .write [.piece (.text "a<b"), .earlier 2], .close "q", .finish, .element ⟨.named "Br", []⟩,
    .comment ["end </p> at depth 0"], .close "p", .finish, .start ⟨.named "p", []⟩]

def letterOpening : List (Call Tag Piece) :=
  [.start (.named "P"), .start ((Tag.named "q").text "x"), .render ((Tag.named "Q").text "x"),
    .start (.named "Q"), .write [.text "a<b", .markup ⟨"<q>x</q>"⟩]]

def letterClosing : List (Call Tag Piece) :=
  [.close "q", .finish, .element (.named "Br"), .comment ["end </p> at depth 0"], .close "p"]

def letterDocument : String :=
  "<p><q>a&lt;b<q>x</q></q><br /><!-- end </p> at depth 0 --></p>"

theorem log_replays_run_letter :
    letterTable.compile = .ok letterVocabulary ∧
      (new letterVocabulary .xml).sent [] letterScript =
        letterOpening ++ (letterClosing ++ [.finish, .start (.named "p")]) ∧
      Log.LeavesOpen ["P", "Q"] ((new letterVocabulary .xml).told letterOpening) ∧
      ((new letterVocabulary .xml).afterAll letterOpening).depth = 2 ∧
      ((new letterVocabulary .xml).runScript letterScript).log.filter Log.Entry.isOfCall =
        [.opened "P" 0, .opened "Q" 1, .closed "q" 1, .added ⟨"<br />"⟩, .closed "p" 0,
          .finished 8 62] := by
  have hcompile : letterTable.compile = .ok letterVocabulary := by decide +kernel
  have hcalls : (new letterVocabulary .xml).sent [] letterScript =
      letterOpening ++ (letterClosing ++ [.finish, .start (.named "p")]) := by decide +kernel
  have hanswer :
      ((new letterVocabulary .xml).afterAll (letterOpening ++ letterClosing)).answer .finish =
        .ok (.document letterDocument) := by decide +kernel
  have hread : Log.LeavesOpen ["P", "Q"] ((new letterVocabulary .xml).told letterOpening) :=
    Log.leavesOpen_iff_replay?.mpr (by decide +kernel)
  obtain ⟨_, _, hopen, _, _, hfinish⟩ :=
    log_replays_run letterVocabulary .xml letterScript rfl hcalls rfl
  obtain ⟨_, names, _, hunique, hdepth, _⟩ := hopen letterOpening _ rfl
  obtain rfl := hunique _ hread
  have hlog := hfinish (letterOpening ++ letterClosing) [.start (.named "p")] _
    (List.append_assoc _ _ _).symm hanswer
  exact ⟨hcompile, hcalls, hread, hdepth.symm, hlog.trans (by decide +kernel)⟩

end Session

end CheckedMarkup
