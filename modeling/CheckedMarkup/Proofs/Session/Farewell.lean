import CheckedMarkup.Proofs.Session.History
import CheckedMarkup.Session.Script

/-! # Sessions that are given up

A session that is given up loses what it has added and not handed out. There is a
warning if it has elements open, and it is the only one that a script can lead to.
What is lost of a document in balance is lost without a word.
-/

namespace CheckedMarkup

def Log.Entry.isWarning (entry : Entry) : Bool := entry.level = .warn

/-! ## What is no warning -/

theorem Step.exists_of_mem_notices {step : Step} {entry : Log.Entry} (h : entry ∈ step.notices) :
    ∃ type, entry = .typeFixed type := by
  have hplan : ∀ plan : Plan Source, entry ∈ plan.notices → ∃ type, entry = .typeFixed type := by
    intro plan hentry
    unfold Plan.notices at hentry
    split at hentry
    · cases hentry
    next type _ =>
      obtain ⟨_, _, rfl⟩ := List.mem_map.mp hentry
      exact ⟨type, rfl⟩
  cases step with
  | render plan | element plan | start plan => exact hplan plan h
  | close | write | comment | script | finish => cases h

namespace Session

variable {session : Session}

theorem Leads.isWarning_eq {call : Call Tag Piece} {outcome : Outcome}
    (h : Leads session call outcome) {entry : Log.Entry} (hentry : entry ∈ outcome.log) :
    entry.isWarning = false := by
  cases h with
  | render | write | comment | script => cases hentry
  | element | start | close | finish =>
      obtain rfl := List.mem_singleton.mp hentry
      rfl

/-! ## The log of a script -/

/-- The calls that the steps of a script come to, given the fragments that earlier steps
returned. -/
def sent (session : Session) (returned : List (Option Fragment)) :
    List Step → List (Call Tag Piece)
  | [] => []
  | step :: rest =>
      let call := step.resolve returned
      call :: (session.after call).sent (returned ++ [(session.call call).fragment?]) rest

/-- What is logged by some calls, one after the other. -/
def told (session : Session) : List (Call Tag Piece) → List Log.Entry
  | [] => []
  | call :: rest => (session.call call).log ++ (session.after call).told rest

theorem forall_mem_told {p : Log.Entry → Prop}
    (h : ∀ {session : Session} {call : Call Tag Piece} {outcome : Outcome},
      Leads session call outcome → ∀ entry ∈ outcome.log, p entry)
    (session : Session) (calls : List (Call Tag Piece)) :
    ∀ entry ∈ session.told calls, p entry := by
  induction calls generalizing session with
  | nil => simp [told]
  | cons call rest ih =>
      rw [told, List.forall_mem_append]
      refine ⟨?_, ih (session.after call)⟩
      rcases call_cases session call with ⟨outcome, hcall, _, hleads⟩ | ⟨error, hcall⟩
      · rw [hcall]
        exact h hleads
      · rw [hcall]
        simp

/-- A script logs what its calls tell and what is said when the session is given up, and besides
only which attributes were dropped while its tags were made. -/
theorem filter_follow {p : Log.Entry → Bool} (hp : ∀ type, p (.typeFixed type) = false)
    (session : Session) (returned : List (Option Fragment)) (script : List Step) :
    (session.follow returned script).log.filter p =
      (session.told (session.sent returned script)).filter p ++
        (session.afterAll (session.sent returned script)).farewell.filter p := by
  induction script generalizing session returned with
  | nil => rfl
  | cons step rest ih =>
      have hnotices : step.notices.filter p = [] := by
        rw [List.filter_eq_nil_iff]
        intro entry hentry
        obtain ⟨type, rfl⟩ := step.exists_of_mem_notices hentry
        simp [hp]
      have hrest := ih (session.after (step.resolve returned))
        (returned ++ [(session.call (step.resolve returned)).fragment?])
      simp only [follow, sent, told, afterAll_cons, List.filter_append, hnotices, List.nil_append,
        List.append_assoc, ← hrest]
      rfl

theorem filter_isWarning_farewell (session : Session) :
    session.farewell.filter Log.Entry.isWarning = session.farewell := by
  unfold farewell
  split <;> rfl

/-- All warnings of a script come when the session is given up. -/
theorem filter_isWarning_follow (session : Session) (returned : List (Option Fragment))
    (script : List Step) :
    (session.follow returned script).log.filter Log.Entry.isWarning =
      (session.afterAll (session.sent returned script)).farewell := by
  have hnone : (session.told (session.sent returned script)).filter Log.Entry.isWarning = [] := by
    rw [List.filter_eq_nil_iff]
    intro entry hentry
    simp [forall_mem_told (fun h _ => h.isWarning_eq) session _ entry hentry]
  rw [filter_follow fun _ => rfl, hnone, List.nil_append, filter_isWarning_farewell]

/-! ## What is lost -/

/-- Whether something is lost if a session is given up: an element that is open, or text that was
added. -/
def IsLost (session : Session) : Prop :=
  session.isFinished = false ∧ (session.openTags ≠ [] ∨ session.document ≠ "")

namespace Recalls

variable {tags : List Tag} {history : List (Call Tag Piece)}

theorem openTags_eq (h : session.Recalls tags history) :
    session.openTags = tags.map fun tag => tag.name.toLower := by
  rw [openTags, h.stack, List.reverse_reverse]

theorem document_ne_empty_iff (h : session.Recalls tags history)
    (hfinished : session.isFinished = false) :
    session.document ≠ "" ↔
      ∃ call ∈ history, call.adds session.vocabulary session.escaper ≠ "" := by
  have hconcat : session.document = (Fragment.concat (history.map fun call =>
      ⟨call.adds session.vocabulary session.escaper⟩)).text := by
    rw [h.document hfinished, Fragment.concat, List.map_map]
    rfl
  rw [hconcat, ne_eq, Fragment.text_concat_eq_empty_iff, List.forall_mem_map]
  simp only [not_forall, exists_prop, ne_eq]

theorem isBalanced_iff_eq_nil (h : session.Recalls tags history) :
    IsBalanced history ↔ tags = [] := by
  rw [h.isBalanced_iff, h.stack, List.reverse_eq_nil_iff, List.map_eq_nil_iff]

theorem farewell_eq (h : session.Recalls tags history)
    (hfinish : .finish ∈ history ↔ session.isFinished = true) :
    session.farewell = if .finish ∈ history ∨ tags = [] then [] else
      [.abandoned (tags.map fun tag => tag.name.toLower)] := by
  have hgone : (session.isFinished || session.stack.isEmpty) = true ↔
      .finish ∈ history ∨ tags = [] := by
    rw [Bool.or_eq_true, List.isEmpty_iff, hfinish, ← h.isBalanced_iff,
      h.isBalanced_iff_eq_nil]
  rw [farewell, h.openTags_eq]
  exact if_congr hgone rfl rfl

theorem isLost_iff (h : session.Recalls tags history)
    (hfinish : .finish ∈ history ↔ session.isFinished = true) :
    session.IsLost ↔ .finish ∉ history ∧ (¬IsBalanced history ∨
      ∃ call ∈ history, call.adds session.vocabulary session.escaper ≠ "") := by
  rw [IsLost, hfinish, Bool.not_eq_true]
  refine and_congr_right fun hfinished => ?_
  rw [h.document_ne_empty_iff hfinished, h.isBalanced_iff, openTags, ne_eq,
    List.reverse_eq_nil_iff]

end Recalls

/-- A session that is given up warns of the elements that its calls have left open, and says their
names. What was added in balance and not handed out is lost as well, and of this it says nothing. -/
theorem warns_of_open_elements {table : Table} {vocabulary : Vocabulary}
    (hcompile : table.compile = .ok vocabulary) (escaper : Escaper) (script : List Step)
    {history : List (Call Tag Piece)} {session : Session} {warnings : List Log.Entry}
    (hhistory : (new vocabulary escaper).taken ((new vocabulary escaper).sent [] script) = history)
    (hsession :
      (new vocabulary escaper).afterAll ((new vocabulary escaper).sent [] script) = session)
    (hwarnings :
      ((new vocabulary escaper).runScript script).log.filter Log.Entry.isWarning = warnings) :
    (∃ tags, LeavesOpen tags history ∧
      warnings = if .finish ∈ history ∨ tags = [] then [] else
        [.abandoned (tags.map fun tag => tag.name.toLower)]) ∧
    (warnings.length = 1 ↔ .finish ∉ history ∧ ¬IsBalanced history) ∧
    (warnings.length = 0 ↔ .finish ∈ history ∨ IsBalanced history) ∧
    (session.IsLost ↔ .finish ∉ history ∧
      (¬IsBalanced history ∨ ∃ call ∈ history, call.adds vocabulary escaper ≠ "")) ∧
    (warnings.length = 0 ∧ session.IsLost ↔ .finish ∉ history ∧
      IsBalanced history ∧ ∃ call ∈ history, call.adds vocabulary escaper ≠ "") := by
  have hnamed := Vocabulary.isNamed_of_compile hcompile
  have hfinish : .finish ∈ history ↔ session.isFinished = true := by
    rw [← hhistory, ← hsession]
    exact finish_mem_taken_iff rfl _
  obtain ⟨tags, hrecalls⟩ := (recalls_new vocabulary escaper).afterAll
    fun call (_ : call ∈ (new vocabulary escaper).sent [] script) => hnamed.lowers call
  rw [List.nil_append, hhistory, hsession] at hrecalls
  have hvocabulary : session.vocabulary = vocabulary := by
    rw [← hsession, vocabulary_afterAll]
    rfl
  have hescaper : session.escaper = escaper := by
    rw [← hsession, escaper_afterAll]
    rfl
  have hfarewell : warnings = if .finish ∈ history ∨ tags = [] then [] else
      [.abandoned (tags.map fun tag => tag.name.toLower)] := by
    rw [← hrecalls.farewell_eq hfinish, ← hwarnings, runScript, filter_isWarning_follow, hsession]
  have hnone : warnings.length = 0 ↔ .finish ∈ history ∨ IsBalanced history := by
    rw [hfarewell, hrecalls.isBalanced_iff_eq_nil]
    split
    next hquiet => exact iff_of_true rfl hquiet
    next hopen => exact iff_of_false (by simp) hopen
  have hone : warnings.length = 1 ↔ .finish ∉ history ∧ ¬IsBalanced history := by
    rw [hfarewell, hrecalls.isBalanced_iff_eq_nil, ← not_or]
    split
    next hquiet => exact iff_of_false (by simp) (not_not_intro hquiet)
    next hopen => exact iff_of_true rfl hopen
  have hlost := hrecalls.isLost_iff hfinish
  rw [hvocabulary, hescaper] at hlost
  refine ⟨⟨tags, hrecalls.nesting, hfarewell⟩, hone, hnone, hlost, ?_⟩
  rw [hnone, hlost]
  tauto

def noteTable : Table := ⟨[("div", "block"), ("p", "block")], []⟩

def noteVocabulary : Vocabulary :=
  ⟨[⟨"div", some .block, false, []⟩, ⟨"p", some .block, false, []⟩]⟩

/-- A section that is never closed, with the same paragraph in it twice. -/
def noteScript : List Step :=
  [.render ⟨.named "p", [.text "x"]⟩, .start ⟨.named "DIV", []⟩, .close "p",
    .write [.earlier 0, .earlier 0], .finish]

def noteHistory : List (Call Tag Piece) :=
  [.render ((Tag.named "p").text "x"), .start (.named "DIV"),
    .write [.markup ⟨"<p>x</p>"⟩, .markup ⟨"<p>x</p>"⟩]]

theorem warns_of_open_elements_note :
    noteTable.compile = .ok noteVocabulary ∧
      (new noteVocabulary .xml).taken ((new noteVocabulary .xml).sent [] noteScript) = noteHistory ∧
      ((new noteVocabulary .xml).runScript noteScript).log.filter Log.Entry.isWarning =
        [.abandoned ["div"]] ∧
      ((new noteVocabulary .xml).afterAll
        ((new noteVocabulary .xml).sent [] noteScript)).IsLost := by
  have hcompile : noteTable.compile = .ok noteVocabulary := by decide +kernel
  have hhistory : (new noteVocabulary .xml).taken ((new noteVocabulary .xml).sent [] noteScript) =
      noteHistory := by decide +kernel
  have hnesting : LeavesOpen [Tag.named "DIV"] noteHistory :=
    .opened (.balanced (.other rfl .nil)) (.other rfl .nil)
  have hfinish : .finish ∉ noteHistory := by decide +kernel
  have hunbalanced : ¬IsBalanced noteHistory := by
    intro hbalanced
    cases (leavesOpen_nil_iff.mpr hbalanced).unique hnesting
  obtain ⟨⟨tags, htags, hwarnings⟩, _, _, hlost, _⟩ :=
    warns_of_open_elements hcompile .xml noteScript hhistory rfl rfl
  obtain rfl := hnesting.unique htags
  refine ⟨hcompile, hhistory, hwarnings.trans ?_, hlost.mpr ⟨hfinish, .inl hunbalanced⟩⟩
  decide +kernel

/-- A paragraph that is added and never handed out is lost without a warning. -/
theorem balanced_text_is_lost_silently :
    noteTable.compile = .ok noteVocabulary ∧
      ((new noteVocabulary .xml).afterAll [.element (.named "p")]).document = "<p></p>" ∧
      ((new noteVocabulary .xml).afterAll [.element (.named "p")]).isFinished = false ∧
      ((new noteVocabulary .xml).runScript [.element ⟨.named "p", []⟩]).log =
        [.added ⟨"<p></p>"⟩] ∧
      ((new noteVocabulary .xml).runScript [.element ⟨.named "p", []⟩]).log.filter
        Log.Entry.isWarning = [] := by
  decide +kernel

end Session

end CheckedMarkup
