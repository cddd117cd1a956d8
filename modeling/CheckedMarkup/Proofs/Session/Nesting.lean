import CheckedMarkup.Proofs.Session.Alike
import CheckedMarkup.Proofs.Tag.Made

/-! # Opening and closing

A document can be made by opening elements and closing them again, or by adding
whole elements. A start, its close and the calls between them come to one whole
element that holds what they added; taken apart, a whole element comes to a
start, its content and a close.
-/

namespace CheckedMarkup

/-! ## Tags with the same attributes -/

namespace Tag

/-- A fresh tag with the name and the attributes of a tag, and with finished markup inside. -/
def holding (tag : Tag) (fragment : Fragment) : Tag :=
  ⟨tag.name, tag.attributes, [.markup fragment], none, none⟩

def bare (tag : Tag) : Tag := { tag with pieces := [], bulk := none }

/-- The calls that open the element of a tag, add its content, and close it again. -/
def spread (tag : Tag) : List (Call Tag Piece) :=
  [.start tag.bare, .write tag.contents, .close tag.name]

end Tag

/-- The fresh tag of a tag that was made is made in three steps. -/
theorem Tag.IsMade.holding_eq {tag : Tag} (h : tag.IsMade) (fragment : Fragment) :
    tag.holding fragment = ((Tag.named tag.name).attrs tag.attributes).markup fragment := by
  rw [Tag.attrs_named, h.isProper.ofList_entries]
  rfl

namespace ElementDecl

variable {element : ElementDecl} {tag : Tag}

theorem check_holding {written : List Written} (h : element.check .opening tag = .ok written)
    (fragment : Fragment) : element.check .whole (tag.holding fragment) = .ok written := by
  obtain ⟨⟨_, hempty, _⟩, hrest⟩ := check_eq_ok_iff.mp h
  refine check_eq_ok_iff.mpr ⟨⟨rfl, ?_⟩, hrest⟩
  intro htrue
  rw [hempty] at htrue
  cases htrue

/-- The tag of an element that is not empty is checked in the same way in both of its forms. -/
theorem check_bare (hempty : element.isEmpty = false)
    (hconflict : tag.hasConflictingContent = false) :
    element.check .opening tag.bare = element.check .whole tag := by
  have hwhole : element.checkContent .whole tag = .ok () := by
    simp [checkContent, hconflict, hempty]
  have hopening : element.checkContent .opening tag.bare = .ok () := by
    simp [checkContent, Tag.bare, Tag.hasConflictingContent, Tag.hasContent, Tag.contents, hempty]
  rw [check, check, hwhole, hopening]
  rfl

end ElementDecl

/-! ## Flat runs -/

def Call.isNesting : Call Tag Piece → Bool
  | .start _ | .close _ => true
  | _ => false

namespace Session

variable {session : Session}

/-- Whether calls in a row open and close nothing. Calls that are refused do not count. -/
def IsFlat (session : Session) : List (Call Tag Piece) → Prop
  | [] => True
  | call :: rest =>
      (call.isNesting = true → ¬session.Accepts call) ∧ (session.after call).IsFlat rest

theorem stack_after (call : Call Tag Piece)
    (h : call.isNesting = true → ¬session.Accepts call) :
    (session.after call).stack = session.stack := by
  rcases after_cases session call with ⟨outcome, haccepts, hleads, hafter⟩ | ⟨_, hafter⟩
  · rw [hafter]
    cases hleads with
    | start | close => exact absurd haccepts (h rfl)
    | render | element | write | comment | script | finish => rfl
  · rw [hafter]

theorem IsFlat.stack {calls : List (Call Tag Piece)} (h : session.IsFlat calls) :
    (session.afterAll calls).stack = session.stack := by
  induction calls generalizing session with
  | nil => rfl
  | cons call rest ih => rw [afterAll_cons, ih h.2, stack_after call h.1]

theorem isFinished_after (call : Call Tag Piece) (hopen : session.stack ≠ []) :
    (session.after call).isFinished = session.isFinished := by
  rcases after_cases session call with ⟨outcome, _, hleads, hafter⟩ | ⟨_, hafter⟩
  · rw [hafter]
    cases hleads with
    | finish hstack => exact absurd hstack hopen
    | render | element | start | close | write | comment | script => rfl
  · rw [hafter]

theorem fragments_after (call : Call Tag Piece) (hopen : session.stack ≠ []) :
    session.fragments <+: (session.after call).fragments := by
  rcases after_cases session call with ⟨outcome, _, hleads, hafter⟩ | ⟨_, hafter⟩
  · rw [hafter]
    cases hleads with
    | finish hstack => exact absurd hstack hopen
    | render => exact List.prefix_refl _
    | element | start | close | write | comment | script => exact List.prefix_append _ _
  · exact hafter.symm ▸ List.prefix_refl session.fragments

theorem IsFlat.isFinished {calls : List (Call Tag Piece)} (h : session.IsFlat calls)
    (hopen : session.stack ≠ []) :
    (session.afterAll calls).isFinished = session.isFinished := by
  induction calls generalizing session with
  | nil => rfl
  | cons call rest ih =>
      rw [← stack_after call h.1] at hopen
      rw [afterAll_cons, ih h.2 hopen, isFinished_after]
      rwa [stack_after call h.1] at hopen

theorem IsFlat.fragments {calls : List (Call Tag Piece)} (h : session.IsFlat calls)
    (hopen : session.stack ≠ []) : session.fragments <+: (session.afterAll calls).fragments := by
  induction calls generalizing session with
  | nil => exact List.prefix_refl _
  | cons call rest ih =>
      have hnext : (session.after call).stack ≠ [] := by rwa [stack_after call h.1]
      exact (fragments_after call hopen).trans (ih h.2 hnext)

/-- What calls in a row add to the document. -/
def added (session : Session) (calls : List (Call Tag Piece)) : Fragment :=
  .concat ((session.afterAll calls).fragments.drop session.fragments.length)

theorem document_afterAll {calls : List (Call Tag Piece)}
    (h : session.fragments <+: (session.afterAll calls).fragments) :
    (session.afterAll calls).document = session.document ++ (session.added calls).text := by
  obtain ⟨more, hmore⟩ := h
  rw [document, document, added, ← hmore, List.drop_left, Fragment.concat_append]

/-! ## Brackets -/

end Session

structure Bracket where
  tag : Tag
  between : List (Call Tag Piece)
  name : String

namespace Bracket

variable {session : Session} {bracket : Bracket}

def calls (bracket : Bracket) : List (Call Tag Piece) :=
  .start bracket.tag :: (bracket.between ++ [.close bracket.name])

/-- The call that adds the whole element at once. -/
def element (session : Session) (bracket : Bracket) : Call Tag Piece :=
  .element (bracket.tag.holding ((session.after (.start bracket.tag)).added bracket.between))

/-- Whether the start and the close succeed, and no call between them opens or closes anything. -/
structure IsInnermost (session : Session) (bracket : Bracket) : Prop where
  start : session.Accepts (.start bracket.tag)
  flat : (session.after (.start bracket.tag)).IsFlat bracket.between
  close : ((session.after (.start bracket.tag)).afterAll bracket.between).Accepts
    (.close bracket.name)

theorem afterAll_calls : session.afterAll bracket.calls =
    ((session.after (.start bracket.tag)).afterAll bracket.between).after
      (.close bracket.name) := by
  rw [calls, Session.afterAll_cons, Session.afterAll_append, Session.afterAll_cons,
    Session.afterAll_nil]

/-- The whole element is added without failure, and does all that the bracket does. -/
theorem IsInnermost.alike (h : bracket.IsInnermost session) :
    session.Accepts (bracket.element session) ∧
      (session.afterAll bracket.calls).Alike (session.after (bracket.element session)) := by
  obtain ⟨hstart, hflat, hclose⟩ := h
  obtain ⟨hfinished, element, written, hfind, hcheck⟩ := Session.accepts_start_iff.mp hstart
  have hempty : element.isEmpty = false := (ElementDecl.check_eq_ok_iff.mp hcheck).1.2.1
  rw [afterAll_calls, Bracket.element]
  generalize hinner : (session.after (.start bracket.tag)).added bracket.between = inner
  have hwhole := ElementDecl.check_holding hcheck inner
  refine ⟨Session.accepts_element_iff.mpr ⟨hfinished, element, written, hfind, hwhole⟩, ?_⟩
  have hopened := Session.after_start hfinished hfind hcheck
  have hopen : (session.after (.start bracket.tag)).stack = element.name :: session.stack := by
    rw [hopened]
  have hne : (session.after (.start bracket.tag)).stack ≠ [] := by simp [hopen]
  -- the document grows by the opening tag, by what the calls between add, and by the closing tag
  have hbetween := Session.document_afterAll (hflat.fragments hne)
  rw [hinner] at hbetween
  have hstack := hflat.stack.trans hopen
  have hunfinished : ((session.after (.start bracket.tag)).afterAll bracket.between).isFinished =
      false := by
    rw [hflat.isFinished hne, hopened]
    exact hfinished
  obtain ⟨_, innermost, rest, htop, hname⟩ := Session.accepts_close_iff.mp hclose
  rw [hstack, List.cons.injEq] at htop
  obtain ⟨rfl, rfl⟩ := htop
  have hclosed := Session.after_close hunfinished hstack hname
  have hfound : session.vocabulary.find? (bracket.tag.holding inner).name = some element := hfind
  rw [hclosed, Session.after_element hfinished hfound hwhole]
  refine ⟨?_, ?_, rfl, hfinished.trans hunfinished.symm, ?_⟩
  · simp [Session.add]
  · simp [Session.add]
  · rw [Session.document_snoc, hbetween, hopened, Session.document_snoc, Session.document_add,
      Fragment.concat_singleton]
    simp [ElementDecl.markup, hempty, Tag.holding, Tag.contents, Piece.encode, Piece.leaf,
      Leaf.encode, Fragment.concat, String.append_assoc]

end Bracket

namespace Session

variable {session : Session}

/-! ## Brackets one after the other -/

/-- The runs that come from a run when innermost brackets are replaced by whole elements, one
after the other, with the calls that take their places. -/
inductive Collapses (session : Session) (calls : List (Call Tag Piece)) :
    List (Call Tag Piece) → List (Call Tag Piece) → Prop
  | refl : Collapses session calls [] calls
  | step {introduced before after : List (Call Tag Piece)} {bracket : Bracket}
      (h : Collapses session calls introduced (before ++ (bracket.calls ++ after)))
      (hinnermost : bracket.IsInnermost (session.afterAll before)) :
      Collapses session calls (bracket.element (session.afterAll before) :: introduced)
        (before ++ bracket.element (session.afterAll before) :: after)

/-- A replacement changes nothing for the calls that follow. -/
theorem alike_of_isInnermost {before : List (Call Tag Piece)} {bracket : Bracket}
    (h : bracket.IsInnermost (session.afterAll before)) (after : List (Call Tag Piece)) :
    (session.afterAll (before ++ (bracket.calls ++ after))).Alike
      (session.afterAll (before ++ bracket.element (session.afterAll before) :: after)) := by
  rw [afterAll_append, afterAll_append, afterAll_append, afterAll_cons]
  exact h.alike.2.afterAll after

theorem Collapses.alike {calls introduced last : List (Call Tag Piece)}
    (h : Collapses session calls introduced last) :
    (session.afterAll calls).Alike (session.afterAll last) := by
  induction h with
  | refl => exact .refl _
  | step _ hinnermost ih => exact ih.trans (alike_of_isInnermost hinnermost _)

/-- Whether a whole element is taken depends on the vocabulary alone, until the document is
finished. -/
theorem accepts_element_of_afterAll {first second : List (Call Tag Piece)} {tag : Tag}
    (haccepts : (session.afterAll first).Accepts (.element tag))
    (hfinished : (session.afterAll second).isFinished = false) :
    (session.afterAll second).Accepts (.element tag) := by
  obtain ⟨_, element, written, hfind, hcheck⟩ := accepts_element_iff.mp haccepts
  rw [vocabulary_afterAll] at hfind
  exact accepts_element_iff.mpr ⟨hfinished, element, written, by rwa [vocabulary_afterAll], hcheck⟩

theorem Collapses.accepts {calls introduced last : List (Call Tag Piece)}
    (h : Collapses session calls introduced last) {call : Call Tag Piece}
    (hcall : call ∈ introduced) {before : List (Call Tag Piece)}
    (hfinished : (session.afterAll before).isFinished = false) :
    (session.afterAll before).Accepts call := by
  induction h with
  | refl => cases hcall
  | step _ hinnermost ih =>
      rcases List.mem_cons.mp hcall with rfl | hcall
      · exact accepts_element_of_afterAll hinnermost.alike.1 hfinished
      · exact ih hcall

/-! ## Runs without brackets -/

/-- Calls are flat, or begin with flat calls and one that opens or closes an element. -/
theorem isFlat_or_exists_nesting (session : Session) (calls : List (Call Tag Piece)) :
    session.IsFlat calls ∨ ∃ before call after, calls = before ++ call :: after ∧
      session.IsFlat before ∧ call.isNesting = true ∧ (session.afterAll before).Accepts call := by
  induction calls generalizing session with
  | nil => exact .inl trivial
  | cons first rest ih =>
      by_cases hfirst : first.isNesting = true ∧ session.Accepts first
      · exact .inr ⟨[], first, rest, rfl, trivial, hfirst.1, hfirst.2⟩
      · have hflat : first.isNesting = true → ¬session.Accepts first :=
          fun hnesting haccepts => hfirst ⟨hnesting, haccepts⟩
        rcases ih (session.after first) with hrest | ⟨before, call, after, rfl, hbefore, hcall⟩
        · exact .inl ⟨hflat, hrest⟩
        · exact .inr ⟨first :: before, call, after, rfl, ⟨hflat, hbefore⟩, hcall⟩

/-- An element that is opened and does not stay open has an innermost bracket inside, or is one. -/
theorem exists_isInnermost_of_start {session : Session} {tag : Tag}
    {calls : List (Call Tag Piece)} (hstart : session.Accepts (.start tag))
    (hclosed : (session.afterAll (.start tag :: calls)).stack = []) :
    ∃ before bracket after, Call.start tag :: calls = before ++ (Bracket.calls bracket ++ after) ∧
      bracket.IsInnermost (session.afterAll before) := by
  rw [afterAll_cons] at hclosed
  rcases isFlat_or_exists_nesting (session.after (.start tag)) calls with
    hflat | ⟨between, call, after, rfl, hflat, hnesting, haccepts⟩
  · obtain ⟨hfinished, element, written, hfind, hcheck⟩ := accepts_start_iff.mp hstart
    rw [hflat.stack, after_start hfinished hfind hcheck] at hclosed
    cases hclosed
  · cases call with
    | close name =>
        refine ⟨[], ⟨tag, between, name⟩, after, ?_, hstart, hflat, haccepts⟩
        simp [Bracket.calls]
    | start inner =>
        rw [afterAll_append] at hclosed
        obtain ⟨before, bracket, rest, heq, hinnermost⟩ :=
          exists_isInnermost_of_start haccepts hclosed
        refine ⟨.start tag :: between ++ before, bracket, rest, ?_, ?_⟩
        · rw [heq]
          simp
        · rw [afterAll_append]
          exact hinnermost
    | render | element | write | comment | script | finish => cases hnesting
termination_by calls.length

/-- All brackets of a run that leaves nothing open can be replaced. -/
theorem Collapses.exists_isFlat {calls introduced last : List (Call Tag Piece)}
    (h : Collapses session calls introduced last) (hopen : session.stack = [])
    (hclosed : (session.afterAll calls).stack = []) :
    ∃ introduced flat, Collapses session calls introduced flat ∧ session.IsFlat flat := by
  rcases isFlat_or_exists_nesting session last with
    hflat | ⟨before, call, after, hsplit, hflat, hnesting, haccepts⟩
  · exact ⟨introduced, last, h, hflat⟩
  · cases call with
    | start tag =>
        have hlast := h.alike.stack.trans hclosed
        rw [hsplit, afterAll_append] at hlast
        obtain ⟨more, bracket, rest, heq, hinnermost⟩ :=
          exists_isInnermost_of_start haccepts hlast
        rw [heq, ← List.append_assoc] at hsplit
        have hshorter : (before ++ more).length + (rest.length + 1) < last.length := by
          simp only [hsplit, Bracket.calls, List.length_append, List.length_cons, List.length_nil]
          omega
        rw [hsplit] at h
        rw [← afterAll_append] at hinnermost
        exact (h.step hinnermost).exists_isFlat hopen hclosed
    | close name =>
        obtain ⟨_, innermost, rest, hstack, _⟩ := accepts_close_iff.mp haccepts
        rw [hflat.stack, hopen] at hstack
        cases hstack
    | render | element | write | comment | script | finish => cases hnesting
termination_by last.length
decreasing_by
  rw [List.length_append, List.length_cons]
  exact hshorter

/-! ## Whole elements taken apart -/

section

variable {tag : Tag} {element : ElementDecl} {error : CallError}

theorem make_eq_error_iff {form : Form}
    (hfind : session.vocabulary.find? tag.name = some element) :
    session.make form tag = .error error ↔ element.check form tag = .error error := by
  rw [make, Vocabulary.template, Vocabulary.element_eq_ok_iff.mpr hfind, Fallible.bind_ok]
  cases element.check form tag <;> simp

theorem answer_eq_error_iff {form : Form} {call : Call Tag Piece} (hcall : call ∈ form.calls tag)
    (hfind : session.vocabulary.find? tag.name = some element) :
    session.answer call = .error error ↔
      session.isFinished = true ∧ .finished = error ∨
        session.isFinished = false ∧ element.check form tag = .error error := by
  cases hfinished : session.isFinished with
  | true =>
      rw [answer, call_of_isFinished hfinished]
      simp
  | false =>
      rw [← Fallible.fault?_eq_some_iff, fault?_answer_eq_fault?_make hfinished hcall,
        Fallible.fault?_eq_some_iff, make_eq_error_iff hfind]
      simp

theorem accepts_element_iff_start_bare
    (hfind : session.vocabulary.find? tag.name = some element) (hempty : element.isEmpty = false)
    (hconflict : tag.hasConflictingContent = false) :
    session.Accepts (.element tag) ↔ session.Accepts (.start tag.bare) := by
  have hfound : session.vocabulary.find? tag.bare.name = some element := hfind
  have hsame := ElementDecl.check_bare hempty hconflict
  rw [accepts_element_iff, accepts_start_iff, hfind, hfound]
  simp only [Option.some.injEq]
  constructor
  · intro hwhole
    obtain ⟨hfinished, _, written, rfl, hcheck⟩ := hwhole
    exact ⟨hfinished, element, written, rfl, hsame.trans hcheck⟩
  · intro hopening
    obtain ⟨hfinished, _, written, rfl, hcheck⟩ := hopening
    exact ⟨hfinished, element, written, rfl, hsame.symm.trans hcheck⟩

theorem answer_element_eq_error_iff_start_bare
    (hfind : session.vocabulary.find? tag.name = some element) (hempty : element.isEmpty = false)
    (hconflict : tag.hasConflictingContent = false) :
    session.answer (.element tag) = .error error ↔
      session.answer (.start tag.bare) = .error error := by
  have hwhole : .element tag ∈ Form.whole.calls tag := by simp [Form.calls]
  have hopening : .start tag.bare ∈ Form.opening.calls tag.bare := by simp [Form.calls]
  have hfound : session.vocabulary.find? tag.bare.name = some element := hfind
  rw [answer_eq_error_iff hwhole hfind, answer_eq_error_iff hopening hfound,
    ElementDecl.check_bare hempty hconflict]

theorem afterAll_spread (hfinished : session.isFinished = false)
    (hfind : session.vocabulary.find? tag.name = some element) {written : List Written}
    (hcheck : element.check .opening tag.bare = .ok written) :
    (session.after (.start tag.bare)).Accepts (.write tag.contents) ∧
      ((session.after (.start tag.bare)).after (.write tag.contents)).Accepts (.close tag.name) ∧
      session.afterAll tag.spread = session.add
        (⟨element.openingTag (written.map (Written.pair session.escaper))⟩ ::
          tag.contents.map (Piece.encode session.escaper) ++
          [⟨ElementDecl.closingTag element.name⟩]) := by
  have hfound : session.vocabulary.find? tag.bare.name = some element := hfind
  have hname := Vocabulary.sameUpToCase_of_find? hfind
  have hopened := after_start hfinished hfound hcheck
  have hunfinished : (session.after (.start tag.bare)).isFinished = false := by
    rw [hopened]
    exact hfinished
  have hfilled := after_write hunfinished tag.contents
  have hstack : ((session.after (.start tag.bare)).after (.write tag.contents)).stack =
      element.name :: session.stack := by
    rw [hfilled, hopened]
    rfl
  have hstill : ((session.after (.start tag.bare)).after (.write tag.contents)).isFinished =
      false := by
    rw [hfilled]
    exact hunfinished
  refine ⟨accepts_iff.mpr ⟨hunfinished, _, .write _⟩,
    accepts_close_iff.mpr ⟨hstill, _, _, hstack, hname⟩, ?_⟩
  rw [Tag.spread, afterAll_cons, afterAll_cons, afterAll_cons, afterAll_nil,
    after_close hstill hstack hname, hfilled, hopened]
  simp [add]

theorem alike_spread (hfind : session.vocabulary.find? tag.name = some element)
    (hempty : element.isEmpty = false) (hconflict : tag.hasConflictingContent = false)
    (haccepts : session.Accepts (.element tag)) :
    (session.after (.start tag.bare)).Accepts (.write tag.contents) ∧
      ((session.after (.start tag.bare)).after (.write tag.contents)).Accepts (.close tag.name) ∧
      (session.after (.element tag)).Alike (session.afterAll tag.spread) ∧
      session.added tag.spread = session.added [.element tag] := by
  obtain ⟨hfinished, other, written, hother, hcheck⟩ := accepts_element_iff.mp haccepts
  rw [hfind, Option.some.injEq] at hother
  subst hother
  have hadded := after_element hfinished hfind hcheck
  rw [← ElementDecl.check_bare hempty hconflict] at hcheck
  obtain ⟨hwrite, hclose, hspread⟩ := afterAll_spread hfinished hfind hcheck
  have htext : ∀ (attributes : List (String × String)) (content : List Fragment),
      (Fragment.concat (⟨element.openingTag attributes⟩ :: content ++
        [⟨ElementDecl.closingTag element.name⟩])).text =
        element.markup .whole attributes (Fragment.concat content).text := by
    intro attributes content
    rw [List.cons_append, Fragment.concat_cons, Fragment.concat_append, Fragment.concat_singleton]
    simp [ElementDecl.markup, hempty, String.append_assoc]
  refine ⟨hwrite, hclose, ?_, ?_⟩
  · rw [hspread, hadded]
    refine ⟨rfl, rfl, rfl, rfl, ?_⟩
    rw [document_add, document_add, htext, Fragment.concat_singleton]
  · apply Fragment.eq_of_text_eq
    rw [added, added, afterAll_cons, afterAll_nil, hspread, hadded]
    simp only [add, List.drop_left]
    rw [htext, Fragment.concat_singleton]

end

/-- A document does not change when brackets are replaced by whole elements, and a whole element
is taken, refused and written as the calls are that spread it out. -/
theorem brackets_agree_with_elements :
    (∀ (vocabulary : Vocabulary) (escaper : Escaper) (calls : List (Call Tag Piece))
        (document : String),
      ((new vocabulary escaper).afterAll calls).answer .finish = .ok (.document document) →
      (∃ introduced flat, (new vocabulary escaper).Collapses calls introduced flat ∧
        (new vocabulary escaper).IsFlat flat) ∧
      ∀ introduced last, (new vocabulary escaper).Collapses calls introduced last →
        ((new vocabulary escaper).afterAll last).answer .finish = .ok (.document document) ∧
          ∀ call ∈ introduced, ∀ before after, last = before ++ call :: after →
            ((new vocabulary escaper).afterAll before).Accepts call) ∧
    ∀ (session : Session) (tag : Tag) (element : ElementDecl),
      session.vocabulary.find? tag.name = some element → element.isEmpty = false →
      tag.hasConflictingContent = false →
      (session.Accepts (.element tag) ↔ session.Accepts (.start tag.bare)) ∧
        (∀ error, session.answer (.element tag) = .error error ↔
          session.answer (.start tag.bare) = .error error) ∧
        (session.Accepts (.element tag) →
          (session.after (.start tag.bare)).Accepts (.write tag.contents) ∧
            ((session.after (.start tag.bare)).after (.write tag.contents)).Accepts
              (.close tag.name) ∧
            (session.after (.element tag)).Alike (session.afterAll tag.spread) ∧
            session.added tag.spread = session.added [.element tag]) := by
  refine ⟨?_, ?_⟩
  · intro vocabulary escaper calls document hfinish
    obtain ⟨hunfinished, _, hleads, _⟩ := answer_eq_ok_iff.mp hfinish
    cases hleads with
    | finish hclosed =>
        refine ⟨Collapses.refl.exists_isFlat rfl hclosed, ?_⟩
        intro introduced last hcollapses
        refine ⟨hcollapses.alike.answer hfinish, ?_⟩
        rintro call hcall before after rfl
        apply hcollapses.accepts hcall
        exact isFinished_of_append (hcollapses.alike.isFinished.trans hunfinished)
  · intro session tag element hfind hempty hconflict
    exact ⟨accepts_element_iff_start_bare hfind hempty hconflict,
      fun error => answer_element_eq_error_iff_start_bare hfind hempty hconflict,
      alike_spread hfind hempty hconflict⟩

def proseVocabulary : Vocabulary := ⟨[⟨"b", none, false, []⟩, ⟨"p", none, false, []⟩]⟩

/-- A paragraph with bold text inside, and with a call that is refused. -/
def proseCalls : List (Call Tag Piece) :=
  [.start (.named "p"), .write [.text "x"], .start (.named "B"), .close "p", .write [.text "<"],
    .close "b", .close "p"]

theorem brackets_agree_with_elements_prose :
    ((new proseVocabulary .xml).afterAll proseCalls).answer .finish =
        .ok (.document "<p>x<b>&lt;</b></p>") ∧
      (∃ introduced flat, (new proseVocabulary .xml).Collapses proseCalls introduced flat ∧
        (new proseVocabulary .xml).IsFlat flat ∧
        ((new proseVocabulary .xml).afterAll flat).answer .finish =
          .ok (.document "<p>x<b>&lt;</b></p>")) ∧
      ((new proseVocabulary .xml).Accepts (.element ((Tag.named "p").text "x")) ↔
        (new proseVocabulary .xml).Accepts (.start ((Tag.named "p").text "x").bare)) := by
  have hfinish : ((new proseVocabulary .xml).afterAll proseCalls).answer .finish =
      .ok (.document "<p>x<b>&lt;</b></p>") := by decide +kernel
  obtain ⟨hcollapses, hspread⟩ := brackets_agree_with_elements
  obtain ⟨⟨introduced, flat, hcollapse, hflat⟩, hall⟩ := hcollapses _ _ _ _ hfinish
  refine ⟨hfinish, ⟨introduced, flat, hcollapse, hflat, (hall _ _ hcollapse).1⟩, ?_⟩
  exact (hspread (new proseVocabulary .xml) ((Tag.named "p").text "x") ⟨"p", none, false, []⟩
    (by decide +kernel) rfl rfl).1

end Session

end CheckedMarkup
