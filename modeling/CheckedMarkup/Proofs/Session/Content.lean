import CheckedMarkup.Proofs.Session.Breaches
import CheckedMarkup.Proofs.Session.Run
import CheckedMarkup.Vocabulary.Table

/-! # What becomes of content

All content that a tag was given is written, piece by piece, if the tag has room for it.
An opening tag and an empty element have none, and take only pieces that are empty.
Whether a piece is empty is decided before the escaper sees it. An escaper that writes
something for the empty text would have it written in these tags as well, and there it
is not.
-/

namespace CheckedMarkup

/-! ## Pieces -/

def Piece.isText : Piece → Bool
  | text _ => true
  | markup _ => false

/-- An empty piece comes to nothing, unless it is a text and the escaper makes something of it. -/
theorem Piece.text_encode_eq_empty_iff {piece : Piece} (h : piece.isEmpty = true)
    (escaper : Escaper) :
    (piece.encode escaper).text = "" ↔ escaper.text "" = "" ∨ piece.isText = false := by
  cases piece with
  | text raw =>
      have hraw : raw = "" := by simpa [isEmpty] using h
      simp [encode, leaf, Leaf.encode, isText, hraw]
  | markup fragment =>
      have hfragment : fragment.text = "" := by simpa [isEmpty, Fragment.isEmpty] using h
      simp [encode, leaf, Leaf.encode, isText, hfragment]

/-! ## Tags -/

namespace Tag

/-- All content that a tag was given, in either way. -/
def given (tag : Tag) : List Piece := tag.pieces ++ tag.bulk.getD []

/-- What the content of a tag comes to. -/
def body (escaper : Escaper) (tag : Tag) : String :=
  (Fragment.concat (tag.given.map (Piece.encode escaper))).text

variable {tag : Tag}

theorem contents_eq_given (h : tag.hasConflictingContent = false) : tag.contents = tag.given := by
  cases hbulk : tag.bulk with
  | none => simp [contents, given, hbulk]
  | some pieces =>
      have hnone : tag.pieces = [] := by simpa [hasConflictingContent, hbulk] using h
      simp [contents, given, hbulk, hnone]

theorem body_eq_empty_iff (h : ∀ piece ∈ tag.given, piece.isEmpty = true) (escaper : Escaper) :
    tag.body escaper = "" ↔
      escaper.text "" = "" ∨ ∀ piece ∈ tag.given, piece.isText = false := by
  have hpieces : tag.body escaper = "" ↔
      ∀ piece ∈ tag.given, escaper.text "" = "" ∨ piece.isText = false := by
    rw [body, Fragment.text_concat_eq_empty_iff, List.forall_mem_map]
    exact forall₂_congr fun piece hpiece => Piece.text_encode_eq_empty_iff (h piece hpiece) escaper
  rw [hpieces]
  by_cases hescaper : escaper.text "" = "" <;> simp [hescaper]

end Tag

/-- A tag without room for content only passes if it was given none. -/
theorem ElementDecl.isEmpty_of_fits {element : ElementDecl} {form : Form} {tag : Tag}
    (hfits : element.Fits form tag) (hroom : form = .opening ∨ element.isEmpty = true) :
    ∀ piece ∈ tag.given, piece.isEmpty = true := by
  obtain ⟨hconflict, hform⟩ := hfits
  have hcontent : tag.hasContent = false := by
    cases form with
    | opening => exact hform.2
    | whole => exact hform (hroom.resolve_left (by simp))
  rw [← Tag.contents_eq_given hconflict]
  simpa [Tag.hasContent] using hcontent

/-! ## Calls -/

namespace Session

variable {session : Session} {form : Form} {tag : Tag} {call : Call Tag Piece} {reply : Reply}

/-- A call that uses a tag hands out or adds to the document what the tag becomes. -/
theorem exists_make_of_answer (hcall : call ∈ form.calls tag)
    (h : session.answer call = .ok reply) :
    ∃ fragment, session.make form tag = .ok fragment ∧
      (form = .whole → reply = .fragment fragment) ∧
      (call ≠ .render tag →
        (session.after call).document = session.document ++ fragment.text) := by
  obtain ⟨hfinished, outcome, hleads, hreply⟩ := answer_eq_ok_iff.mp h
  rw [after_of_leads hfinished hleads]
  cases form with
  | opening =>
      obtain rfl := List.mem_singleton.mp hcall
      cases hleads with
      | start _ hmake => exact ⟨_, hmake, by simp, fun _ => document_snoc session _ _⟩
  | whole =>
      rcases List.mem_cons.mp hcall with rfl | hcall
      · cases hleads with
        | render hmake =>
            cases hreply
            exact ⟨_, hmake, fun _ => rfl, fun hne => absurd rfl hne⟩
      · obtain rfl := List.mem_singleton.mp hcall
        cases hleads with
        | element hmake =>
            cases hreply
            refine ⟨_, hmake, fun _ => rfl, fun _ => ?_⟩
            rw [document_add, Fragment.concat_singleton]

/-- A call that succeeds writes all content of its tag. Where the tag has no room for any, all
pieces are empty, and they come to nothing just if the escaper makes nothing of the empty text, or
is not given one. -/
theorem content_is_written (hcall : call ∈ form.calls tag) (h : session.answer call = .ok reply) :
    ∃ element markup, session.vocabulary.find? tag.name = some element ∧
      markup = element.markup form
        ((element.written tag.attributes.entries).map (Written.pair session.escaper))
        (tag.body session.escaper) ∧
      (form = .whole → reply = .fragment ⟨markup⟩) ∧
      (call ≠ .render tag → (session.after call).document = session.document ++ markup) ∧
      ((form = .opening ∨ element.isEmpty = true) →
        (∀ piece ∈ tag.given, piece.isEmpty = true) ∧
        (tag.body session.escaper = "" ↔
          session.escaper.text "" = "" ∨ ∀ piece ∈ tag.given, piece.isText = false)) := by
  obtain ⟨fragment, hmake, hreply, hdocument⟩ := exists_make_of_answer hcall h
  obtain ⟨element, written, hfind, hcheck, rfl⟩ := make_eq_ok_iff.mp hmake
  obtain ⟨hfits, _, _, rfl⟩ := ElementDecl.check_eq_ok_iff.mp hcheck
  have hbody : (Fragment.concat (tag.contents.map (Piece.encode session.escaper))).text =
      tag.body session.escaper := by
    rw [Tag.contents_eq_given hfits.1, Tag.body]
  rw [hbody] at hreply hdocument
  refine ⟨element, _, hfind, rfl, hreply, hdocument, ?_⟩
  intro hroom
  have hempty := ElementDecl.isEmpty_of_fits hfits hroom
  exact ⟨hempty, Tag.body_eq_empty_iff hempty session.escaper⟩

/-- An escaper that shows where a text was written, the empty text too. -/
def bracketing : Escaper := ⟨fun raw => "[" ++ raw ++ "]", fun raw => raw⟩

def lineTable : Table := ⟨[("br", "empty only"), ("p", "block")], []⟩

def lineVocabulary : Vocabulary :=
  ⟨[⟨"br", none, true, []⟩, ⟨"p", some .block, false, []⟩]⟩

def lineSession : Session := new lineVocabulary bracketing

/-- A tag with an empty piece of each kind. -/
def blank (name : String) : Tag := ((Tag.named name).text "").markup .empty

theorem content_is_written_line :
    .element (blank "br") ∈ Form.whole.calls (blank "br") ∧
      lineSession.Accepts (.element (blank "br")) ∧
      (lineSession.after (.element (blank "br"))).document = "<br />" ∧
      (∀ piece ∈ (blank "br").given, piece.isEmpty = true) ∧
      ((blank "br").body bracketing = "" ↔
        bracketing.text "" = "" ∨ ∀ piece ∈ (blank "br").given, piece.isText = false) := by
  have hcall : .element (blank "br") ∈ Form.whole.calls (blank "br") := by decide
  have hfound : lineVocabulary.find? "br" = some ⟨"br", none, true, []⟩ := by decide +kernel
  have hcheck : ElementDecl.check ⟨"br", none, true, []⟩ .whole (blank "br") = .ok [] := by
    decide +kernel
  have haccepts : lineSession.Accepts (.element (blank "br")) :=
    accepts_element_iff.mpr ⟨rfl, _, _, hfound, hcheck⟩
  obtain ⟨reply, hanswer⟩ := haccepts
  obtain ⟨element, markup, hfind, hmarkup, _, hdocument, hroom⟩ :=
    content_is_written hcall hanswer
  obtain rfl : _ = element := Option.some.inj (hfound.symm.trans hfind)
  refine ⟨hcall, ⟨reply, hanswer⟩, ?_, hroom (.inr rfl)⟩
  rw [hdocument (by simp), hmarkup]
  decide +kernel

/-- An empty text is dropped from an empty element and from an opening tag, though the escaper makes
something of it in every other place. -/
theorem empty_text_is_dropped :
    lineTable.compile = .ok lineVocabulary ∧
      (blank "br").body bracketing = "[]" ∧
      lineSession.answer (.element (blank "br")) = .ok (.fragment ⟨"<br />"⟩) ∧
      (blank "p").body bracketing = "[]" ∧
      lineSession.answer (.start (blank "p")) = .ok .nothing ∧
      (lineSession.after (.start (blank "p"))).document = "<p>" ∧
      (lineSession.after (.write (blank "p").given)).document = "[]" := by
  decide +kernel

end Session

end CheckedMarkup
