import CheckedMarkup.Proofs.Markup.Forest
import CheckedMarkup.Proofs.Session.Run
import CheckedMarkup.Session.Script

/-! # Documents are forests

Calls that bring in no markup of their own, other than fragments that the session
has returned before, make a forest. Each call keeps the document a forest up to
the open elements, and what it returns is a forest again.
-/

namespace CheckedMarkup

/-! ## Calls without markup of their own -/

/-- Whether a piece is plain text or one of some fragments. -/
def Piece.DrawsOn (fragments : List Fragment) : Piece → Prop
  | .text _ => True
  | .markup fragment => fragment ∈ fragments

instance (fragments : List Fragment) (piece : Piece) : Decidable (piece.DrawsOn fragments) :=
  match piece with
  | .text _ => .isTrue trivial
  | .markup fragment => inferInstanceAs (Decidable (fragment ∈ fragments))

/-- Whether a tag is made with plain values and draws its content on some fragments. -/
structure Tag.DrawsOn (fragments : List Fragment) (tag : Tag) : Prop where
  plain : tag.IsPlain
  contents : ∀ piece ∈ tag.contents, piece.DrawsOn fragments

/-- Whether a call brings in nothing but plain text and some fragments. Comments and blocks of
script are markup of their own. -/
def Call.DrawsOn (fragments : List Fragment) : Call Tag Piece → Prop
  | .render tag | .element tag | .start tag => tag.DrawsOn fragments
  | .write pieces => ∀ piece ∈ pieces, piece.DrawsOn fragments
  | .close _ | .finish => True
  | .comment _ | .script _ => False

def Session.returns (session : Session) (call : Call Tag Piece) : List Fragment :=
  (session.call call).fragment?.toList

/-- Whether calls in a row draw on nothing but some known fragments and the fragments that the
calls before them returned. -/
def Session.DrawsOn (session : Session) (known : List Fragment) : List (Call Tag Piece) → Prop
  | [] => True
  | call :: rest =>
      call.DrawsOn known ∧ (session.after call).DrawsOn (known ++ session.returns call) rest

/-! ## Escaped text -/

theorem isCharacterData_xml_text (raw : String) : IsCharacterData (Escaper.xml.text raw) := by
  constructor
  · intro hmem
    exact (Escaper.ne_of_mem_xml_text hmem).1 rfl
  · intro hmem
    exact (Escaper.ne_of_mem_xml_text hmem).2 rfl
  · rw [Escaper.toList_xml_text]
    exact entitiesOnly_flatMap isSpelling_escapeTextChar _

theorem isQuotable_xml_value (raw : String) : IsQuotable (Escaper.xml.value raw) := by
  constructor
  · intro hmem
    exact (Escaper.ne_of_mem_xml_value hmem).1 rfl
  · intro hmem
    exact (Escaper.ne_of_mem_xml_value hmem).2.1 rfl
  · intro hmem
    exact (Escaper.ne_of_mem_xml_value hmem).2.2 rfl
  · rw [Escaper.toList_xml_value]
    exact entitiesOnly_flatMap isSpelling_escapeValueChar _

/-! ## Tags that pass -/

theorem AttributeDecl.isValue_of_written? {decl : AttributeDecl} (hname : IsLowerName decl.name)
    {value : AttributeValue} (hplain : value.isPlain = true) (hadmits : decl.Admits value)
    {written : Written} (hwritten : decl.written? value = some written) :
    decl.IsValue (written.pair .xml).2 := by
  cases value with
  | flag on =>
      cases on with
      | false => cases hwritten
      | true =>
          cases hwritten
          refine ⟨isQuotable_xml_value _, fun _ => Escaper.xml_value_of_isLowerName hname, ?_⟩
          intro options hoptions
          rw [Admits, hoptions] at hadmits
          cases hadmits
  | markup fragment => cases hplain
  | text raw =>
      cases hwritten
      refine ⟨isQuotable_xml_value _, ?_, ?_⟩
      · intro hswitch
        simp only [Written.pair, normal, hswitch]
        exact Escaper.xml_value_of_isLowerName hname
      · intro options hoptions
        have hmem : Text.lowercase raw ∈ options := by
          simpa only [Admits, Takes, hoptions] using hadmits
        exact ⟨_, hmem, by simp only [Written.pair, normal, hoptions]⟩

namespace ElementDecl

theorem permits_of_check {element : ElementDecl} (hnamed : element.IsNamed)
    {fragments : List Fragment} {tag : Tag} (htag : tag.DrawsOn fragments) {form : Form}
    {written : List Written} (hcheck : element.check form tag = .ok written) :
    element.Permits (written.map (Written.pair .xml)) := by
  obtain ⟨_, hadmits, hcomplete, rfl⟩ := check_eq_ok_iff.mp hcheck
  have hnames : ∀ list : List Written,
      (list.map (Written.pair .xml)).map Prod.fst = list.map Written.name := fun list => by
    rw [List.map_map]
    rfl
  refine ⟨?_, ?_, ?_⟩
  · rw [hnames]
    exact htag.plain.made.isProper.distinct.sublist (map_name_written_sublist element _)
  · intro given hgiven
    obtain ⟨written, hwritten, rfl⟩ := List.mem_map.mp hgiven
    obtain ⟨entry, hentry, hvalue⟩ := List.mem_filterMap.mp hwritten
    obtain ⟨decl, hdecl, hvalue⟩ := Option.bind_eq_some_iff.mp hvalue
    obtain ⟨other, hother, hadmitted⟩ := hadmits entry hentry
    rw [hdecl, Option.some.injEq] at hother
    subst hother
    refine ⟨decl, ?_, AttributeDecl.isValue_of_written? (hnamed.attributes decl
      (mem_of_attribute? hdecl)) (htag.plain.values entry hentry) hadmitted hvalue⟩
    have hname : (written.pair .xml).1 = entry.1 := by
      rw [Written.pair, AttributeDecl.name_of_written? hvalue, name_of_attribute? hdecl]
    rw [hname, hdecl]
  · intro decl hdecl
    rw [hnames]
    exact hcomplete decl hdecl

end ElementDecl

/-! ## Fragments that are made -/

variable {vocabulary : Vocabulary} {known : List Fragment}

theorem Piece.isForest_encode (hknown : ∀ fragment ∈ known, IsForest vocabulary fragment.text)
    {piece : Piece} (hpiece : piece.DrawsOn known) :
    IsForest vocabulary (piece.encode .xml).text := by
  cases piece with
  | text raw => exact .of_isCharacterData (isCharacterData_xml_text raw)
  | markup fragment => exact hknown fragment hpiece

theorem isForest_concat_encode (hknown : ∀ fragment ∈ known, IsForest vocabulary fragment.text)
    {pieces : List Piece} (hpieces : ∀ piece ∈ pieces, piece.DrawsOn known) :
    IsForest vocabulary (Fragment.concat (pieces.map (Piece.encode .xml))).text := by
  apply IsForest.concat
  intro fragment hfragment
  obtain ⟨piece, hpiece, rfl⟩ := List.mem_map.mp hfragment
  exact piece.isForest_encode hknown (hpieces piece hpiece)

namespace Session

/-- A document that is a forest up to the open elements, and known fragments that are forests. -/
structure IsSound (vocabulary : Vocabulary) (known : List Fragment) (session : Session) :
    Prop where
  ofVocabulary : session.vocabulary = vocabulary
  escaping : session.escaper = .xml
  document : IsOpenForest vocabulary session.stack session.document
  forests : ∀ fragment ∈ known, IsForest vocabulary fragment.text

variable {session : Session}

theorem IsSound.isForest_make (h : session.IsSound vocabulary known) (hnamed : vocabulary.IsNamed)
    {tag : Tag} (htag : tag.DrawsOn known) {fragment : Fragment}
    (hmake : session.make .whole tag = .ok fragment) : IsForest vocabulary fragment.text := by
  obtain ⟨element, written, hfind, hcheck, rfl⟩ := make_eq_ok_iff.mp hmake
  rw [h.ofVocabulary] at hfind
  rw [h.escaping]
  have helement := hnamed element (Vocabulary.mem_of_find? hfind)
  have hpermits := ElementDecl.permits_of_check helement htag hcheck
  have hfound := Vocabulary.find?_name_of_find? hfind
  have hcontent := isForest_concat_encode h.forests htag.contents
  simp only [ElementDecl.markup]
  split
  next hempty => simpa using IsForest.single hfound hempty hpermits .nil
  next hempty =>
    simpa using IsForest.nested hfound (Bool.eq_false_iff.mpr hempty) hpermits hcontent .nil

theorem IsSound.start (h : session.IsSound vocabulary known) (hnamed : vocabulary.IsNamed)
    {tag : Tag} (htag : tag.DrawsOn known) {element : ElementDecl}
    (hfind : session.vocabulary.find? tag.name = some element) {fragment : Fragment}
    (hmake : session.make .opening tag = .ok fragment) :
    IsOpenForest vocabulary (element.name :: session.stack)
      (session.document ++ fragment.text) := by
  obtain ⟨other, written, hother, hcheck, rfl⟩ := make_eq_ok_iff.mp hmake
  rw [hfind, Option.some.injEq] at hother
  subst hother
  rw [h.ofVocabulary] at hfind
  have helement := hnamed element (Vocabulary.mem_of_find? hfind)
  have hpermits := ElementDecl.permits_of_check helement htag hcheck
  have hempty : element.isEmpty = false := (ElementDecl.check_eq_ok_iff.mp hcheck).1.2.1
  rw [h.escaping]
  simpa [ElementDecl.markup] using IsOpenForest.opened h.document
    (Vocabulary.find?_name_of_find? hfind) hempty hpermits .nil

/-- What one call leads to is sound again, and so is what it returns. -/
theorem IsSound.leads (h : session.IsSound vocabulary known) (hnamed : vocabulary.IsNamed)
    {call : Call Tag Piece} (hcall : call.DrawsOn known) {outcome : Outcome}
    (hleads : Leads session call outcome) :
    outcome.session.IsSound vocabulary (known ++ outcome.fragment?.toList) := by
  have hadd : ∀ {fragments : List Fragment}, IsForest vocabulary (Fragment.concat fragments).text →
      IsOpenForest vocabulary session.stack (session.add fragments).document := fun hmore => by
    rw [document_add]
    exact h.document.append hmore
  cases hleads with
  | @render _ fragment hmake =>
      refine ⟨h.ofVocabulary, h.escaping, h.document, ?_⟩
      simp only [Outcome.fragment?_ok, Reply.fragment?, Option.toList_some,
        List.forall_mem_append, List.forall_mem_singleton]
      exact ⟨h.forests, h.isForest_make hnamed hcall hmake⟩
  | @element _ fragment hmake =>
      have hforest := h.isForest_make hnamed hcall hmake
      refine ⟨h.ofVocabulary, h.escaping, hadd (by rwa [Fragment.concat_singleton]), ?_⟩
      simp only [Outcome.fragment?_ok, Reply.fragment?, Option.toList_some,
        List.forall_mem_append, List.forall_mem_singleton]
      exact ⟨h.forests, hforest⟩
  | @start _ element fragment hfind hmake =>
      refine ⟨h.ofVocabulary, h.escaping, ?_, by simpa [Reply.fragment?] using h.forests⟩
      have hopen := h.start hnamed hcall hfind hmake
      rw [← document_snoc session fragment (element.name :: session.stack)] at hopen
      exact hopen
  | @close _ innermost rest hstack hname =>
      refine ⟨h.ofVocabulary, h.escaping, ?_, by simpa [Reply.fragment?] using h.forests⟩
      have hopen := h.document
      rw [hstack] at hopen
      have hclosed := hopen.close
      rw [← document_snoc session ⟨ElementDecl.closingTag innermost⟩ rest] at hclosed
      exact hclosed
  | write pieces =>
      refine ⟨h.ofVocabulary, h.escaping, hadd ?_, by simpa [Reply.fragment?] using h.forests⟩
      rw [h.escaping]
      exact isForest_concat_encode h.forests hcall
  | comment lines => exact hcall.elim
  | script lines => exact hcall.elim
  | finish hstack =>
      refine ⟨h.ofVocabulary, h.escaping, ?_, by simpa [Reply.fragment?] using h.forests⟩
      change IsOpenForest vocabulary session.stack ""
      rw [hstack]
      exact .closed .nil

theorem IsSound.after (h : session.IsSound vocabulary known) (hnamed : vocabulary.IsNamed)
    {call : Call Tag Piece} (hcall : call.DrawsOn known) :
    (session.after call).IsSound vocabulary (known ++ session.returns call) := by
  unfold Session.after returns
  rcases call_cases session call with ⟨outcome, houtcome, _, hleads⟩ | ⟨error, hrefused⟩
  · rw [houtcome]
    exact h.leads hnamed hcall hleads
  · rw [hrefused]
    simpa using h

theorem IsSound.afterAll (h : session.IsSound vocabulary known) (hnamed : vocabulary.IsNamed)
    {calls : List (Call Tag Piece)} (hcalls : session.DrawsOn known calls) :
    ∃ more, (session.afterAll calls).IsSound vocabulary more := by
  induction calls generalizing session known with
  | nil => exact ⟨known, h⟩
  | cons call rest ih => exact ih (h.after hnamed hcalls.1) hcalls.2

theorem isSound_new : (Session.new vocabulary .xml).IsSound vocabulary [] :=
  ⟨rfl, rfl, .closed .nil, by simp⟩

/-- Every document that is handed out is a forest over the vocabulary, whatever calls were taken
or refused before. -/
theorem isForest_of_finish {table : Table} {vocabulary : Vocabulary}
    (hcompile : table.compile = .ok vocabulary) {calls : List (Call Tag Piece)}
    (hcalls : (Session.new vocabulary .xml).DrawsOn [] calls) {document : String}
    (hfinish : ((Session.new vocabulary .xml).afterAll calls).answer .finish =
      .ok (.document document)) : IsForest vocabulary document := by
  obtain ⟨known, hsound⟩ :=
    isSound_new.afterAll (Vocabulary.isNamed_of_compile hcompile) hcalls
  obtain ⟨_, _, hleads, hreply⟩ := answer_eq_ok_iff.mp hfinish
  cases hleads with
  | finish hstack =>
      cases hreply
      have hopen := hsound.document
      rw [hstack] at hopen
      exact hopen.isForest

end Session

/-! ## A list -/

def listTable : Table :=
  ⟨[("br", "empty only"), ("li", "checked? only"), ("ul", "class*")], [("all", "id")]⟩

def listVocabulary : Vocabulary :=
  ⟨[⟨"br", none, true, []⟩, ⟨"li", none, false, [⟨"checked", false, .switch⟩]⟩,
    ⟨"ul", none, false, [⟨"class", true, .plain⟩, ⟨"id", false, .plain⟩]⟩]⟩

/-- A list that is made of an entry that is used twice, and of calls of which two are refused. -/
def listCalls : List (Call Tag Piece) :=
  let entry : Plan Piece := ⟨.named "LI", [.attr "Checked" (.flag true), .text "x < y"]⟩
  let made : Fragment := ⟨"<li checked=\"checked\">x &lt; y</li>"⟩
  let outer : Plan Piece := ⟨.named "li", [.child (.markup made), .text "z"]⟩
  let list : Plan Piece := ⟨.named "ul", [.attr "class" (.text "a \"b\"")]⟩
  let line : Plan Piece := ⟨.named "br", []⟩
  [.render entry.tag, .start list.tag, .start line.tag, .write [.markup made, .text "&"],
    .element line.tag, .element outer.tag, .close "li", .close "ul"]

def listDocument : String :=
  "<ul class=\"a &quot;b&quot;\"><li checked=\"checked\">x &lt; y</li>&amp;<br />" ++
    "<li><li checked=\"checked\">x &lt; y</li>z</li></ul>"

theorem isForest_listDocument :
    listTable.compile = .ok listVocabulary ∧
      ((Session.new listVocabulary .xml).afterAll listCalls).answer .finish =
        .ok (.document listDocument) ∧
      IsForest listVocabulary listDocument := by
  have hcompile : listTable.compile = .ok listVocabulary := by decide +kernel
  have hfinish : ((Session.new listVocabulary .xml).afterAll listCalls).answer .finish =
      .ok (.document listDocument) := by decide +kernel
  have hcalls : (Session.new listVocabulary .xml).DrawsOn [] listCalls := by
    refine ⟨⟨⟨⟨_, rfl⟩, by decide +kernel⟩, by decide +kernel⟩,
      ⟨⟨⟨_, rfl⟩, by decide +kernel⟩, by decide +kernel⟩,
      ⟨⟨⟨_, rfl⟩, by decide +kernel⟩, by decide +kernel⟩,
      by unfold Call.DrawsOn; decide +kernel,
      ⟨⟨⟨_, rfl⟩, by decide +kernel⟩, by decide +kernel⟩,
      ⟨⟨⟨_, rfl⟩, by decide +kernel⟩, by decide +kernel⟩, trivial, trivial, trivial⟩
  exact ⟨hcompile, hfinish, Session.isForest_of_finish hcompile hcalls hfinish⟩

end CheckedMarkup
