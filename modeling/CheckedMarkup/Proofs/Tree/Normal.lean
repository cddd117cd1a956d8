import CheckedMarkup.Proofs.Tree.Decoding
import Mathlib.Data.List.Basic

/-! # Markup and normal forms

Rendering loses nothing of a normal form and keeps nothing else: trees have the
same markup just if they have the same normal form, and the normal form itself
can be rendered to that markup.
-/

namespace CheckedMarkup

open Fallible

/-! ## Tags that are filled -/

namespace Tag

@[simp] theorem name_fill (tag : Tag) (contents : List Piece) :
    (tag.fill contents).name = tag.name := by
  unfold fill
  split <;> rfl

@[simp] theorem attributes_fill (tag : Tag) (contents : List Piece) :
    (tag.fill contents).attributes = tag.attributes := by
  unfold fill
  split <;> rfl

@[simp] theorem contents_fill (tag : Tag) (pieces : List Piece) :
    (tag.fill pieces).contents = pieces := by
  unfold fill contents
  split
  next hbulk => simp [hbulk]
  · rfl

/-- Every tag is filled with its own content, so a tree can hold any tag. -/
theorem fill_contents (tag : Tag) : tag.fill tag.contents = tag := by
  obtain ⟨name, attributes, pieces, bulk, fixedType⟩ := tag
  cases bulk <;> rfl

end Tag

/-! ## Attributes in normal form -/

theorem AttributeDecl.written?_of_isPlain {decl : AttributeDecl} {value : AttributeValue}
    (h : value.isPlain = true) :
    decl.written? value = (decl.normalValue? value).map fun raw => ⟨decl.name, .text raw⟩ := by
  cases value with
  | flag on => cases on <;> rfl
  | text raw => rfl
  | markup fragment => cases h

theorem AttributeDecl.normal_normal (decl : AttributeDecl) (raw : String) :
    decl.normal (decl.normal raw) = decl.normal raw := by
  unfold normal
  cases decl.kind with
  | oneOf options => exact Text.lowercase_lowercase raw
  | _ => rfl

/-- The text of an attribute can be given as its value. -/
theorem AttributeDecl.takes_of_normalValue? {decl : AttributeDecl} {value : AttributeValue}
    {raw : String} (hvalue : decl.normalValue? value = some raw) (hadmits : decl.Admits value) :
    decl.Takes raw ∧ decl.normal raw = raw := by
  have htakes : ∀ {text : String}, decl.Takes text → decl.Takes (decl.normal text) := by
    intro text htext
    unfold Takes normal at *
    cases hkind : decl.kind with
    | switch => exact Text.sameUpToCase_self _
    | oneOf options =>
        simp only [hkind] at htext ⊢
        rw [Text.lowercase_lowercase]
        exact htext
    | _ => trivial
  cases value with
  | flag on =>
      cases on with
      | false => cases hvalue
      | true =>
          cases hvalue
          have hkind : decl.kind = .switch := hadmits
          simp only [Takes, normal, hkind, and_true]
          exact Text.sameUpToCase_self _
  | text given =>
      cases hvalue
      exact ⟨htakes hadmits, decl.normal_normal given⟩
  | markup fragment =>
      cases hvalue
      exact ⟨htakes hadmits, decl.normal_normal fragment.text⟩

namespace ElementDecl

variable {element : ElementDecl} {entries : List (String × AttributeValue)}

theorem writtenOf?_eq {entry : String × AttributeValue} (hplain : entry.2.isPlain = true)
    (hlower : Text.lowercase entry.1 = entry.1) :
    element.writtenOf? entry =
      (element.normalOf? entry).map fun given => ⟨given.1, .text given.2⟩ := by
  unfold writtenOf? normalOf?
  cases hdecl : element.attribute? entry.1 with
  | none => rfl
  | some decl =>
      simp only [Option.bind_some, AttributeDecl.written?_of_isPlain hplain, Option.bind_eq_bind,
        name_of_attribute? hdecl, hlower]
      cases decl.normalValue? entry.2 <;> rfl

/-- What is written of plain attributes is their normal form. -/
theorem written_eq (hplain : ∀ entry ∈ entries, entry.2.isPlain = true)
    (hlower : ∀ entry ∈ entries, Text.lowercase entry.1 = entry.1) :
    element.written entries =
      (entries.filterMap element.normalOf?).map fun given => ⟨given.1, .text given.2⟩ := by
  rw [written, List.map_filterMap]
  apply List.filterMap_congr
  intro entry hentry
  exact writtenOf?_eq (hplain entry hentry) (hlower entry hentry)

/-- Whether an attribute with a text is declared, takes the text, and is written with it. -/
def Settles (element : ElementDecl) (given : String × String) : Prop :=
  ∃ decl, element.attribute? given.1 = some decl ∧ decl.Takes given.2 ∧
    decl.normal given.2 = given.2

theorem settles_of_normalOf? {entry : String × AttributeValue} {given : String × String}
    (hlower : Text.lowercase entry.1 = entry.1) (hgiven : element.normalOf? entry = some given)
    {decl : AttributeDecl} (hdecl : element.attribute? entry.1 = some decl)
    (hadmits : decl.Admits entry.2) : element.Settles given := by
  rw [normalOf?, hdecl, hlower] at hgiven
  simp only [Option.bind_eq_bind, Option.bind_some, Option.bind_eq_some_iff, Option.pure_def,
    Option.some.injEq] at hgiven
  obtain ⟨raw, hraw, rfl⟩ := hgiven
  obtain ⟨htakes, hnormal⟩ := AttributeDecl.takes_of_normalValue? hraw hadmits
  exact ⟨decl, hdecl, htakes, hnormal⟩

/-- Attributes in normal form pass and are written as they are. -/
theorem written_of_settles {pairs : List (String × String)}
    (h : ∀ given ∈ pairs, element.Settles given) :
    element.Admits (pairs.map fun given => (given.1, .text given.2)) ∧
      element.written (pairs.map fun given => (given.1, .text given.2)) =
        pairs.map fun given => ⟨given.1, .text given.2⟩ := by
  constructor
  · intro entry hentry
    obtain ⟨given, hgiven, rfl⟩ := List.mem_map.mp hentry
    obtain ⟨decl, hdecl, htakes, _⟩ := h given hgiven
    exact ⟨decl, hdecl, htakes⟩
  · rw [written, List.filterMap_map, ← List.filterMap_eq_map]
    apply List.filterMap_congr
    intro given hgiven
    obtain ⟨decl, hdecl, _, hnormal⟩ := h given hgiven
    simp [writtenOf?, hdecl, AttributeDecl.written?, hnormal, name_of_attribute? hdecl]

end ElementDecl

variable {vocabulary : Vocabulary}

/-! ## One node -/

theorem Label.name_tag (label : Label) : label.tag.name = label.name := by
  rw [tag, Tag.attrs_named]
  rfl

theorem Label.entries_tag {label : Label}
    (hdistinct : (label.attributes.map Prod.fst).Nodup)
    (hlower : ∀ given ∈ label.attributes, Text.lowercase given.1 = given.1) :
    label.tag.attributes.entries = label.attributes.map fun given => (given.1, .text given.2) := by
  have hentries : (Attributes.ofList (label.attributes.map fun given =>
      (given.1, AttributeValue.text given.2))).entries =
      label.attributes.map fun given => (given.1, .text given.2) := by
    apply Attributes.entries_ofList
    · rw [List.map_map]
      exact hdistinct
    · intro pair hpair
      obtain ⟨given, hgiven, rfl⟩ := List.mem_map.mp hpair
      exact hlower given hgiven
  have htag : label.tag.attributes = Attributes.ofList (Attributes.ofList (label.attributes.map
      fun given => (given.1, AttributeValue.text given.2))).entries := by
    rw [Label.tag, Tag.attrs_named]
  rw [htag, hentries]
  exact hentries

/-- What is known of a tag that is rendered with some content. -/
structure Tag.IsRendered (vocabulary : Vocabulary) (tag : Tag) (contents : List Piece)
    (fragment : Fragment) (element : ElementDecl) : Prop where
  find : vocabulary.find? tag.name = some element
  empty : element.isEmpty = true → (tag.fill contents).hasContent = false
  admits : element.Admits tag.attributes.entries
  complete : element.IsComplete (element.written tag.attributes.entries)
  text : fragment.text = element.markup .whole
    ((element.written tag.attributes.entries).map (Written.pair .xml))
    (Fragment.concat (contents.map (Piece.encode .xml))).text

theorem Tag.exists_isRendered {tag : Tag} {contents : List Piece} {fragment : Fragment}
    (h : (Session.new vocabulary .xml).make .whole (tag.fill contents) = .ok fragment) :
    ∃ element, tag.IsRendered vocabulary contents fragment element := by
  obtain ⟨element, written, hfind, hcheck, rfl⟩ := Session.make_eq_ok_iff.mp h
  obtain ⟨hfits, hadmits, hcomplete, rfl⟩ := ElementDecl.check_eq_ok_iff.mp hcheck
  rw [Tag.name_fill] at hfind
  rw [Tag.attributes_fill] at hadmits hcomplete
  refine ⟨element, hfind, hfits.2, hadmits, hcomplete, ?_⟩
  rw [Tag.attributes_fill, Tag.contents_fill]
  rfl

namespace Tag.IsRendered

variable {tag : Tag} {contents : List Piece} {fragment : Fragment} {element : ElementDecl}

theorem attributes_label (h : tag.IsRendered vocabulary contents fragment element) :
    (vocabulary.label tag).attributes =
      tag.attributes.entries.filterMap element.normalOf? := by
  rw [Vocabulary.label, h.find]

theorem name_label (h : tag.IsRendered vocabulary contents fragment element)
    (hnamed : vocabulary.IsNamed) : (vocabulary.label tag).name = element.name :=
  (hnamed.name_of_find? h.find).symm

theorem find_label (h : tag.IsRendered vocabulary contents fragment element)
    (hnamed : vocabulary.IsNamed) :
    vocabulary.find? (vocabulary.label tag).name = some element := by
  rw [h.name_label hnamed]
  exact Vocabulary.find?_name_of_find? h.find

theorem written_eq (h : tag.IsRendered vocabulary contents fragment element)
    (hplain : tag.IsPlain) :
    element.written tag.attributes.entries =
      (vocabulary.label tag).attributes.map fun given => ⟨given.1, .text given.2⟩ := by
  rw [h.attributes_label]
  exact ElementDecl.written_eq hplain.values hplain.made.isProper.lower

theorem settles (h : tag.IsRendered vocabulary contents fragment element) (hplain : tag.IsPlain) :
    ∀ given ∈ (vocabulary.label tag).attributes, element.Settles given := by
  intro given hgiven
  rw [h.attributes_label] at hgiven
  obtain ⟨entry, hentry, hnormal⟩ := List.mem_filterMap.mp hgiven
  obtain ⟨decl, hdecl, hadmits⟩ := h.admits entry hentry
  exact ElementDecl.settles_of_normalOf? (hplain.made.isProper.lower entry hentry) hnormal hdecl
    hadmits

theorem markup_eq (h : tag.IsRendered vocabulary contents fragment element)
    (hplain : tag.IsPlain) (hnamed : vocabulary.IsNamed) :
    fragment.text = (vocabulary.label tag).markup vocabulary
      (Fragment.concat (contents.map (Piece.encode .xml))).text := by
  rw [h.text, h.written_eq hplain, List.map_map, Label.markup, h.find_label hnamed]
  rfl

theorem isLowerName (h : tag.IsRendered vocabulary contents fragment element)
    (hplain : tag.IsPlain) (hnamed : vocabulary.IsNamed) :
    ∀ given ∈ (vocabulary.label tag).attributes, IsLowerName given.1 := by
  intro given hgiven
  obtain ⟨decl, hdecl, _⟩ := h.settles hplain given hgiven
  have helement := hnamed element (Vocabulary.mem_of_find? h.find)
  rw [← ElementDecl.name_of_attribute? hdecl]
  exact helement.attributes decl (ElementDecl.mem_of_attribute? hdecl)

/-- The label of a tag can be rendered in its place, with content of the same markup. -/
theorem make_label (h : tag.IsRendered vocabulary contents fragment element)
    (hplain : tag.IsPlain) (hnamed : vocabulary.IsNamed) {others : List Piece}
    (hempty : element.isEmpty = true → others = [])
    (hothers : Fragment.concat (others.map (Piece.encode .xml)) =
      Fragment.concat (contents.map (Piece.encode .xml))) :
    (Session.new vocabulary .xml).make .whole ((vocabulary.label tag).tag.fill others) =
      .ok fragment := by
  have hpairs := h.written_eq hplain
  have hnames : ((vocabulary.label tag).attributes.map Prod.fst).Nodup := by
    have hsublist := ElementDecl.map_name_written_sublist element tag.attributes.entries
    rw [hpairs, List.map_map] at hsublist
    exact hplain.made.isProper.distinct.sublist hsublist
  have hentries := Label.entries_tag hnames fun given hgiven =>
    (h.isLowerName hplain hnamed given hgiven).lowercase_eq
  obtain ⟨hadmits, hwritten⟩ := ElementDecl.written_of_settles (h.settles hplain)
  rw [← hentries] at hadmits hwritten
  rw [← hpairs] at hwritten
  apply Session.make_eq_ok_iff.mpr
  refine ⟨element, element.written tag.attributes.entries, ?_, ?_, ?_⟩
  · rw [Tag.name_fill, Label.name_tag]
    exact h.find_label hnamed
  · refine ElementDecl.check_eq_ok_iff.mpr ⟨⟨?_, ?_⟩, ?_, h.complete, ?_⟩
    · rw [Label.tag, Tag.attrs_named]
      rfl
    · intro hnone
      rw [Tag.hasContent, Tag.contents_fill, hempty hnone]
      rfl
    · rwa [Tag.attributes_fill]
    · rw [Tag.attributes_fill, hwritten]
  · apply Fragment.eq_of_text_eq
    rw [Tag.contents_fill, h.text, ← hothers]
    rfl

end Tag.IsRendered

/-! ## Forests -/

namespace Forest

variable {forest : Forest Tag} {pieces : List Piece}

theorem render_text_eq_ok_iff {raw : String} {rest : Forest Tag} :
    (text raw rest).render vocabulary = .ok pieces ↔
      ∃ others, rest.render vocabulary = .ok others ∧ pieces = .text raw :: others := by
  simp only [render, bind_eq_ok_iff, pure_eq, Except.ok.injEq]
  constructor
  · rintro ⟨others, hrest, rfl⟩
    exact ⟨others, hrest, rfl⟩
  · rintro ⟨others, hrest, rfl⟩
    exact ⟨others, hrest, rfl⟩

theorem render_node_eq_ok_iff {tag : Tag} {content rest : Forest Tag} :
    (node tag content rest).render vocabulary = .ok pieces ↔
      ∃ contents fragment others, content.render vocabulary = .ok contents ∧
        (Session.new vocabulary .xml).make .whole (tag.fill contents) = .ok fragment ∧
        rest.render vocabulary = .ok others ∧ pieces = .markup fragment :: others := by
  simp only [render, bind_eq_ok_iff, pure_eq, Except.ok.injEq]
  constructor
  · rintro ⟨contents, hcontent, fragment, hmake, others, hrest, rfl⟩
    exact ⟨contents, fragment, others, hcontent, hmake, hrest, rfl⟩
  · rintro ⟨contents, fragment, others, hcontent, hmake, hrest, rfl⟩
    exact ⟨contents, hcontent, fragment, hmake, others, hrest, rfl⟩

theorem markup_addText (raw : String) (forest : Forest Label) :
    (addText raw forest).markup vocabulary =
      Escaper.xml.text raw ++ forest.markup vocabulary := by
  unfold addText
  split
  next hempty => simp [hempty]
  · cases forest with
    | nil => rfl
    | text more rest => simp [markup, Escaper.xml_text_append, String.append_assoc]
    | node label content rest => rfl

theorem concat_cons_encode (piece : Piece) (others : List Piece) :
    (Fragment.concat ((piece :: others).map (Piece.encode .xml))).text =
      (piece.encode .xml).text ++ (Fragment.concat (others.map (Piece.encode .xml))).text := by
  rw [List.map_cons, Fragment.concat_cons]

/-- What is rendered is the markup of the normal form. -/
theorem concat_eq_markup_normal (hplain : forest.IsPlain) (hnamed : vocabulary.IsNamed)
    (h : forest.render vocabulary = .ok pieces) :
    (Fragment.concat (pieces.map (Piece.encode .xml))).text =
      (forest.normal vocabulary).markup vocabulary := by
  induction forest generalizing pieces with
  | nil =>
      cases h
      rfl
  | text raw rest ih =>
      obtain ⟨others, hrest, rfl⟩ := render_text_eq_ok_iff.mp h
      rw [concat_cons_encode, normal, markup_addText, ih hplain hrest]
      rfl
  | node tag content rest ihcontent ihrest =>
      obtain ⟨hlabel, hcontent, hrest⟩ := hplain
      obtain ⟨contents, fragment, others, hinside, hmake, hbehind, rfl⟩ :=
        render_node_eq_ok_iff.mp h
      obtain ⟨element, hrendered⟩ := Tag.exists_isRendered hmake
      rw [concat_cons_encode, normal, markup, ihrest hrest hbehind, ← ihcontent hcontent hinside,
        ← hrendered.markup_eq hlabel hnamed]
      rfl

theorem isNormal_addText {raw : String} {forest : Forest Label}
    (h : forest.IsNormal vocabulary) : (addText raw forest).IsNormal vocabulary := by
  unfold addText
  split
  · exact h
  next hraw =>
    cases forest with
    | nil => exact ⟨hraw, rfl, trivial⟩
    | text more rest => exact ⟨by simp [hraw], h.2.1, h.2.2⟩
    | node label content rest => exact ⟨hraw, rfl, h⟩

theorem normal_eq_nil (h : forest.render vocabulary = .ok pieces)
    (hempty : ∀ piece ∈ pieces, piece.isEmpty = true) : forest.normal vocabulary = .nil := by
  induction forest generalizing pieces with
  | nil => rfl
  | text raw rest ih =>
      obtain ⟨others, hrest, rfl⟩ := render_text_eq_ok_iff.mp h
      rw [List.forall_mem_cons] at hempty
      have hraw : raw = "" := String.isEmpty_iff.mp hempty.1
      rw [normal, ih hrest hempty.2, hraw]
      rfl
  | node tag content rest =>
      obtain ⟨contents, fragment, others, _, hmake, _, rfl⟩ := render_node_eq_ok_iff.mp h
      obtain ⟨element, hrendered⟩ := Tag.exists_isRendered hmake
      rw [List.forall_mem_cons] at hempty
      have htext : fragment.text = "" := String.isEmpty_iff.mp hempty.1
      have hlist := congrArg String.toList (hrendered.text.symm.trans htext)
      rw [toList_markup_whole] at hlist
      cases hlist

section

variable {tag : Tag} {content : Forest Tag} {contents : List Piece} {fragment : Fragment}
  {element : ElementDecl}

theorem normal_content_eq_nil (hcontent : content.render vocabulary = .ok contents)
    (h : tag.IsRendered vocabulary contents fragment element) (hempty : element.isEmpty = true) :
    content.normal vocabulary = .nil := by
  have hnone := h.empty hempty
  rw [Tag.hasContent, Tag.contents_fill] at hnone
  apply normal_eq_nil hcontent
  simpa using hnone

theorem isNormal_label (hplain : tag.IsPlain) (hnamed : vocabulary.IsNamed)
    (hcontent : content.render vocabulary = .ok contents)
    (h : tag.IsRendered vocabulary contents fragment element) :
    (vocabulary.label tag).IsNormal vocabulary (content.normal vocabulary) := by
  have hname := (h.name_label hnamed).symm
  refine ⟨⟨element, h.find_label hnamed, hname, normal_content_eq_nil hcontent h⟩, ?_,
    h.isLowerName hplain hnamed⟩
  rw [← hname]
  exact (hnamed element (Vocabulary.mem_of_find? h.find)).name

end

theorem isNormal_normal (hplain : forest.IsPlain) (hnamed : vocabulary.IsNamed)
    (h : forest.render vocabulary = .ok pieces) :
    (forest.normal vocabulary).IsNormal vocabulary := by
  induction forest generalizing pieces with
  | nil => trivial
  | text raw rest ih =>
      obtain ⟨others, hrest, rfl⟩ := render_text_eq_ok_iff.mp h
      exact isNormal_addText (ih hplain hrest)
  | node tag content rest ihcontent ihrest =>
      obtain ⟨hlabel, hcontent, hrest⟩ := hplain
      obtain ⟨contents, fragment, others, hinside, hmake, hbehind, rfl⟩ :=
        render_node_eq_ok_iff.mp h
      obtain ⟨element, hrendered⟩ := Tag.exists_isRendered hmake
      exact ⟨isNormal_label hlabel hnamed hinside hrendered, ihcontent hcontent hinside,
        ihrest hrest hbehind⟩

theorem exists_render_addText {forest : Forest Label} (raw : String)
    (h : forest.tags.render vocabulary = .ok pieces) :
    ∃ again, (addText raw forest).tags.render vocabulary = .ok again ∧
      (Fragment.concat (again.map (Piece.encode .xml))).text =
        Escaper.xml.text raw ++ (Fragment.concat (pieces.map (Piece.encode .xml))).text := by
  unfold addText
  split
  next hraw => exact ⟨pieces, h, by simp [hraw]⟩
  · cases forest with
    | text more rest =>
        obtain ⟨others, hrest, rfl⟩ := render_text_eq_ok_iff.mp h
        refine ⟨_, render_text_eq_ok_iff.mpr ⟨others, hrest, rfl⟩, ?_⟩
        rw [concat_cons_encode, concat_cons_encode, ← String.append_assoc]
        exact congrArg (· ++ _) (Escaper.xml_text_append raw more)
    | nil | node =>
        refine ⟨_, render_text_eq_ok_iff.mpr ⟨pieces, h, rfl⟩, ?_⟩
        rw [concat_cons_encode]
        rfl

/-- The normal form is rendered without failure, to the same markup. -/
theorem exists_render_tags (hplain : forest.IsPlain) (hnamed : vocabulary.IsNamed)
    (h : forest.render vocabulary = .ok pieces) :
    ∃ again, (forest.normal vocabulary).tags.render vocabulary = .ok again ∧
      (Fragment.concat (again.map (Piece.encode .xml))).text =
        (Fragment.concat (pieces.map (Piece.encode .xml))).text := by
  induction forest generalizing pieces with
  | nil => exact ⟨pieces, h, rfl⟩
  | text raw rest ih =>
      obtain ⟨others, hrest, rfl⟩ := render_text_eq_ok_iff.mp h
      obtain ⟨more, hmore, htext⟩ := ih hplain hrest
      obtain ⟨again, hagain, heq⟩ := exists_render_addText raw hmore
      refine ⟨again, hagain, ?_⟩
      rw [heq, htext, concat_cons_encode]
      rfl
  | node tag content rest ihcontent ihrest =>
      obtain ⟨hlabel, hcontent, hrest⟩ := hplain
      obtain ⟨contents, fragment, others, hinside, hmake, hbehind, rfl⟩ :=
        render_node_eq_ok_iff.mp h
      obtain ⟨element, hrendered⟩ := Tag.exists_isRendered hmake
      obtain ⟨inner, hinner, hinnerText⟩ := ihcontent hcontent hinside
      obtain ⟨more, hmore, hmoreText⟩ := ihrest hrest hbehind
      have hnone : element.isEmpty = true → inner = [] := fun hempty => by
        rw [normal_content_eq_nil hinside hrendered hempty] at hinner
        cases hinner
        rfl
      have hagain := hrendered.make_label hlabel hnamed hnone (Fragment.eq_of_text_eq hinnerText)
      refine ⟨.markup fragment :: more, ?_, ?_⟩
      · exact render_node_eq_ok_iff.mpr ⟨inner, fragment, more, hinner, hagain, hmore, rfl⟩
      · rw [concat_cons_encode, concat_cons_encode, hmoreText]

end Forest

/-! ## Trees -/

namespace Tree

/-- A tree with nothing behind it. -/
def alone {α : Type} (tree : Tree α) : Forest α := .node tree.label tree.content .nil

theorem render_alone_eq_ok_iff {tree : Tree Tag} {fragment : Fragment} :
    tree.alone.render vocabulary = .ok [.markup fragment] ↔
      tree.render vocabulary = .ok fragment := by
  rw [alone, Forest.render_node_eq_ok_iff, render, bind_eq_ok_iff]
  constructor
  · intro hrender
    obtain ⟨contents, made, others, hcontent, hmake, hnil, heq⟩ := hrender
    cases heq
    exact ⟨contents, hcontent, hmake⟩
  · intro hmakes
    obtain ⟨contents, hcontent, hmake⟩ := hmakes
    exact ⟨contents, fragment, [], hcontent, hmake, rfl, rfl⟩

theorem normal_alone_inj {first second : Tree Tag} :
    first.alone.normal vocabulary = second.alone.normal vocabulary ↔
      first.normal vocabulary = second.normal vocabulary := by
  simp [alone, normal, Forest.normal]

theorem isPlain_alone {tree : Tree Tag} (h : tree.IsPlain) : tree.alone.IsPlain :=
  ⟨h.1, h.2, trivial⟩

theorem exists_of_render_alone {tree : Tree Tag} {pieces : List Piece}
    (h : tree.alone.render vocabulary = .ok pieces) :
    ∃ fragment, pieces = [.markup fragment] ∧ tree.render vocabulary = .ok fragment := by
  obtain ⟨contents, fragment, others, hcontent, hmake, hnil, rfl⟩ :=
    Forest.render_node_eq_ok_iff.mp h
  cases hnil
  exact ⟨fragment, rfl, render_alone_eq_ok_iff.mp h⟩

theorem text_eq_markup_normal (hnamed : vocabulary.IsNamed) {tree : Tree Tag}
    (hplain : tree.IsPlain) {fragment : Fragment} (h : tree.render vocabulary = .ok fragment) :
    fragment.text = (tree.alone.normal vocabulary).markup vocabulary := by
  have htext := Forest.concat_eq_markup_normal (isPlain_alone hplain) hnamed
    (render_alone_eq_ok_iff.mpr h)
  rw [List.map_singleton, Fragment.concat_singleton] at htext
  exact htext

theorem render_tags (hnamed : vocabulary.IsNamed) {tree : Tree Tag} (hplain : tree.IsPlain)
    {fragment : Fragment} (h : tree.render vocabulary = .ok fragment) :
    (tree.normal vocabulary).tags.render vocabulary = .ok fragment := by
  obtain ⟨again, hagain, htext⟩ := Forest.exists_render_tags (isPlain_alone hplain) hnamed
    (render_alone_eq_ok_iff.mpr h)
  obtain ⟨other, rfl, hother⟩ := @exists_of_render_alone _ (tree.normal vocabulary).tags _ hagain
  simp only [List.map_cons, List.map_nil, Fragment.concat_singleton] at htext
  have hsame : other = fragment := Fragment.eq_of_text_eq htext
  rw [hother, hsame]

/-- Rendering loses nothing: trees have the same markup just if they have the same normal form, and
the normal form is rendered to the markup of the tree. -/
theorem markup_eq_iff_normal_eq {table : Table} {vocabulary : Vocabulary}
    (hcompile : table.compile = .ok vocabulary) {first second : Tree Tag}
    (hfirst : first.IsPlain) (hsecond : second.IsPlain) {fragment other : Fragment}
    (hrender : first.render vocabulary = .ok fragment)
    (hother : second.render vocabulary = .ok other) :
    (fragment = other ↔ first.normal vocabulary = second.normal vocabulary) ∧
      (first.normal vocabulary).tags.render vocabulary = .ok fragment := by
  have hnamed := Vocabulary.isNamed_of_compile hcompile
  refine ⟨?_, render_tags hnamed hfirst hrender⟩
  have htext := text_eq_markup_normal hnamed hfirst hrender
  have hothers := text_eq_markup_normal hnamed hsecond hother
  rw [← normal_alone_inj]
  constructor
  · rintro rfl
    exact Forest.markup_injective
      (Forest.isNormal_normal (isPlain_alone hfirst) hnamed (render_alone_eq_ok_iff.mpr hrender))
      (Forest.isNormal_normal (isPlain_alone hsecond) hnamed (render_alone_eq_ok_iff.mpr hother))
      (htext.symm.trans hothers)
  · intro hnormal
    rw [hnormal] at htext
    exact Fragment.eq_of_text_eq (htext.trans hothers.symm)

/-! ## Two notes of one normal form -/

def noteTable : Table := ⟨[("b", "only"), ("p", "dir(LTR|rtl) on?")], []⟩

def noteVocabulary : Vocabulary :=
  ⟨[⟨"b", none, false, []⟩,
    ⟨"p", none, false, [⟨"dir", false, .oneOf ["ltr", "rtl"]⟩, ⟨"on", false, .switch⟩]⟩]⟩

/-- A paragraph that is made with a switch. -/
def shortPlan : Plan Piece :=
  ⟨.named "P", [.attr "dir" (.text "LTR"), .attr "On" (.flag true)]⟩

/-- A paragraph with an attribute that is given twice. -/
def longPlan : Plan Piece :=
  ⟨.named "p", [.attr "Dir" (.text "rtl"), .attrs [("on", .flag true), ("dir", .text "Ltr")]]⟩

/-- Bold text, in either way of giving content. -/
def boldPlan (steps : List (BuildStep Piece)) : Plan Piece := ⟨.named "B", steps⟩

def shortNote : Tree Tag :=
  ⟨shortPlan.tag, .text "a" (.text "" (.text "b"
    (.node (boldPlan []).tag (.text "<" .nil) .nil)))⟩

def longNote : Tree Tag :=
  ⟨longPlan.tag, .text "ab"
    (.node (boldPlan [.children []]).tag (.text "<" .nil) (.text "" .nil))⟩

def noteMarkup : Fragment := ⟨"<p dir=\"ltr\" on=\"on\">ab<b>&lt;</b></p>"⟩

theorem markup_eq_iff_normal_eq_notes :
    noteTable.compile = .ok noteVocabulary ∧
      shortNote.render noteVocabulary = .ok noteMarkup ∧
      shortNote.normal noteVocabulary = longNote.normal noteVocabulary ∧
      (shortNote.normal noteVocabulary).tags.render noteVocabulary = .ok noteMarkup := by
  have hcompile : noteTable.compile = .ok noteVocabulary := by decide +kernel
  have hshort : shortNote.IsPlain :=
    ⟨⟨⟨shortPlan, rfl⟩, by decide +kernel⟩, ⟨⟨boldPlan _, rfl⟩, by decide +kernel⟩, trivial,
      trivial⟩
  have hlong : longNote.IsPlain :=
    ⟨⟨⟨longPlan, rfl⟩, by decide +kernel⟩, ⟨⟨boldPlan _, rfl⟩, by decide +kernel⟩, trivial, trivial⟩
  have hrender : shortNote.render noteVocabulary = .ok noteMarkup := by decide +kernel
  have hother : longNote.render noteVocabulary = .ok noteMarkup := by decide +kernel
  obtain ⟨hiff, hagain⟩ := markup_eq_iff_normal_eq hcompile hshort hlong hrender hother
  exact ⟨hcompile, hrender, hiff.mp rfl, hagain⟩

end Tree

end CheckedMarkup
