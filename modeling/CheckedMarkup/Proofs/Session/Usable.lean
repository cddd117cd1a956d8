import CheckedMarkup.Proofs.Session.Plans
import CheckedMarkup.Proofs.Session.Run
import CheckedMarkup.Proofs.Tag.Made
import CheckedMarkup.Proofs.Text.Letters
import CheckedMarkup.Proofs.Vocabulary.Proper
import Mathlib.Data.List.Nodup

/-! # Declarations can be used

Whatever a compiled vocabulary declares can be given to its element: attributes
in any order and any case, as long as the required ones are among them, and each
with a value that its table entry names. Nothing that a table can declare makes
an element unusable.
-/

namespace CheckedMarkup

open Fallible

/-! ## Values that are declared -/

/-- Whether a token that an entry of the table leads to declares an attribute of an element. -/
def Table.Declares (table : Table) (element : ElementDecl) (token : String)
    (decl : AttributeDecl) : Prop :=
  ∃ entry ∈ table.elements, table.declare entry = .ok element ∧
    (∃ root ∈ Groups.roots ⟨table.groups⟩ entry.2,
      .descriptor token ∈ Groups.flatten ⟨table.groups⟩ [] root) ∧
    AttributeDecl.read element.name token = .ok decl

theorem Table.exists_declares {table : Table} {vocabulary : Vocabulary}
    (h : table.compile = .ok vocabulary) {element : ElementDecl}
    (helement : element ∈ vocabulary.elements) {decl : AttributeDecl}
    (hdecl : decl ∈ element.attributes) : ∃ token, table.Declares element token decl := by
  obtain ⟨entry, hentry, hdeclare⟩ := exists_declare_of_mem h helement
  obtain ⟨root, hroot, token, htoken, hread⟩ :=
    ElementDecl.exists_token_of_compile hdeclare hdecl
  rw [← ElementDecl.name_of_compile hdeclare] at hread
  exact ⟨token, entry, hentry, hdeclare, ⟨root, hroot, htoken⟩, hread⟩

namespace AttributeDecl

/-- The values that a declaration is meant for: a switch that is on, an option as it is kept or as a
token that declares the attribute writes it, and any text if neither is asked for. -/
inductive Suits (element : String) (decl : AttributeDecl) : AttributeValue → Prop
  | on (hkind : decl.kind = .switch) : Suits element decl (.flag true)
  | ownName {raw : String} (hkind : decl.kind = .switch)
      (h : Text.sameUpToCase raw decl.name = true) : Suits element decl (.text raw)
  | option {raw option : String} {options : List String} (hkind : decl.kind = .oneOf options)
      (hoption : option ∈ options) (h : Text.sameUpToCase raw option = true) :
      Suits element decl (.text raw)
  | spelled {raw token text : String} {descriptor : Descriptor} {texts : List String}
      (hread : AttributeDecl.read element token = .ok decl)
      (hdescriptor : Descriptor.read token = .ok descriptor)
      (htexts : .options texts ∈ descriptor.markers) (htext : text ∈ texts)
      (h : Text.sameUpToCase raw text = true) : Suits element decl (.text raw)
  | free {raw : String} (hswitch : decl.kind ≠ .switch)
      (hoptions : ∀ options, decl.kind ≠ .oneOf options) : Suits element decl (.text raw)

/-- A value in the form in which it is written, before it is escaped. -/
def shown (decl : AttributeDecl) : AttributeValue → String
  | .text raw => decl.normal raw
  | .markup fragment => decl.normal fragment.text
  | .flag _ => decl.name

variable {decl : AttributeDecl} {element : String} {value : AttributeValue}

theorem takes_of_mem_options {raw option : String} {options : List String}
    (hkind : decl.kind = .oneOf options) (hoption : Text.lowercase option ∈ options)
    (h : Text.sameUpToCase raw option = true) : decl.Takes raw := by
  unfold Takes
  rw [hkind]
  simp only
  rwa [Text.lowercase_eq_of_sameUpToCase h]

theorem Suits.admits (h : decl.Suits element value) (hproper : decl.kind.IsProper) :
    decl.Admits value := by
  cases h with
  | on hkind => exact hkind
  | ownName hkind h =>
      simp only [Admits, Takes, hkind]
      exact h
  | @option raw option options hkind hoption h =>
      obtain ⟨_, hlower⟩ := (hproper options hkind).2 option hoption
      exact takes_of_mem_options hkind (hlower.symm ▸ hoption) h
  | spelled hread hdescriptor htexts htext h =>
      have hkind := kind_of_read_of_options hread hdescriptor htexts
      exact takes_of_mem_options hkind (List.mem_map_of_mem htext) h
  | free hswitch hoptions =>
      unfold Admits Takes
      cases hkind : decl.kind with
      | switch => exact absurd hkind hswitch
      | oneOf options => exact absurd hkind (hoptions options)
      | plain | uri | contentType | charset | script => trivial

theorem Suits.written?_eq (h : decl.Suits element value) :
    decl.written? value = some ⟨decl.name, .text (decl.shown value)⟩ := by
  cases h <;> rfl

/-- A value that suits the declaration, whatever it is. -/
def sample (decl : AttributeDecl) : AttributeValue :=
  match decl.kind with
  | .switch => .flag true
  | .oneOf options => .text (options.headD "")
  | _ => .text ""

theorem suits_sample (hproper : decl.kind.IsProper) (element : String) :
    decl.Suits element decl.sample := by
  unfold sample
  cases hkind : decl.kind with
  | switch => exact .on hkind
  | oneOf options =>
      obtain ⟨hne, _⟩ := hproper options hkind
      obtain ⟨option, rest, rfl⟩ := List.exists_cons_of_ne_nil hne
      exact .option hkind List.mem_cons_self (Text.sameUpToCase_self option)
  | plain | uri | contentType | charset | script =>
      exact .free (by simp [hkind]) (by simp [hkind])

end AttributeDecl

/-! ## Attributes that are offered -/

/-- A declared attribute, with the name and the value under which it is given. -/
structure Offer where
  decl : AttributeDecl
  name : String
  value : AttributeValue

/-- The tag of a name that is given some attributes, one after the other. -/
def Tag.offering (name : String) (offers : List Offer) : Tag :=
  offers.foldl (fun tag offer => tag.attr offer.name offer.value) (.named name)

/-- Whether some attributes are declared for an element, each once, in any case and with a value
that suits it, and no required one is left out. -/
structure ElementDecl.Invites (element : ElementDecl) (offers : List Offer) : Prop where
  declared : ∀ offer ∈ offers, offer.decl ∈ element.attributes
  distinct : (offers.map Offer.decl).Nodup
  complete : ∀ decl ∈ element.required, decl ∈ offers.map Offer.decl
  names : ∀ offer ∈ offers, Text.sameUpToCase offer.name offer.decl.name = true
  values : ∀ offer ∈ offers, offer.decl.Suits element.name offer.value

/-- The attributes as they are written. -/
def offeredPairs (escaper : Escaper) (offers : List Offer) : List (String × String) :=
  offers.map fun offer => (offer.decl.name, escaper.value (offer.decl.shown offer.value))

/-- Names count in lower case. -/
theorem Attributes.ofList_map_lowercase (pairs : List (String × AttributeValue)) :
    ofList (pairs.map fun pair => (Text.lowercase pair.1, pair.2)) = ofList pairs := by
  rw [ofList, ofList, insertAll, insertAll, List.foldl_map]
  simp only [insert, Text.lowercase_lowercase]

theorem Tag.offering_eq (name : String) (offers : List Offer) :
    Tag.offering name offers =
      { Tag.named name with
        attributes := .ofList (offers.map fun offer => (offer.name, offer.value)) } := by
  have hfold := (Tag.named name).foldl_attr (offers.map fun offer => (offer.name, offer.value))
  rw [List.foldl_map] at hfold
  exact hfold

namespace ElementDecl.Invites

variable {element : ElementDecl} {offers : List Offer}

theorem nodup_names (h : element.Invites offers) (hproper : element.IsProper) :
    (offers.map fun offer => offer.decl.name).Nodup := by
  -- an element does not declare two attributes of one name
  have hinjective : ∀ first ∈ offers.map Offer.decl, ∀ second ∈ offers.map Offer.decl,
      first.name = second.name → first = second := by
    intro first hfirst second hsecond hname
    obtain ⟨offer, hoffer, rfl⟩ := List.mem_map.mp hfirst
    obtain ⟨other, hother, rfl⟩ := List.mem_map.mp hsecond
    exact List.inj_on_of_nodup_map hproper.distinct (h.declared offer hoffer)
      (h.declared other hother) hname
  have hnodup := List.Nodup.map_on hinjective h.distinct
  rwa [List.map_map] at hnodup

/-- The tag has the attributes under their declared names, in the order in which they are
offered. -/
theorem entries_offering (h : element.Invites offers) (hproper : element.IsProper)
    (name : String) :
    (Tag.offering name offers).attributes.entries =
      offers.map fun offer => (offer.decl.name, offer.value) := by
  -- the lower case that the tag takes of a name is the one that was declared
  have hlower : ∀ offer ∈ offers, Text.lowercase offer.name = offer.decl.name := by
    intro offer hoffer
    have hname := (hproper.attributes _ (h.declared offer hoffer)).name
    rw [Text.lowercase_eq_of_sameUpToCase (h.names offer hoffer), hname.lowercase_eq]
  have hpairs : (offers.map fun offer => (offer.name, offer.value)).map
      (fun pair => (Text.lowercase pair.1, pair.2)) =
        offers.map fun offer => (offer.decl.name, offer.value) := by
    rw [List.map_map]
    exact List.map_congr_left fun offer hoffer => Prod.ext (hlower offer hoffer) rfl
  rw [Tag.offering_eq, ← Attributes.ofList_map_lowercase, hpairs]
  apply Attributes.entries_ofList
  · rw [List.map_map]
    exact h.nodup_names hproper
  · intro pair hpair
    obtain ⟨offer, hoffer, rfl⟩ := List.mem_map.mp hpair
    exact (hproper.attributes _ (h.declared offer hoffer)).name.lowercase_eq

theorem attribute?_eq (h : element.Invites offers) (hproper : element.IsProper) {offer : Offer}
    (hoffer : offer ∈ offers) : element.attribute? offer.decl.name = some offer.decl :=
  (Keyed.find?_eq_some_iff hproper.distinct).mpr ⟨h.declared offer hoffer, rfl⟩

theorem check_offering (h : element.Invites offers) (hproper : element.IsProper) (name : String)
    (form : Form) (hform : form = .opening → element.isEmpty = false) :
    element.check form (Tag.offering name offers) =
      .ok (offers.map fun offer => ⟨offer.decl.name, .text (offer.decl.shown offer.value)⟩) := by
  have hcontent : (Tag.offering name offers).hasContent = false ∧
      (Tag.offering name offers).hasConflictingContent = false := by
    rw [Tag.offering_eq]
    exact ⟨rfl, rfl⟩
  have hwritten : element.written (Tag.offering name offers).attributes.entries =
      offers.map fun offer => ⟨offer.decl.name, .text (offer.decl.shown offer.value)⟩ := by
    rw [h.entries_offering hproper, written, List.filterMap_map]
    rw [← List.filterMap_eq_map]
    refine List.filterMap_congr fun offer hoffer => ?_
    simp only [Function.comp_apply, writtenOf?, h.attribute?_eq hproper hoffer, Option.bind_some,
      (h.values offer hoffer).written?_eq]
  rw [check_eq_ok_iff, hwritten]
  refine ⟨⟨hcontent.2, ?_⟩, ?_, ?_, rfl⟩
  · cases form with
    | opening => exact ⟨hform rfl, hcontent.1⟩
    | whole => exact fun _ => hcontent.1
  · intro entry hentry
    rw [h.entries_offering hproper] at hentry
    obtain ⟨offer, hoffer, rfl⟩ := List.mem_map.mp hentry
    have hkind := (hproper.attributes _ (h.declared offer hoffer)).kind
    exact ⟨offer.decl, h.attribute?_eq hproper hoffer, (h.values offer hoffer).admits hkind⟩
  · intro decl hdecl
    obtain ⟨offer, hoffer, rfl⟩ := List.mem_map.mp (h.complete decl hdecl)
    rw [List.map_map]
    exact List.mem_map.mpr ⟨offer, hoffer, rfl⟩

end ElementDecl.Invites

theorem map_pair_offers (escaper : Escaper) (offers : List Offer) :
    (offers.map fun offer =>
        (⟨offer.decl.name, .text (offer.decl.shown offer.value)⟩ : Written)).map
      (Written.pair escaper) = offeredPairs escaper offers := by
  rw [List.map_map]
  rfl

/-- The required attributes alone, each with some value. -/
theorem ElementDecl.invites_required {element : ElementDecl} (hproper : element.IsProper) :
    element.Invites (element.required.map fun decl => ⟨decl, decl.name, decl.sample⟩) := by
  have hdecls : (element.required.map fun decl => (⟨decl, decl.name, decl.sample⟩ : Offer)).map
      Offer.decl = element.required := by
    rw [List.map_map]
    exact List.map_id _
  have hdeclared : ∀ decl ∈ element.required, decl ∈ element.attributes := fun _ hdecl =>
    List.mem_of_mem_filter hdecl
  refine ⟨?_, ?_, ?_, ?_, ?_⟩
  · intro offer hoffer
    obtain ⟨decl, hdecl, rfl⟩ := List.mem_map.mp hoffer
    exact hdeclared decl hdecl
  · rw [hdecls]
    exact (List.Nodup.of_map AttributeDecl.name hproper.distinct).filter _
  · rw [hdecls]
    exact fun decl hdecl => hdecl
  · intro offer hoffer
    obtain ⟨decl, _, rfl⟩ := List.mem_map.mp hoffer
    exact Text.sameUpToCase_self decl.name
  · intro offer hoffer
    obtain ⟨decl, hdecl, rfl⟩ := List.mem_map.mp hoffer
    exact decl.suits_sample (hproper.attributes decl (hdeclared decl hdecl)).kind element.name

theorem Vocabulary.find?_of_sameUpToCase {vocabulary : Vocabulary} (hproper : vocabulary.IsProper)
    {element : ElementDecl} (helement : element ∈ vocabulary.elements) {name : String}
    (hname : Text.sameUpToCase name element.name = true) :
    vocabulary.find? name = some element := by
  have hlower := (hproper.elements element helement).name.lower
  rw [hproper.isNamed.find?_eq, Text.sameUpToCase_iff.mp hname, hlower]
  exact (Keyed.find?_eq_some_iff (Keyed.nodup_of_pairwise hproper.ordered)).mpr ⟨helement, rfl⟩

namespace Session

/-- Every declaration of a compiled vocabulary comes from its table and can be used: an element
takes any of its attributes in any order and case, with values that suit them, as long as no
required one is left out, and writes just these. The required ones alone are such attributes. -/
theorem declarations_are_usable {table : Table} {vocabulary : Vocabulary}
    (hcompile : table.compile = .ok vocabulary) {element : ElementDecl}
    (helement : element ∈ vocabulary.elements) :
    (∀ decl ∈ element.attributes, ∃ token, table.Declares element token decl) ∧
    (∀ offers, element.Invites offers → ∀ name, Text.sameUpToCase name element.name = true →
      ∀ session : Session, session.vocabulary = vocabulary → session.isFinished = false →
        session.answer (.render (Tag.offering name offers)) =
          .ok (.fragment ⟨element.markup .whole (offeredPairs session.escaper offers) ""⟩) ∧
        (element.isEmpty = false →
          session.answer (.start (Tag.offering name offers)) = .ok .nothing ∧
          session.after (.start (Tag.offering name offers)) =
            { session with
              fragments := session.fragments ++
                [⟨element.openingTag (offeredPairs session.escaper offers)⟩]
              stack := element.name :: session.stack })) ∧
    ∃ offers, element.Invites offers ∧ offers.map Offer.decl = element.required := by
  have hproper := Vocabulary.isProper_of_compile hcompile
  have helementProper := hproper.elements element helement
  refine ⟨fun decl hdecl => Table.exists_declares hcompile helement hdecl, ?_,
    _, ElementDecl.invites_required helementProper, ?_⟩
  · rintro offers hinvites name hname session rfl hfinished
    have hfind : session.vocabulary.find? (Tag.offering name offers).name = some element := by
      rw [Tag.offering_eq]
      exact Vocabulary.find?_of_sameUpToCase hproper helement hname
    have hcontents : (Tag.offering name offers).contents = [] := by
      rw [Tag.offering_eq]
      rfl
    constructor
    · have hcheck := hinvites.check_offering helementProper name .whole (by simp)
      rw [answer_render_eq_ok_iff hfinished, make_eq_ok_iff]
      refine ⟨element, _, hfind, hcheck, ?_⟩
      rw [map_pair_offers, hcontents]
      rfl
    · intro hempty
      have hcheck := hinvites.check_offering helementProper name .opening fun _ => hempty
      have hmake := make_eq_ok_iff.mpr ⟨element, _, hfind, hcheck, rfl⟩
      constructor
      · exact answer_eq_ok_iff.mpr ⟨hfinished, _, .start hfind hmake, rfl⟩
      · rw [after_start hfinished hfind hcheck, map_pair_offers]
  · rw [List.map_map]
    exact List.map_id _

/-- Cells that name a side of a street. One of the sides ends in a sigma. -/
def streetTable : Table :=
  ⟨[("TD", "Street(LEFT|ΟΔΟΣ)* nowrap?"), ("br", "empty only")], [("all", "Id")]⟩

def streetCell : ElementDecl :=
  ⟨"td", none, false, [⟨"street", true, .oneOf ["left", "οδος"]⟩, ⟨"nowrap", false, .switch⟩,
    ⟨"id", false, .plain⟩]⟩

def streetVocabulary : Vocabulary := ⟨[⟨"br", none, true, []⟩, streetCell]⟩

def streetOffers : List Offer :=
  [⟨⟨"id", false, .plain⟩, "ID", .text "a\"b"⟩,
    ⟨⟨"street", true, .oneOf ["left", "οδος"]⟩, "sTREET", .text "ΟΔΟΣ"⟩,
    ⟨⟨"nowrap", false, .switch⟩, "nowrap", .flag true⟩]

theorem invites_streetOffers : streetCell.Invites streetOffers := by
  have hread : AttributeDecl.read "td" "Street(LEFT|ΟΔΟΣ)*" =
      .ok ⟨"street", true, .oneOf ["left", "οδος"]⟩ := by decide +kernel
  have hdescriptor : Descriptor.read "Street(LEFT|ΟΔΟΣ)*" =
      .ok ⟨"Street", [.options ["LEFT", "ΟΔΟΣ"], .required]⟩ := by decide +kernel
  have hid : Text.sameUpToCase "ID" "id" = true :=
    Text.sameUpToCase_of_toLower_eq (by decide +kernel : _ = "id") (by decide +kernel)
  have hstreet : Text.sameUpToCase "sTREET" "street" = true :=
    Text.sameUpToCase_of_toLower_eq (by decide +kernel : _ = "street") (by decide +kernel)
  refine ⟨by decide +kernel, by decide +kernel, by decide +kernel, ?_, ?_⟩
  · simp only [streetOffers, List.forall_mem_cons, List.not_mem_nil, false_imp_iff, implies_true,
      and_true]
    exact ⟨hid, hstreet, Text.sameUpToCase_self "nowrap"⟩
  · simp only [streetOffers, List.forall_mem_cons, List.not_mem_nil, false_imp_iff, implies_true,
      and_true]
    refine ⟨.free (by decide) (by simp), ?_, .on rfl⟩
    exact .spelled hread hdescriptor List.mem_cons_self (by simp) (Text.sameUpToCase_self "ΟΔΟΣ")

theorem declarations_are_usable_street :
    streetTable.compile = .ok streetVocabulary ∧ streetCell ∈ streetVocabulary.elements ∧
      streetCell.Invites streetOffers ∧
      (new streetVocabulary .xml).answer (.render (Tag.offering "Td" streetOffers)) =
        .ok (.fragment ⟨"<td id=\"a&quot;b\" street=\"οδος\" nowrap=\"nowrap\"></td>"⟩) := by
  have hcompile : streetTable.compile = .ok streetVocabulary := by decide +kernel
  have helement : streetCell ∈ streetVocabulary.elements := by simp [streetVocabulary]
  obtain ⟨_, huse, _⟩ := declarations_are_usable hcompile helement
  have hname : Text.sameUpToCase "Td" "td" = true :=
    Text.sameUpToCase_of_toLower_eq (by decide +kernel : _ = "td") (by decide +kernel)
  obtain ⟨hrender, _⟩ :=
    huse streetOffers invites_streetOffers "Td" hname (new streetVocabulary .xml) rfl rfl
  have htext : streetCell.markup .whole (offeredPairs .xml streetOffers) "" =
      "<td id=\"a&quot;b\" street=\"οδος\" nowrap=\"nowrap\"></td>" := by decide +kernel
  refine ⟨hcompile, helement, invites_streetOffers, ?_⟩
  rw [← htext]
  exact hrender

end Session

end CheckedMarkup
