import CheckedMarkup.Proofs.Fallible
import CheckedMarkup.Proofs.Text.LowerCase
import CheckedMarkup.Proofs.Text.Words
import CheckedMarkup.Vocabulary.Groups

/-! # What descriptors say

The markers of a descriptor are read back from their texts, and only such texts
are read as markers. What an attribute then allows is proper: its options are
texts in lower case that an option list can hold, and it is not a switch that
every use has to give.
-/

namespace CheckedMarkup

open Fallible Text

/-! ## Options -/

/-- A text that an option list can hold. -/
structure IsOption (text : String) : Prop where
  nonempty : text ≠ ""
  plain : ∀ c ∈ text.toList, isOptionChar c = true

theorem isOptionChar_iff {c : Char} :
    isOptionChar c = true ↔ isBlank c = false ∧ c ≠ '(' ∧ c ≠ ')' ∧ c ≠ '|' := by
  simp [isOptionChar, and_assoc]

theorem splitOptions?_eq_some_iff {inside : List Char} {texts : List String} :
    splitOptions? inside = some texts ↔
      texts ≠ [] ∧ (∀ text ∈ texts, IsOption text) ∧
        inside = ['|'].intercalate (texts.map String.toList) := by
  constructor
  · intro h
    simp only [splitOptions?] at h
    split at h
    next hall =>
      rw [Option.some.injEq] at h
      subst h
      refine ⟨by simpa using fields_ne_nil _ inside, ?_, ?_⟩
      · intro text htext
        obtain ⟨part, hpart, rfl⟩ := List.mem_map.mp htext
        have hproper := List.all_eq_true.mp hall part hpart
        simp only [Bool.and_eq_true, Bool.not_eq_true', List.isEmpty_eq_false_iff,
          List.all_eq_true] at hproper
        exact ⟨by simpa using hproper.1, by simpa using hproper.2⟩
      · simpa [Function.comp_def] using (intercalate_fields '|' inside).symm
    · cases h
  · rintro ⟨hne, hoptions, rfl⟩
    have hparts : fields (· == '|') (['|'].intercalate (texts.map String.toList)) =
        texts.map String.toList := by
      apply fields_intercalate (by simpa using hne) ?_ (by rfl)
      intro part hpart c hc
      obtain ⟨text, htext, rfl⟩ := List.mem_map.mp hpart
      simpa using (isOptionChar_iff.mp ((hoptions text htext).plain c hc)).2.2.2
    have hall : (texts.map String.toList).all (fun part =>
        !part.isEmpty && part.all isOptionChar) = true := by
      rw [List.all_eq_true]
      intro part hpart
      obtain ⟨text, htext, rfl⟩ := List.mem_map.mp hpart
      simpa using ⟨(hoptions text htext).nonempty, (hoptions text htext).plain⟩
    rw [splitOptions?, hparts]
    simp only [hall, if_true, List.map_map]
    simp [Function.comp_def]

/-- Whether no character that the run maps to is in a set. -/
def misses (set : CharSet) (run : CaseRun) : Bool :=
  set.all fun range => Nat.blt (run.target + (run.last - run.first)) range.first ||
    Nat.blt range.last run.target

theorem has_eq_false_of_misses {set : CharSet} {run : CaseRun} (hmisses : misses set run = true)
    {code : Nat} (hcovers : run.covers code = true) :
    set.hasCode (run.target + (code - run.first)) = false := by
  simp only [CaseRun.covers, Bool.and_eq_true, decide_eq_true_eq] at hcovers
  rw [Bool.eq_false_iff]
  intro hhas
  obtain ⟨range, hrange, hin⟩ := List.any_eq_true.mp hhas
  have hout := List.all_eq_true.mp hmisses range hrange
  simp only [Bool.and_eq_true, decide_eq_true_eq] at hin
  simp only [Bool.or_eq_true, Nat.blt_eq] at hout
  omega

/-- The characters that no option has: the marks of option lists, and blanks. -/
def optionBreaks : CharSet := ⟨0x28, 0x29⟩ :: ⟨0x7C, 0x7C⟩ :: blankSet

theorem isOptionChar_of_not_hasCode {c : Char} (h : optionBreaks.hasCode c.toNat = false) :
    isOptionChar c = true := by
  rw [isOptionChar_iff]
  simp only [optionBreaks, CharSet.hasCode, List.any_cons, Bool.or_eq_false_iff] at h
  obtain ⟨hround, hbar, hblank⟩ := h
  refine ⟨hblank, ?_, ?_, ?_⟩
  · rintro rfl
    exact absurd hround (by decide)
  · rintro rfl
    exact absurd hround (by decide)
  · rintro rfl
    exact absurd hbar (by decide)

/-- The lower-case form of an option is an option: no letter becomes a blank or a mark. -/
theorem IsOption.lowercase {text : String} (h : IsOption text) : IsOption (lowercase text) := by
  refine ⟨lowercase_ne_empty h.nonempty, ?_⟩
  rw [Text.lowercase, String.toList_ofList]
  apply forall_mem_lowerFrom ?_ (by decide) h.plain
  intro run hrun code hcovers
  rcases toNat_ofNat_eq_or (run.target + (code - run.first)) with hcode | hnul
  · have hall : caseRuns.all (misses optionBreaks) = true := by decide +kernel
    apply isOptionChar_of_not_hasCode
    rw [hcode]
    exact has_eq_false_of_misses (List.all_eq_true.mp hall run hrun) hcovers
  · rw [hnul]
    decide

/-! ## Markers and their texts -/

namespace Marker

def text : Marker → List Char
  | required => ['*']
  | switch => ['?']
  | contentType => ['/', 't']
  | charset => ['/', 'c']
  | script => ['/', 'j']
  | uri => ['/']
  | options texts => '(' :: ['|'].intercalate (texts.map String.toList) ++ [')']

/-- Whether a marker can be written: every option list has options that it can hold. -/
def IsProper : Marker → Prop
  | options texts => texts ≠ [] ∧ ∀ text ∈ texts, IsOption text
  | required | switch | contentType | charset | script | uri => True

/-- Whether a text does not make an address slash before it into another marker. -/
def KeepsSlash (rest : List Char) : Prop := ∀ c ∈ rest.head?, c ≠ 't' ∧ c ≠ 'c' ∧ c ≠ 'j'

theorem keepsSlash_text (marker : Marker) (rest : List Char) :
    KeepsSlash (marker.text ++ rest) := by
  cases marker <;> simp [KeepsSlash, text]

theorem read?_text_append {marker : Marker} (hproper : marker.IsProper) {rest : List Char}
    (hrest : marker = .uri → KeepsSlash rest) :
    read? (marker.text ++ rest) = some (marker, rest) := by
  cases marker with
  | required | switch | contentType | charset | script => rfl
  | uri =>
      cases rest with
      | nil => rfl
      | cons c rest =>
          obtain ⟨ht, hc, hj⟩ := hrest rfl c rfl
          unfold read?
          split <;> simp_all [text]
  | options texts =>
      obtain ⟨hne, hoptions⟩ := hproper
      have hinside : ∀ c ∈ ['|'].intercalate (texts.map String.toList), (c != ')') = true := by
        intro c hc
        rcases eq_or_mem_of_mem_intercalate hc with rfl | ⟨part, hpart, hc⟩
        · rfl
        · obtain ⟨text, htext, rfl⟩ := List.mem_map.mp hpart
          simpa using (isOptionChar_iff.mp ((hoptions text htext).plain c hc)).2.2.1
      have hsplit := splitOptions?_eq_some_iff.mpr ⟨hne, hoptions, rfl⟩
      simp only [text, List.cons_append, List.append_assoc, read?,
        List.dropWhile_append_of_pos hinside, List.takeWhile_append_of_pos hinside]
      simp [hsplit]

/-- Only the texts of proper markers are read as markers. -/
theorem isProper_of_read? {marker : Marker} {given rest : List Char}
    (h : read? given = some (marker, rest)) : marker.IsProper := by
  unfold read? at h
  split at h
  case h_7 inside =>
    split at h
    · cases h
    · obtain ⟨texts, hsplit, heq⟩ := Option.map_eq_some_iff.mp h
      cases heq
      obtain ⟨hne, hoptions, _⟩ := splitOptions?_eq_some_iff.mp hsplit
      exact ⟨hne, hoptions⟩
  case h_8 => cases h
  all_goals
    cases h
    trivial

theorem readAll_of_read?_eq_none {given : List Char} (h : read? given = none) :
    readAll given = ([], given) := by
  rw [readAll]
  split
  · rfl
  next hsome => simp [h] at hsome

theorem readAll_of_read?_eq_some {given rest : List Char} {marker : Marker}
    (h : read? given = some (marker, rest)) :
    readAll given = (marker :: (readAll rest).1, (readAll rest).2) := by
  rw [readAll]
  split
  next hnone => simp [h] at hnone
  next first others hsome =>
    rw [h, Option.some.injEq, Prod.mk.injEq] at hsome
    obtain ⟨rfl, rfl⟩ := hsome
    rfl

/-- Markers are found again in their texts, one after the other. -/
theorem readAll_flatMap_text {markers : List Marker} (h : ∀ marker ∈ markers, marker.IsProper) :
    readAll (markers.flatMap text) = (markers, []) := by
  induction markers with
  | nil => exact readAll_of_read?_eq_none rfl
  | cons marker rest ih =>
      have hkeeps : KeepsSlash (rest.flatMap text) := by
        cases rest with
        | nil => simp [KeepsSlash]
        | cons next others =>
            rw [List.flatMap_cons]
            exact keepsSlash_text next _
      have hread := read?_text_append (h marker List.mem_cons_self) fun _ => hkeeps
      rw [List.flatMap_cons, readAll_of_read?_eq_some hread,
        ih fun other hother => h other (List.mem_cons_of_mem _ hother)]

theorem isProper_of_mem_readAll {given : List Char} {marker : Marker}
    (h : marker ∈ (readAll given).1) : marker.IsProper := by
  induction given using readAll.induct with
  | case1 given hnone =>
      rw [readAll_of_read?_eq_none hnone] at h
      cases h
  | case2 given first rest hsome _ _ _ _ ih =>
      rw [readAll_of_read?_eq_some hsome] at h
      rcases List.mem_cons.mp h with rfl | hrest
      · exact isProper_of_read? hsome
      · exact ih hrest

end Marker

/-! ## What is declared -/

/-- Whether a kind can be declared: its options are options in lower case, and there are some. -/
def ValueKind.IsProper (kind : ValueKind) : Prop :=
  ∀ options, kind = .oneOf options →
    options ≠ [] ∧ ∀ option ∈ options, IsOption option ∧ lowercase option = option

theorem Marker.IsProper.kind {marker : Marker} (h : marker.IsProper) {kind : ValueKind}
    (hkind : marker.kind? = some kind) : kind.IsProper := by
  intro options heq
  subst heq
  cases marker with
  | options texts =>
      simp only [kind?, Option.some.injEq, ValueKind.oneOf.injEq] at hkind
      subst hkind
      refine ⟨by simpa using h.1, ?_⟩
      intro option hoption
      obtain ⟨text, htext, rfl⟩ := List.mem_map.mp hoption
      exact ⟨(h.2 text htext).lowercase, lowercase_lowercase text⟩
  | required | switch | contentType | charset | script | uri => cases hkind

theorem Marking.eq_of_add {marking next : Marking} {marker : Marker}
    (h : marking.add marker = .ok next) :
    (marker.kind? = none ∧ next = { marking with required := true }) ∨
      (∃ kind, marker.kind? = some kind ∧ next = { marking with kind := some kind }) := by
  unfold Marking.add at h
  split at h
  next hnone => exact .inl ⟨hnone, (Except.ok.inj h).symm⟩
  next kind hkind _ => exact .inr ⟨kind, hkind, (Except.ok.inj h).symm⟩
  · cases h
  next kind earlier _ hkind hearlier =>
    split at h
    next hsame =>
      refine .inr ⟨kind, hkind, ?_⟩
      rw [hsame, ← hearlier]
      exact (Except.ok.inj h).symm
    · cases h

/-- A kind that is set stays as it is. -/
theorem Marking.kind_of_add {marking next : Marking} {marker : Marker}
    (h : marking.add marker = .ok next) {kind : ValueKind} (hkind : marking.kind = some kind) :
    next.kind = some kind := by
  unfold Marking.add at h
  rw [hkind] at h
  split at h
  · cases h
    rfl
  next hnone => cases hnone
  · cases h
  next hearlier =>
    cases hearlier
    split at h
    · cases h
      exact hkind
    · cases h

/-- The kind that some markers come to is the one that each of them asks for, if it asks for one. -/
theorem Marking.kind_of_foldlM {markers : List Marker} {marking last : Marking}
    (h : markers.foldlM Marking.add marking = .ok last) {kind : ValueKind}
    (hkind : marking.kind = some kind ∨ ∃ marker ∈ markers, marker.kind? = some kind) :
    last.kind = some kind := by
  induction markers generalizing marking with
  | nil =>
      cases h
      simpa using hkind
  | cons marker rest ih =>
      rw [List.foldlM_cons, bind_eq_ok_iff] at h
      obtain ⟨next, hadd, hrest⟩ := h
      apply ih hrest
      rcases hkind with hset | ⟨asking, hasking, hasked⟩
      · exact .inl (kind_of_add hadd hset)
      · rcases List.mem_cons.mp hasking with rfl | hlater
        · rcases eq_of_add hadd with ⟨hnone, _⟩ | ⟨added, hadded, rfl⟩
          · cases hnone.symm.trans hasked
          · exact .inl (hadded.symm.trans hasked)
        · exact .inr ⟨asking, hlater, hasked⟩

/-- A descriptor declares what its markers come to, unless that is a switch which is required. -/
theorem Descriptor.resolve_eq_ok_iff {descriptor : Descriptor} {decl : AttributeDecl} :
    descriptor.resolve = .ok decl ↔
      ∃ marking, descriptor.markers.foldlM Marking.add .blank = .ok marking ∧
        ¬(marking.required = true ∧ marking.kind = some .switch) ∧
        decl = ⟨descriptor.name.toLower, marking.required, marking.kind.getD .plain⟩ := by
  have hswitch : ∀ kind : Option ValueKind, kind.getD .plain = .switch ↔ kind = some .switch := by
    intro kind
    cases kind <;> simp
  simp only [resolve, bind_eq_ok_iff, Bool.and_eq_true, decide_eq_true_eq, hswitch]
  constructor
  · rintro ⟨marking, hmarking, h⟩
    split at h
    · cases h
    next hpossible => exact ⟨marking, hmarking, hpossible, (Except.ok.inj h).symm⟩
  · rintro ⟨marking, hmarking, hpossible, rfl⟩
    exact ⟨marking, hmarking, by rw [if_neg hpossible]; rfl⟩

theorem Descriptor.read_eq_ok_iff {token : String} {descriptor : Descriptor} :
    Descriptor.read token = .ok descriptor ↔
      descriptor.name.toList = token.toList.takeWhile isNameChar ∧ descriptor.name ≠ "" ∧
        Marker.readAll (token.toList.dropWhile isNameChar) = (descriptor.markers, []) := by
  have hempty : token.toList.takeWhile isNameChar = [] ↔
      String.ofList (token.toList.takeWhile isNameChar) = "" := by simp
  simp only [Descriptor.read, List.isEmpty_iff]
  constructor
  · intro h
    split at h
    · cases h
    next hname =>
      split at h
      next hrest =>
        cases h
        refine ⟨by simp, fun heq => hname (hempty.mpr heq), ?_⟩
        exact Prod.ext rfl hrest
      · cases h
  · rintro ⟨hname, hne, hall⟩
    rw [hall, ← hname]
    simp [hne]

theorem AttributeDecl.read_eq_ok_iff {element token : String} {decl : AttributeDecl} :
    AttributeDecl.read element token = .ok decl ↔
      ∃ descriptor, Descriptor.read token = .ok descriptor ∧ descriptor.resolve = .ok decl := by
  unfold AttributeDecl.read
  cases Descriptor.read token with
  | error fault => simp
  | ok descriptor => cases hresolve : descriptor.resolve <;> simp [hresolve]

/-- The options that a token writes are the ones that it declares, in lower case. -/
theorem kind_of_read_of_options {element token : String} {decl : AttributeDecl}
    (h : AttributeDecl.read element token = .ok decl) {descriptor : Descriptor}
    (hdescriptor : Descriptor.read token = .ok descriptor) {texts : List String}
    (htexts : .options texts ∈ descriptor.markers) :
    decl.kind = .oneOf (texts.map lowercase) := by
  obtain ⟨other, hother, hresolve⟩ := AttributeDecl.read_eq_ok_iff.mp h
  cases hdescriptor.symm.trans hother
  obtain ⟨marking, hmarking, _, rfl⟩ := Descriptor.resolve_eq_ok_iff.mp hresolve
  have hkind : marking.kind = some (.oneOf (texts.map lowercase)) :=
    Marking.kind_of_foldlM hmarking (.inr ⟨_, htexts, rfl⟩)
  simp only [hkind, Option.getD_some]

theorem isName_of_read {token : String} {descriptor : Descriptor}
    (h : Descriptor.read token = .ok descriptor) : isName descriptor.name = true := by
  obtain ⟨hname, hne, _⟩ := Descriptor.read_eq_ok_iff.mp h
  simp only [isName, Bool.and_eq_true, Bool.not_eq_true', String.isEmpty_eq_false_iff]
  refine ⟨hne, ?_⟩
  rw [hname]
  exact List.all_takeWhile

theorem isProper_kind_of_read {element token : String} {decl : AttributeDecl}
    (h : AttributeDecl.read element token = .ok decl) : decl.kind.IsProper := by
  obtain ⟨descriptor, hread, hresolve⟩ := AttributeDecl.read_eq_ok_iff.mp h
  obtain ⟨_, _, hmarkers⟩ := Descriptor.read_eq_ok_iff.mp hread
  obtain ⟨marking, hmarking, _, rfl⟩ := Descriptor.resolve_eq_ok_iff.mp hresolve
  have hproper : ∀ kind, marking.kind = some kind → kind.IsProper := by
    refine foldlM_induction (fun state => ∀ kind, state.kind = some kind → kind.IsProper)
      (by simp [Marking.blank]) ?_ hmarking
    intro marker hmarker state next hstate hadd kind hkind
    rcases Marking.eq_of_add hadd with ⟨_, rfl⟩ | ⟨added, hadded, rfl⟩
    · exact hstate kind hkind
    · cases hkind
      have hmem : marker ∈ (Marker.readAll (token.toList.dropWhile isNameChar)).1 := by
        rw [hmarkers]
        exact hmarker
      exact (Marker.isProper_of_mem_readAll hmem).kind hadded
  cases hkind : marking.kind with
  | none => simp [ValueKind.IsProper]
  | some kind => exact hproper kind hkind

theorem not_required_switch_of_read {element token : String} {decl : AttributeDecl}
    (h : AttributeDecl.read element token = .ok decl) :
    ¬(decl.required = true ∧ decl.kind = .switch) := by
  obtain ⟨descriptor, _, hresolve⟩ := AttributeDecl.read_eq_ok_iff.mp h
  obtain ⟨marking, _, hpossible, rfl⟩ := Descriptor.resolve_eq_ok_iff.mp hresolve
  rintro ⟨hrequired, hkind⟩
  refine hpossible ⟨hrequired, ?_⟩
  cases hmarking : marking.kind with
  | none => simp [hmarking] at hkind
  | some kind => simpa [hmarking] using hkind

end CheckedMarkup
