import CheckedMarkup.Proofs.Text.Letters
import CheckedMarkup.Proofs.Vocabulary.Grammar
import Mathlib.Data.List.Forall2

/-! # Markers in any order

Markers are taken in one after the other, but what they come to depends only on
which of them there are. Whether they can stand together, and what they declare,
is the same in any order, however often a marker is repeated that lists no
options, and in whichever case the options are written.
-/

namespace CheckedMarkup

open Fallible Text

/-! ## Lists of markers -/

namespace Marker

def isOptions : Marker → Bool
  | options _ => true
  | _ => false

/-- The kinds that markers ask for. -/
def kinds (markers : List Marker) : List ValueKind := markers.filterMap kind?

/-- Whether markers can stand together on one attribute. -/
structure Agree (markers : List Marker) : Prop where
  oneList : (markers.filter isOptions).length ≤ 1
  oneKind : ∀ first ∈ kinds markers, ∀ second ∈ kinds markers, first.name = second.name
  possible : ¬(required ∈ markers ∧ switch ∈ markers)

/-- Whether lists of markers differ only in their order, in repeated markers that list no options,
and in the case of the letters `A` to `Z` in options. -/
inductive Variant : List Marker → List Marker → Prop
  | perm {markers others : List Marker} (h : markers.Perm others) : Variant markers others
  | again {marker : Marker} {markers : List Marker} (hmem : marker ∈ markers)
      (hlist : marker.isOptions = false) : Variant (marker :: markers) markers
  | recased {texts others : List String} {markers : List Marker}
      (h : List.Forall₂ (fun text other => sameUpToCase text other = true) texts others) :
      Variant (options texts :: markers) (options others :: markers)
  | symm {markers others : List Marker} (h : Variant markers others) : Variant others markers
  | trans {markers others more : List Marker} (hfirst : Variant markers others)
      (hsecond : Variant others more) : Variant markers more

variable {marker : Marker} {markers others : List Marker} {kind : ValueKind}

theorem mem_kinds_iff : kind ∈ kinds markers ↔ ∃ marker ∈ markers, marker.kind? = some kind :=
  List.mem_filterMap

theorem kind?_eq_none_iff : marker.kind? = none ↔ marker = required := by
  cases marker <;> simp [kind?]

theorem switch_mem_kinds_iff : .switch ∈ kinds markers ↔ switch ∈ markers := by
  have hswitch : ∀ marker : Marker, marker.kind? = some .switch ↔ marker = switch := by
    intro marker
    cases marker <;> simp [kind?]
  simp [mem_kinds_iff, hswitch]

theorem isOptions_eq_isSome (hkind : marker.kind? = some kind) :
    marker.isOptions = kind.options?.isSome := by
  cases marker <;> simp only [kind?, Option.some.injEq, reduceCtorEq] at hkind <;> subst hkind <;>
    rfl

/-- Of the kinds that markers ask for as many have options as there are lists of options. -/
theorem length_filter_kinds (markers : List Marker) :
    ((kinds markers).filter fun kind => kind.options?.isSome).length =
      (markers.filter isOptions).length := by
  induction markers with
  | nil => rfl
  | cons marker rest ih =>
      rw [kinds] at ih ⊢
      rw [List.filterMap_cons, List.filter_cons]
      cases hkind : marker.kind? with
      | none =>
          rw [kind?_eq_none_iff.mp hkind]
          exact ih
      | some kind =>
          rw [isOptions_eq_isSome hkind, List.filter_cons]
          split
          · rw [List.length_cons, List.length_cons, ih]
          · exact ih

/-! ## What variants share -/

namespace Variant

theorem length_filter_eq (h : Variant markers others) :
    (markers.filter isOptions).length = (others.filter isOptions).length := by
  induction h with
  | perm h => exact (h.filter _).length_eq
  | again _ hlist => rw [List.filter_cons_of_neg (by simp [hlist])]
  | recased => simp [List.filter_cons, isOptions]
  | symm _ ih => exact ih.symm
  | trans _ _ ihfirst ihsecond => exact ihfirst.trans ihsecond

theorem required_mem_iff (h : Variant markers others) :
    required ∈ markers ↔ required ∈ others := by
  induction h with
  | perm h => exact h.mem_iff
  | again hmem =>
      rw [List.mem_cons, or_iff_right_of_imp]
      rintro rfl
      exact hmem
  | recased => simp
  | symm _ ih => exact ih.symm
  | trans _ _ ihfirst ihsecond => exact ihfirst.trans ihsecond

theorem mem_kinds_iff (h : Variant markers others) :
    kind ∈ kinds markers ↔ kind ∈ kinds others := by
  induction h with
  | perm h => exact (h.filterMap kind?).mem_iff
  | @again marker markers hmem =>
      simp only [Marker.mem_kinds_iff, List.exists_mem_cons_iff, or_iff_right_iff_imp]
      exact fun hkind => ⟨marker, hmem, hkind⟩
  | @recased texts others markers h =>
      have hlower : texts.map lowercase = others.map lowercase := by
        induction h with
        | nil => rfl
        | cons hsame _ ih =>
            rw [List.map_cons, List.map_cons, lowercase_eq_of_sameUpToCase hsame, ih]
      simp only [Marker.mem_kinds_iff, List.exists_mem_cons_iff, kind?, hlower]
  | symm _ ih => exact ih.symm
  | trans _ _ ihfirst ihsecond => exact ihfirst.trans ihsecond

end Variant

end Marker

/-! ## What markers come to -/

/-- Whether a kind may be named once more, by another marker. -/
def ValueKind.Tolerates (first second : ValueKind) : Prop :=
  first = second ∧ first.options? = none

theorem ValueKind.isSome_options?_eq {first second : ValueKind} (h : first.name = second.name) :
    first.options?.isSome = second.options?.isSome := by
  cases first <;> cases second <;> simp_all [name, options?]

theorem ValueKind.tolerates_iff {first second : ValueKind} :
    first.Tolerates second ↔ first.name = second.name ∧ first.options?.isSome = false := by
  constructor
  · rintro ⟨rfl, hnone⟩
    exact ⟨rfl, by rw [hnone, Option.isSome_none]⟩
  · rintro ⟨hname, hnone⟩
    have hsecond : second.options?.isSome = false := isSome_options?_eq hname ▸ hnone
    rw [Option.isSome_eq_false_iff, Option.isNone_iff_eq_none] at hnone hsecond
    exact ⟨eq_of_name_eq hname (hnone.trans hsecond.symm), hnone⟩

/-- Kinds tolerate each other just if they have one name and at most one of them has options. -/
theorem ValueKind.pairwise_tolerates_iff {kinds : List ValueKind} :
    kinds.Pairwise Tolerates ↔
      (kinds.filter fun kind => kind.options?.isSome).length ≤ 1 ∧
        ∀ first ∈ kinds, ∀ second ∈ kinds, first.name = second.name := by
  induction kinds with
  | nil => simp
  | cons kind rest ih =>
      rw [List.pairwise_cons, ih, List.filter_cons]
      simp only [tolerates_iff, List.forall_mem_cons]
      constructor
      · rintro ⟨hkind, hcount, hnames⟩
        have hsame : ∀ other ∈ rest, kind.name = other.name := fun other hother =>
          (hkind other hother).1
        refine ⟨?_, ⟨trivial, hsame⟩,
          fun first hfirst => ⟨(hsame first hfirst).symm, hnames first hfirst⟩⟩
        cases hlisted : kind.options?.isSome with
        | false => exact hcount
        | true =>
            -- a kind with options tolerates no other
            have hnone : rest = [] := by
              rw [List.eq_nil_iff_forall_not_mem]
              intro other hother
              exact absurd (hkind other hother).2 (by simp [hlisted])
            simp [hnone]
      · rintro ⟨hcount, ⟨-, hsame⟩, hnames⟩
        cases hlisted : kind.options?.isSome with
        | false =>
            rw [hlisted] at hcount
            exact ⟨fun other hother => ⟨hsame other hother, rfl⟩, hcount,
              fun first hfirst => (hnames first hfirst).2⟩
        | true =>
            -- another kind of the name would be a second one with options
            rw [hlisted, if_pos rfl, List.length_cons] at hcount
            have hnone : rest = [] := by
              rw [List.eq_nil_iff_forall_not_mem]
              intro other hother
              have hoptions := isSome_options?_eq (hsame other hother)
              have hmem : other ∈ rest.filter fun kind => kind.options?.isSome :=
                List.mem_filter.mpr ⟨hother, hoptions ▸ hlisted⟩
              have hpos := List.length_pos_of_mem hmem
              omega
            simp [hnone]

namespace Marking

variable {marking last : Marking} {marker : Marker} {markers : List Marker}
  {kind earlier : ValueKind}

theorem add_of_tolerates (hkind : marker.kind? = some kind) (hearlier : marking.kind = some earlier)
    (h : earlier.Tolerates kind) : marking.add marker = .ok marking := by
  obtain ⟨rfl, hoptions⟩ := h
  unfold add
  rw [hkind, hearlier]
  cases earlier <;> simp_all [ValueKind.options?]

theorem tolerates_of_add {next : Marking} (hkind : marker.kind? = some kind)
    (hearlier : marking.kind = some earlier) (h : marking.add marker = .ok next) :
    earlier.Tolerates kind := by
  unfold add at h
  rw [hkind, hearlier] at h
  split at h
  · simp_all
  · simp_all
  · cases h
  next hlist hfirst hsecond =>
    cases hfirst
    cases hsecond
    split at h
    next hsame =>
      subst hsame
      refine ⟨rfl, ?_⟩
      cases kind <;> simp_all [ValueKind.options?]
    · cases h

/-- Markers come to something just if no two of them ask for different kinds or for options. -/
theorem exists_foldlM_add_iff :
    (∃ last, markers.foldlM add marking = .ok last) ↔
      (marking.kind.toList ++ Marker.kinds markers).Pairwise ValueKind.Tolerates := by
  induction markers generalizing marking with
  | nil => cases hkind : marking.kind <;> simp [Marker.kinds]
  | cons marker rest ih =>
      rw [List.foldlM_cons, Marker.kinds, List.filterMap_cons]
      cases hkind : marker.kind? with
      | none =>
          have hadd : marking.add marker = .ok { marking with required := true } := by
            rw [add, hkind]
          rw [hadd, bind_ok]
          exact ih
      | some kind =>
          cases hearlier : marking.kind with
          | none =>
              have hadd : marking.add marker = .ok { marking with kind := some kind } := by
                rw [add, hkind, hearlier]
              rw [hadd, bind_ok]
              exact ih
          | some earlier =>
              by_cases htolerates : earlier.Tolerates kind
              · rw [add_of_tolerates hkind hearlier htolerates, bind_ok, ih, hearlier]
                obtain ⟨rfl, hoptions⟩ := htolerates
                simp [ValueKind.Tolerates, hoptions, Marker.kinds]
              · constructor
                · rintro ⟨last, hlast⟩
                  obtain ⟨next, hnext, _⟩ := bind_eq_ok_iff.mp hlast
                  exact absurd (tolerates_of_add hkind hearlier hnext) htolerates
                · intro hall
                  simp [htolerates] at hall

theorem required_of_foldlM (h : markers.foldlM add marking = .ok last) :
    last.required = true ↔ marking.required = true ∨ .required ∈ markers := by
  induction markers generalizing marking with
  | nil =>
      cases h
      simp
  | cons marker rest ih =>
      obtain ⟨next, hadd, hrest⟩ := bind_eq_ok_iff.mp h
      rw [ih hrest, List.mem_cons]
      rcases eq_of_add hadd with ⟨hnone, rfl⟩ | ⟨kind, hkind, rfl⟩
      · simp [Marker.kind?_eq_none_iff.mp hnone]
      · have hmarker : Marker.required ≠ marker := by
          rintro rfl
          cases hkind
        simp [hmarker]

theorem kind_eq_some_iff_of_foldlM (h : markers.foldlM add .blank = .ok last)
    (kind : ValueKind) : last.kind = some kind ↔ kind ∈ Marker.kinds markers := by
  constructor
  · revert kind
    refine foldlM_induction (fun state => ∀ kind, state.kind = some kind →
      kind ∈ Marker.kinds markers) (by simp [blank]) ?_ h
    intro marker hmarker state next hstate hadd kind hkind
    rcases eq_of_add hadd with ⟨_, rfl⟩ | ⟨added, hadded, rfl⟩
    · exact hstate kind hkind
    · cases hkind
      exact Marker.mem_kinds_iff.mpr ⟨marker, hmarker, hadded⟩
  · intro hkind
    exact kind_of_foldlM h (.inr (Marker.mem_kinds_iff.mp hkind))

/-- What markers come to is known by which markers and which kinds there are. -/
theorem foldlM_add_eq_ok_iff :
    markers.foldlM add .blank = .ok last ↔
      (Marker.kinds markers).Pairwise ValueKind.Tolerates ∧
        (last.required = true ↔ .required ∈ markers) ∧
        ∀ kind, last.kind = some kind ↔ kind ∈ Marker.kinds markers := by
  have hrequiredOf : ∀ {last : Marking}, markers.foldlM add .blank = .ok last →
      (last.required = true ↔ .required ∈ markers) := by
    intro last h
    simpa [blank] using required_of_foldlM h
  have hexists : (∃ last, markers.foldlM add .blank = .ok last) ↔
      (Marker.kinds markers).Pairwise ValueKind.Tolerates := exists_foldlM_add_iff
  constructor
  · intro h
    exact ⟨hexists.mp ⟨last, h⟩, hrequiredOf h, kind_eq_some_iff_of_foldlM h⟩
  · rintro ⟨hpairwise, hrequired, hkind⟩
    obtain ⟨found, hfound⟩ := hexists.mpr hpairwise
    have hsame : found = last := by
      obtain ⟨foundRequired, foundKind⟩ := found
      obtain ⟨lastRequired, lastKind⟩ := last
      rw [Marking.mk.injEq, Bool.eq_iff_iff]
      constructor
      · exact (hrequiredOf hfound).trans hrequired.symm
      · ext kind
        exact (kind_eq_some_iff_of_foldlM hfound kind).trans (hkind kind).symm
    rw [← hsame]
    exact hfound

end Marking

/-! ## What descriptors declare -/

namespace Descriptor

variable {descriptor other : Descriptor}

/-- A descriptor declares an attribute just if its markers agree. -/
theorem exists_resolve_eq_ok_iff :
    (∃ decl, descriptor.resolve = .ok decl) ↔ Marker.Agree descriptor.markers := by
  have hexists : (∃ marking, descriptor.markers.foldlM Marking.add .blank = .ok marking) ↔
      (descriptor.markers.filter Marker.isOptions).length ≤ 1 ∧
        ∀ first ∈ Marker.kinds descriptor.markers, ∀ second ∈ Marker.kinds descriptor.markers,
          first.name = second.name := by
    rw [← Marker.length_filter_kinds, ← ValueKind.pairwise_tolerates_iff]
    exact Marking.exists_foldlM_add_iff
  constructor
  · rintro ⟨decl, h⟩
    obtain ⟨marking, hmarking, hpossible, _⟩ := resolve_eq_ok_iff.mp h
    obtain ⟨_, hrequired, hkind⟩ := Marking.foldlM_add_eq_ok_iff.mp hmarking
    obtain ⟨hlist, hnames⟩ := hexists.mp ⟨marking, hmarking⟩
    refine ⟨hlist, hnames, ?_⟩
    rwa [← hrequired, ← Marker.switch_mem_kinds_iff, ← hkind]
  · intro h
    obtain ⟨marking, hmarking⟩ := hexists.mpr ⟨h.oneList, h.oneKind⟩
    obtain ⟨_, hrequired, hkind⟩ := Marking.foldlM_add_eq_ok_iff.mp hmarking
    refine ⟨_, resolve_eq_ok_iff.mpr ⟨marking, hmarking, ?_, rfl⟩⟩
    rw [hrequired, hkind, Marker.switch_mem_kinds_iff]
    exact h.possible

/-- Variants declare the same attribute, or none. -/
theorem resolve_eq_ok_iff_of_variant (hname : descriptor.name.toLower = other.name.toLower)
    (h : Marker.Variant descriptor.markers other.markers) {decl : AttributeDecl} :
    descriptor.resolve = .ok decl ↔ other.resolve = .ok decl := by
  have hfold : ∀ last, descriptor.markers.foldlM Marking.add .blank = .ok last ↔
      other.markers.foldlM Marking.add .blank = .ok last := by
    intro last
    simp only [Marking.foldlM_add_eq_ok_iff, ValueKind.pairwise_tolerates_iff,
      Marker.length_filter_kinds, h.length_filter_eq, h.required_mem_iff, h.mem_kinds_iff]
  simp only [resolve_eq_ok_iff, hfold, hname]

end Descriptor

/-- A written descriptor is read, and then what is wrong can only be its markers. -/
theorem AttributeDecl.read_text {descriptor : Descriptor} (h : descriptor.IsProper)
    (element : String) :
    AttributeDecl.read element descriptor.text =
      descriptor.resolve.mapError (.conflictingMarkers element descriptor.text) := by
  rw [AttributeDecl.read, h.read_text]
  cases hresolve : descriptor.resolve <;> simp [hresolve, Except.mapError]

/-- A name with markers behind it is read just if the markers agree, and is refused for a conflict
of markers otherwise. Its variants are read as the same attribute, or refused for such conflicts
too, and in every order the markers are found as they were written. -/
theorem AttributeDecl.read_disregards_order (element : String) {descriptor : Descriptor}
    (h : descriptor.IsProper) :
    ((∃ decl, AttributeDecl.read element descriptor.text = .ok decl) ↔
      Marker.Agree descriptor.markers) ∧
    ((∃ conflict, AttributeDecl.read element descriptor.text =
        .error (.conflictingMarkers element descriptor.text conflict)) ↔
      ¬Marker.Agree descriptor.markers) ∧
    (∀ other : Descriptor, other.IsProper → sameUpToCase descriptor.name other.name = true →
      Marker.Variant descriptor.markers other.markers →
      (∃ decl, AttributeDecl.read element descriptor.text = .ok decl ∧
        AttributeDecl.read element other.text = .ok decl) ∨
      ∃ conflict otherConflict,
        AttributeDecl.read element descriptor.text =
          .error (.conflictingMarkers element descriptor.text conflict) ∧
        AttributeDecl.read element other.text =
          .error (.conflictingMarkers element other.text otherConflict)) ∧
    ∀ markers, markers.Perm descriptor.markers →
      Descriptor.read (Descriptor.text ⟨descriptor.name, markers⟩) =
        .ok ⟨descriptor.name, markers⟩ := by
  refine ⟨?_, ?_, ?_, ?_⟩
  · rw [read_text h, ← Descriptor.exists_resolve_eq_ok_iff]
    cases descriptor.resolve <;> simp [Except.mapError]
  · rw [read_text h, ← Descriptor.exists_resolve_eq_ok_iff]
    cases descriptor.resolve <;> simp [Except.mapError]
  · intro other hother hname hvariant
    have hsame := @Descriptor.resolve_eq_ok_iff_of_variant _ _ (sameUpToCase_iff.mp hname) hvariant
    rw [read_text h, read_text hother]
    cases hresolve : descriptor.resolve with
    | ok decl =>
        rw [hsame.mp hresolve]
        exact .inl ⟨decl, rfl, rfl⟩
    | error conflict =>
        cases hotherResolve : other.resolve with
        | ok decl =>
            rw [hsame.mpr hotherResolve] at hresolve
            cases hresolve
        | error otherConflict => exact .inr ⟨conflict, otherConflict, rfl, rfl⟩
  · intro markers hperm
    have hproper : Descriptor.IsProper ⟨descriptor.name, markers⟩ :=
      ⟨h.name, fun marker hmarker => h.markers marker (hperm.mem_iff.mp hmarker)⟩
    exact hproper.read_text

/-- Two ways to write one attribute, with an option that ends in a sigma. -/
def sideDescriptor : Descriptor := ⟨"Side", [.required, .options ["LEFT", "ΟΔΟΣ"]]⟩

def sideVariant : Descriptor := ⟨"sIDE", [.options ["left", "ΟΔΟΣ"], .required, .required]⟩

theorem AttributeDecl.read_disregards_order_side :
    sideDescriptor.IsProper ∧ sideVariant.IsProper ∧
      sameUpToCase sideDescriptor.name sideVariant.name = true ∧
      Marker.Variant sideDescriptor.markers sideVariant.markers ∧
      AttributeDecl.read "td" "sIDE(left|ΟΔΟΣ)**" =
        .ok ⟨"side", true, .oneOf ["left", "οδος"]⟩ := by
  obtain ⟨hproper, htext⟩ := Descriptor.read_eq_ok_iff_text.mp
    (by decide +kernel : Descriptor.read "Side*(LEFT|ΟΔΟΣ)" = .ok sideDescriptor)
  obtain ⟨hvariant, hvariantText⟩ := Descriptor.read_eq_ok_iff_text.mp
    (by decide +kernel : Descriptor.read "sIDE(left|ΟΔΟΣ)**" = .ok sideVariant)
  have hname : sameUpToCase "Side" "sIDE" = true :=
    sameUpToCase_of_toLower_eq (by decide +kernel : _ = "side") (by decide +kernel)
  have hleft : sameUpToCase "LEFT" "left" = true :=
    sameUpToCase_of_toLower_eq (by decide +kernel : _ = "left") (by decide +kernel)
  have hrelated : Marker.Variant sideDescriptor.markers sideVariant.markers :=
    .trans (.perm (.swap _ _ _)) <|
      .trans (.recased (.cons hleft (.cons (sameUpToCase_self _) .nil))) <|
        .trans (.symm (.again (List.mem_cons_of_mem _ List.mem_cons_self) rfl))
          (.perm (.swap _ _ _))
  have hread : AttributeDecl.read "td" sideDescriptor.text =
      .ok ⟨"side", true, .oneOf ["left", "οδος"]⟩ := by
    rw [htext]
    decide +kernel
  refine ⟨hproper, hvariant, hname, hrelated, ?_⟩
  obtain ⟨_, _, hvariants, _⟩ := read_disregards_order "td" hproper
  rcases hvariants sideVariant hvariant hname hrelated with ⟨decl, hdecl, hother⟩ | hconflicts
  · rw [← hvariantText, hother, ← hdecl, hread]
  · obtain ⟨conflict, _, hconflict, _⟩ := hconflicts
    rw [hread] at hconflict
    cases hconflict

end CheckedMarkup
