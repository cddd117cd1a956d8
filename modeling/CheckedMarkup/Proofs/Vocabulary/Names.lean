import CheckedMarkup.Proofs.Vocabulary.Compiling
import CheckedMarkup.Proofs.Vocabulary.Descriptors
import CheckedMarkup.Proofs.Vocabulary.Entries

/-! # Names in a vocabulary

Every element of a compiled vocabulary has a proper name in lower case, and so
has every attribute. Such a name is the same in the narrow alphabet and in the
lower case of all scripts.
-/

namespace CheckedMarkup

open Text

/-! ## The characters of names -/

theorem toNat_lt_of_isNameChar {c : Char} (h : isNameChar c = true) : c.toNat < 0x80 := by
  simp only [isNameChar, Bool.or_eq_true, decide_eq_true_eq] at h
  rcases h with ((((h | rfl) | rfl) | rfl) | rfl)
  · unfold Char.isAlphanum Char.isAlpha Char.isUpper Char.isLower Char.isDigit at h
    simp only [Bool.or_eq_true, Bool.and_eq_true, decide_eq_true_eq, ge_iff_le,
      UInt32.le_iff_toNat_le] at h
    have hcode : c.toNat = c.val.toNat := rfl
    have hZ : 'Z'.val.toNat = 0x5A := rfl
    have hz : 'z'.val.toNat = 0x7A := rfl
    have hnine : '9'.val.toNat = 0x39 := rfl
    omega
  all_goals decide

theorem holds_of_isNameChar {p : Char → Bool}
    (hall : (List.range 0x80).all (fun code => p (Char.ofNat code)) = true) {c : Char}
    (hc : isNameChar c = true) : p c = true := by
  have hcode := List.all_eq_true.mp hall c.toNat (List.mem_range.mpr (toNat_lt_of_isNameChar hc))
  rwa [Char.ofNat_toNat] at hcode

theorem isNameChar_toLower {c : Char} (hc : isNameChar c = true) :
    isNameChar c.toLower = true := by
  have h := holds_of_isNameChar (p := fun c => !isNameChar c || isNameChar c.toLower)
    (by decide +kernel) hc
  simpa [hc] using h

theorem isSettled_of_isNameChar {c : Char} (hc : isNameChar c = true) (hlower : c.toLower = c) :
    IsSettled c := by
  constructor
  · have h := holds_of_isNameChar
      (p := fun c => !isNameChar c || c.toLower != c || lowerChar c == [c]) (by decide +kernel) hc
    simpa [hc, hlower] using h
  · rintro rfl
    exact absurd hc (by decide)

/-! ## Names in lower case -/

/-- A proper name in which no letter is a capital. -/
structure IsLowerName (name : String) : Prop where
  proper : isName name = true
  lower : name.toLower = name

theorem isName_toLower {name : String} (h : isName name = true) : isName name.toLower = true := by
  simp only [isName, Bool.and_eq_true, Bool.not_eq_true', String.isEmpty_eq_false_iff,
    List.all_eq_true] at h ⊢
  obtain ⟨hne, hall⟩ := h
  refine ⟨?_, ?_⟩
  · unfold String.toLower
    simpa [String.map_eq_empty] using hne
  · intro c hc
    rw [toList_toLower, List.mem_map] at hc
    obtain ⟨d, hd, rfl⟩ := hc
    exact isNameChar_toLower (hall d hd)

theorem isLowerName_toLower {name : String} (h : isName name = true) :
    IsLowerName name.toLower :=
  ⟨isName_toLower h, toLower_toLower name⟩

namespace IsLowerName

variable {name : String}

theorem isNameChar_of_mem (h : IsLowerName name) {c : Char} (hc : c ∈ name.toList) :
    isNameChar c = true := by
  have hproper := h.proper
  simp only [isName, Bool.and_eq_true, List.all_eq_true] at hproper
  exact hproper.2 c hc

theorem toLower_of_mem (h : IsLowerName name) {c : Char} (hc : c ∈ name.toList) :
    c.toLower = c := by
  have hlower := congrArg String.toList h.lower
  rw [toList_toLower] at hlower
  exact List.map_inj_left.mp (hlower.trans (List.map_id _).symm) c hc

theorem ne_empty (h : IsLowerName name) : name ≠ "" := by
  rintro rfl
  exact absurd h.proper (by decide)

theorem isUpper_of_mem (h : IsLowerName name) {c : Char} (hc : c ∈ name.toList) :
    c.isUpper = false := by
  have hupper := holds_of_isNameChar (p := fun c => c.toLower != c || !c.isUpper)
    (by decide +kernel) (h.isNameChar_of_mem hc)
  simpa [h.toLower_of_mem hc] using hupper

theorem lowercase_eq (h : IsLowerName name) : lowercase name = name := by
  have hsettled : ∀ c ∈ name.toList, IsSettled c := fun c hc =>
    isSettled_of_isNameChar (h.isNameChar_of_mem hc) (h.toLower_of_mem hc)
  rw [lowercase, lowerFrom_eq_self hsettled, String.ofList_toList]

end IsLowerName

/-! ## What is compiled -/

theorem AttributeDecl.isLowerName_of_read {element token : String} {decl : AttributeDecl}
    (h : AttributeDecl.read element token = .ok decl) : IsLowerName decl.name := by
  obtain ⟨descriptor, hread, hresolve⟩ := AttributeDecl.read_eq_ok_iff.mp h
  obtain ⟨_, _, _, rfl⟩ := Descriptor.resolve_eq_ok_iff.mp hresolve
  exact isLowerName_toLower (isName_of_read hread)

/-- Every name that a declaration introduces is proper and in lower case. -/
structure ElementDecl.IsNamed (element : ElementDecl) : Prop where
  name : IsLowerName element.name
  attributes : ∀ decl ∈ element.attributes, IsLowerName decl.name

theorem ElementDecl.isNamed_of_compile {groups : Groups} {name shorthand : String}
    {element : ElementDecl} (h : ElementDecl.compile groups name shorthand = .ok element) :
    element.IsNamed := by
  constructor
  · rw [name_of_compile h]
    exact isLowerName_toLower (isName_of_compile h)
  · intro decl hdecl
    obtain ⟨token, hread⟩ := exists_read_of_compile h hdecl
    exact AttributeDecl.isLowerName_of_read hread

/-- Whether the names of all elements and of all attributes are lower names. -/
def Vocabulary.IsNamed (vocabulary : Vocabulary) : Prop :=
  ∀ element ∈ vocabulary.elements, element.IsNamed

/-- The elements of a compiled vocabulary and their attributes have proper names in lower case. -/
theorem Vocabulary.isNamed_of_compile {table : Table} {vocabulary : Vocabulary}
    (h : table.compile = .ok vocabulary) : vocabulary.IsNamed := by
  intro element helement
  obtain ⟨entry, _, hdeclare⟩ := Table.exists_declare_of_mem h helement
  exact ElementDecl.isNamed_of_compile hdeclare

/-- Where all names are in lower case, whatever a lookup finds it finds in lower case. -/
theorem Vocabulary.IsNamed.find?_eq {vocabulary : Vocabulary} (h : vocabulary.IsNamed)
    (name : String) :
    vocabulary.find? name = Keyed.find? ElementDecl.name name.toLower vocabulary.elements := by
  unfold find?
  cases hexact : Keyed.find? ElementDecl.name name vocabulary.elements with
  | none => rfl
  | some element =>
      obtain rfl := Keyed.key_eq_of_find? hexact
      rw [(h element (Keyed.mem_of_find? hexact)).name.lower]
      exact hexact.symm

theorem Vocabulary.find?_eq_of_compile {table : Table} {vocabulary : Vocabulary}
    (h : table.compile = .ok vocabulary) (name : String) :
    vocabulary.find? name = Keyed.find? ElementDecl.name name.toLower vocabulary.elements :=
  (isNamed_of_compile h).find?_eq name

theorem Vocabulary.IsNamed.name_of_find? {vocabulary : Vocabulary} (h : vocabulary.IsNamed)
    {name : String} {element : ElementDecl} (hfind : vocabulary.find? name = some element) :
    element.name = name.toLower :=
  Keyed.key_eq_of_find? (h.find?_eq name ▸ hfind)

end CheckedMarkup
