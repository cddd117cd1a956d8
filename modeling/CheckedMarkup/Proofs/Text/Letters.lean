import CheckedMarkup.Proofs.Vocabulary.Descriptors

/-! # Letters from A to Z

The lower case of all scripts does not tell the capitals `A` to `Z` from their
small letters. For a word in small letters that no other capital has, the two
ways to disregard case are the same.
-/

namespace CheckedMarkup.Text

theorem sameUpToCase_iff {first second : String} :
    sameUpToCase first second = true ↔ first.toLower = second.toLower := by
  simp [sameUpToCase]

theorem sameUpToCase_of_toLower_eq {first second lower : String} (hfirst : first.toLower = lower)
    (hsecond : second.toLower = lower) : sameUpToCase first second = true :=
  sameUpToCase_iff.mpr (hfirst.trans hsecond.symm)

theorem sameUpToCase_comm (first second : String) :
    sameUpToCase first second = sameUpToCase second first := by
  rw [Bool.eq_iff_iff, sameUpToCase_iff, sameUpToCase_iff, eq_comm]

/-! ## One letter -/

theorem lowerChar_toLower (c : Char) : lowerChar c.toLower = lowerChar c :=
  apply_toLower (by decide +kernel) c

theorem toLower_eq_capitalSigma_iff (c : Char) : c.toLower = capitalSigma ↔ c = capitalSigma := by
  have h := apply_toLower (f := fun c => decide (c = capitalSigma)) (by decide) c
  exact decide_eq_decide.mp h

theorem casedSet_has_toLower (c : Char) : casedSet.has c.toLower = casedSet.has c :=
  apply_toLower (by decide) c

theorem caseIgnorableSet_has_toLower (c : Char) :
    caseIgnorableSet.has c.toLower = caseIgnorableSet.has c := by
  by_cases hcapital : 0x41 ≤ c.toNat ∧ c.toNat ≤ 0x5A
  · -- the set is too long to look each letter up, but no range of it meets the alphabet
    have hsmall := holds_of_capital (p := fun c => c.toLower.toNat == 0x61 + (c.toNat - 0x41))
      (by decide) hcapital
    have hcode : c.toNat = 0x41 + (c.toNat - 0x41) := by omega
    have hcovers : ∀ target, (CaseRun.mk 0x41 0x5A 1 target).covers c.toNat = true := by
      simp [CaseRun.covers, hcapital, Nat.mod_one]
    have hoffSmall : caseIgnorableSet.hasCode (0x61 + (c.toNat - 0x41)) = false :=
      has_eq_false_of_misses (by decide +kernel) (hcovers 0x61)
    have hoffCapital : caseIgnorableSet.hasCode (0x41 + (c.toNat - 0x41)) = false :=
      has_eq_false_of_misses (by decide +kernel) (hcovers 0x41)
    rw [CharSet.has, CharSet.has, beq_iff_eq.mp hsmall, hoffSmall, hcode, hoffCapital]
  · rw [toLower_of_not_capital hcapital]

/-! ## Texts -/

theorem startsCased_map_toLower (text : List Char) :
    startsCased (text.map Char.toLower) = startsCased text := by
  unfold startsCased
  induction text with
  | nil => rfl
  | cons c rest ih =>
      rw [List.map_cons, List.dropWhile_cons, List.dropWhile_cons, caseIgnorableSet_has_toLower]
      cases caseIgnorableSet.has c with
      | true => exact ih
      | false => exact casedSet_has_toLower c

theorem lowerFrom_map_toLower (before text : List Char) :
    lowerFrom (before.map Char.toLower) (text.map Char.toLower) = lowerFrom before text := by
  induction text generalizing before with
  | nil => rfl
  | cons c rest ih =>
      have hrest := ih (c :: before)
      have hsigma := toLower_eq_capitalSigma_iff c
      rw [List.map_cons] at hrest ⊢
      rw [lowerFrom, lowerFrom, hrest]
      by_cases hc : c = capitalSigma
      · rw [if_pos (hsigma.mpr hc), if_pos hc, endsWord, endsWord, startsCased_map_toLower,
          startsCased_map_toLower]
      · rw [if_neg (hc ∘ hsigma.mp), if_neg hc, lowerChar_toLower]

theorem lowercase_toLower (text : String) : lowercase text.toLower = lowercase text := by
  rw [lowercase, lowercase, toList_toLower]
  exact congrArg String.ofList (lowerFrom_map_toLower [] text.toList)

/-- Texts that differ at most in the case of the letters `A` to `Z` have one lower case. -/
theorem lowercase_eq_of_sameUpToCase {first second : String}
    (h : sameUpToCase first second = true) : lowercase first = lowercase second := by
  rw [← lowercase_toLower first, sameUpToCase_iff.mp h, lowercase_toLower]

/-! ## Narrow words -/

/-- The small letters that are in the lower case of their own capital and of no other one: the
letters `a` to `z`, apart from `i` and `k`. -/
def narrowSet : CharSet := [⟨0x61, 0x68⟩, ⟨0x6A, 0x6A⟩, ⟨0x6C, 0x7A⟩]

/-- The capitals `A` to `Z` are the first run of the table, and no other run maps to a letter of the
narrow set. -/
theorem narrowSet_has_eq_false {c : Char} (hcapital : ¬(0x41 ≤ c.toNat ∧ c.toNat ≤ 0x5A))
    {run : CaseRun} (hfind : caseRuns.find? (·.covers c.toNat) = some run) :
    narrowSet.has (Char.ofNat (run.target + (c.toNat - run.first))) = false := by
  have hcovers := List.find?_some hfind
  have hall : caseRuns.all (fun run =>
      run == ⟨0x41, 0x5A, 1, 0x61⟩ || misses narrowSet run) = true := by decide
  have hrun := List.all_eq_true.mp hall run (List.mem_of_find?_eq_some hfind)
  rw [Bool.or_eq_true, beq_iff_eq] at hrun
  rcases hrun with rfl | hmisses
  · simp only [CaseRun.covers, Bool.and_eq_true, decide_eq_true_eq] at hcovers
    exact absurd hcovers.1 hcapital
  · rcases toNat_ofNat_eq_or (run.target + (c.toNat - run.first)) with hcode | hnul
    · rw [CharSet.has, hcode]
      exact has_eq_false_of_misses hmisses hcovers
    · rw [hnul]
      decide

theorem lowerChar_eq_toLower {c : Char} (h : ∀ d ∈ lowerChar c, narrowSet.has d = true) :
    lowerChar c = [c.toLower] := by
  by_cases hcapital : 0x41 ≤ c.toNat ∧ c.toNat ≤ 0x5A
  · have hletter := holds_of_capital (p := fun c => lowerChar c == [c.toLower])
      (by decide) hcapital
    rwa [beq_iff_eq] at hletter
  · rw [toLower_of_not_capital hcapital]
    unfold lowerChar at h ⊢
    split
    next hdotted => exact absurd (h 'i' (by simp [hdotted])) (by decide)
    next hdotted =>
      cases hfind : caseRuns.find? (·.covers c.toNat) with
      | none => rfl
      | some run =>
          have hmapped := h (Char.ofNat (run.target + (c.toNat - run.first)))
            (by simp [hdotted, hfind])
          exact absurd hmapped (by simp [narrowSet_has_eq_false hcapital hfind])

/-- A text whose lower case is a word of narrow letters is that word, up to case. -/
theorem lowerFrom_eq_map_toLower {before text : List Char}
    (h : ∀ d ∈ lowerFrom before text, narrowSet.has d = true) :
    lowerFrom before text = text.map Char.toLower := by
  induction text generalizing before with
  | nil => rfl
  | cons c rest ih =>
      simp only [lowerFrom, List.forall_mem_append] at h ⊢
      obtain ⟨hfirst, hrest⟩ := h
      rw [ih hrest, List.map_cons]
      split at hfirst
      · -- a sigma is none of the letters
        have hfinal : narrowSet.has 'ς' = false := by decide
        have hmedial : narrowSet.has 'σ' = false := by decide
        split at hfirst
        · exact absurd (hfirst _ List.mem_cons_self) (by simp [hfinal])
        · exact absurd (hfirst _ List.mem_cons_self) (by simp [hmedial])
      next hsigma => rw [if_neg hsigma, lowerChar_eq_toLower hfirst, List.singleton_append]

theorem sameUpToCase_iff_of_narrow {text word : String}
    (h : word.toList.all narrowSet.has = true) (hword : lowercase word = word) :
    sameUpToCase text word = true ↔ lowercase text = word := by
  constructor
  · intro hsame
    rw [lowercase_eq_of_sameUpToCase hsame, hword]
  · intro hlower
    have hlist : lowerFrom [] text.toList = word.toList := by
      rw [← hlower, lowercase, String.toList_ofList]
    have hmap := lowerFrom_eq_map_toLower (hlist.symm ▸ List.all_eq_true.mp h)
    have htext : text.toLower = word := by
      rw [← String.toList_inj, toList_toLower, ← hmap, hlist]
    rw [← htext, sameUpToCase_comm, sameUpToCase_toLower]

/-- The type of an input field is fixed under every name that has the lower case of `type`. -/
theorem sameUpToCase_type_iff {name : String} :
    sameUpToCase name "type" = true ↔ lowercase name = "type" :=
  sameUpToCase_iff_of_narrow (by decide +kernel) (by decide +kernel)

end CheckedMarkup.Text
