import CheckedMarkup.Text.Lowercase

/-! # Lower case is final

A text that has been put into lower case stays as it is when this is done again,
in every script. Nothing that the table of letter case produces is mapped by it
once more, and without a capital sigma no place in a word matters.
-/

namespace CheckedMarkup.Text

/-! ## The narrow alphabet -/

theorem toLower_of_not_capital {c : Char} (h : ¬(0x41 ≤ c.toNat ∧ c.toNat ≤ 0x5A)) :
    c.toLower = c := by
  have hA : 'A'.val.toNat = 0x41 := rfl
  have hZ : 'Z'.val.toNat = 0x5A := rfl
  have hcode : c.toNat = c.val.toNat := rfl
  unfold Char.toLower
  rw [dif_neg]
  rw [ge_iff_le, UInt32.le_iff_toNat_le, UInt32.le_iff_toNat_le]
  omega

theorem holds_of_capital {p : Char → Bool}
    (hall : (List.range' 0x41 26).all (fun code => p (Char.ofNat code)) = true) {c : Char}
    (hcapital : 0x41 ≤ c.toNat ∧ c.toNat ≤ 0x5A) : p c = true := by
  have hcode : c.toNat ∈ List.range' 0x41 26 := by
    rw [List.mem_range'_1]
    omega
  have hletter := List.all_eq_true.mp hall c.toNat hcode
  rwa [Char.ofNat_toNat] at hletter

/-- What is alike for each capital `A` to `Z` and its small letter is alike for every character and
its narrow lower case. -/
theorem apply_toLower {β : Type} [DecidableEq β] {f : Char → β}
    (hall : (List.range' 0x41 26).all
      (fun code => decide (f (Char.ofNat code).toLower = f (Char.ofNat code))) = true) (c : Char) :
    f c.toLower = f c := by
  by_cases hcapital : 0x41 ≤ c.toNat ∧ c.toNat ≤ 0x5A
  · exact of_decide_eq_true (holds_of_capital (p := fun c => decide (f c.toLower = f c))
      hall hcapital)
  · rw [toLower_of_not_capital hcapital]

theorem toLower_toLower (text : String) : text.toLower.toLower = text.toLower := by
  have hchar : Char.toLower ∘ Char.toLower = Char.toLower := by
    funext c
    exact apply_toLower (f := Char.toLower) (by decide) c
  unfold String.toLower
  rw [String.map_map, hchar]

theorem toList_toLower (text : String) : text.toLower.toList = text.toList.map Char.toLower := by
  unfold String.toLower
  exact String.toList_map

@[simp] theorem sameUpToCase_toLower (text : String) : sameUpToCase text.toLower text = true := by
  simp [sameUpToCase, toLower_toLower]

@[simp] theorem sameUpToCase_self (text : String) : sameUpToCase text text = true := by
  simp [sameUpToCase]

/-! ## Characters that are settled -/

/-- Whether a character is its own lower-case form, wherever it stands. -/
def IsSettled (c : Char) : Prop := lowerChar c = [c] ∧ c ≠ capitalSigma

/-- The code points that a run maps. -/
def CaseRun.codes (run : CaseRun) : List Nat :=
  (List.range ((run.last - run.first) / run.step + 1)).map fun place => run.first + run.step * place

theorem CaseRun.mem_codes_of_covers {run : CaseRun} {code : Nat} (h : run.covers code = true) :
    code ∈ run.codes := by
  simp only [covers, Bool.and_eq_true, decide_eq_true_eq, beq_iff_eq] at h
  obtain ⟨⟨hfirst, hlast⟩, hstep⟩ := h
  refine List.mem_map.mpr ⟨(code - run.first) / run.step, ?_, ?_⟩
  · rw [List.mem_range, Nat.lt_succ_iff]
    exact Nat.div_le_div_right (Nat.sub_le_sub_right hlast run.first)
  · rw [Nat.mul_div_cancel' (Nat.dvd_of_mod_eq_zero hstep), Nat.add_sub_cancel' hfirst]

/-- A set of numbers, as the bits of one number. -/
def bitSet (numbers : List Nat) : Nat := numbers.foldr (fun number bits => bits ||| 1 <<< number) 0

theorem testBit_bitSet {numbers : List Nat} {number : Nat} (h : number ∈ numbers) :
    (bitSet numbers).testBit number = true := by
  induction h with
  | head rest => simp [bitSet]
  | tail other _ ih =>
      rw [bitSet, List.foldr_cons, Nat.testBit_or, Bool.or_eq_true]
      exact .inl ih

/-- All code points that the table maps, as a set of bits. -/
def caseBits : Nat := caseRuns.foldr (fun run bits => bits ||| bitSet run.codes) 0

theorem testBit_caseBits {run : CaseRun} (hrun : run ∈ caseRuns) {code : Nat}
    (hcovers : run.covers code = true) : caseBits.testBit code = true := by
  unfold caseBits
  generalize caseRuns = runs at hrun
  induction hrun with
  | head rest =>
      rw [List.foldr_cons, Nat.testBit_or, testBit_bitSet (CaseRun.mem_codes_of_covers hcovers),
        Bool.or_true]
  | tail other _ ih =>
      rw [List.foldr_cons, Nat.testBit_or, ih, Bool.true_or]

/-- No run covers what a run maps to. -/
theorem covers_target_eq_false {run other : CaseRun} (hrun : run ∈ caseRuns)
    (hother : other ∈ caseRuns) {code : Nat} (hcovers : run.covers code = true) :
    other.covers (run.target + (code - run.first)) = false := by
  -- one pass over the code points, where comparing the runs in pairs would take far longer
  have hall : caseRuns.all (fun run => run.codes.all fun code =>
      !caseBits.testBit (run.target + (code - run.first))) = true := by decide +kernel
  have hcodes := List.all_eq_true.mp hall run hrun
  have hcode := List.all_eq_true.mp hcodes code (CaseRun.mem_codes_of_covers hcovers)
  rw [Bool.eq_false_iff]
  intro hagain
  rw [testBit_caseBits hother hagain] at hcode
  cases hcode

theorem target_ne_dottedCapitalI {run : CaseRun} (hrun : run ∈ caseRuns) {code : Nat}
    (hcovers : run.covers code = true) :
    run.target + (code - run.first) ≠ dottedCapitalI.toNat := by
  have hall : caseRuns.all (fun run => Nat.blt (run.target + (run.last - run.first)) 0x130 ||
      Nat.blt 0x130 run.target) = true := by decide
  have hrun := List.all_eq_true.mp hall run hrun
  simp only [Bool.or_eq_true, Nat.blt_eq] at hrun
  simp only [CaseRun.covers, Bool.and_eq_true, decide_eq_true_eq] at hcovers
  have hcode : dottedCapitalI.toNat = 0x130 := rfl
  omega

theorem isSettled_of_not_covers {c : Char} (hdotted : c ≠ dottedCapitalI)
    (h : ∀ run ∈ caseRuns, run.covers c.toNat = false) : IsSettled c := by
  constructor
  · have hnone : caseRuns.find? (·.covers c.toNat) = none := by
      rw [List.find?_eq_none]
      intro run hrun
      simp [h run hrun]
    simp only [lowerChar, hdotted, if_false, hnone]
  · rintro rfl
    have hsigma : caseRuns.any (·.covers capitalSigma.toNat) = true := by decide
    obtain ⟨run, hrun, hcovers⟩ := List.any_eq_true.mp hsigma
    simp [h run hrun] at hcovers

theorem toNat_ofNat_eq_or (code : Nat) :
    (Char.ofNat code).toNat = code ∨ Char.ofNat code = '\x00' := by
  unfold Char.ofNat
  by_cases hvalid : code.isValidChar
  · rw [dif_pos hvalid]
    exact .inl rfl
  · rw [dif_neg hvalid]
    exact .inr rfl

theorem isSettled_nul : IsSettled '\x00' := by
  refine isSettled_of_not_covers (by decide) fun run hrun => ?_
  have hall : caseRuns.all (fun run => !run.covers '\x00'.toNat) = true := by decide
  simpa using List.all_eq_true.mp hall run hrun

theorem isSettled_of_mem_lowerChar {c d : Char} (hd : d ∈ lowerChar c) (hc : c ≠ capitalSigma) :
    IsSettled d := by
  unfold lowerChar at hd
  split at hd
  · have hdot : d = 'i' ∨ d = '\u0307' := by simpa using hd
    rcases hdot with rfl | rfl <;> exact ⟨by decide, by decide⟩
  next hdotted =>
    split at hd
    next run hfind =>
      have hrun := List.mem_of_find?_eq_some hfind
      have hcovers := List.find?_some hfind
      rw [List.mem_singleton] at hd
      subst hd
      rcases toNat_ofNat_eq_or (run.target + (c.toNat - run.first)) with hcode | hnul
      · refine isSettled_of_not_covers ?_ fun other hother => ?_
        · intro heq
          exact target_ne_dottedCapitalI hrun hcovers (by rw [← hcode, heq])
        · rw [hcode]
          exact covers_target_eq_false hrun hother hcovers
      · rw [hnul]
        exact isSettled_nul
    next hfind =>
      rw [List.mem_singleton] at hd
      subst hd
      refine ⟨?_, hc⟩
      simp only [lowerChar, hdotted, if_false, hfind]

/-! ## Texts -/

/-- Of a text in lower case every character is settled, the two small sigmas included. -/
theorem isSettled_of_mem_lowerFrom {before text : List Char} {d : Char}
    (hd : d ∈ lowerFrom before text) : IsSettled d := by
  induction text generalizing before with
  | nil => simp [lowerFrom] at hd
  | cons c rest ih =>
      simp only [lowerFrom, List.mem_append] at hd
      rcases hd with hd | hd
      · split at hd
        · have hsmall : d = 'ς' ∨ d = 'σ' := by
            rw [List.mem_singleton] at hd
            subst hd
            split
            · exact .inl rfl
            · exact .inr rfl
          rcases hsmall with rfl | rfl <;> exact ⟨by decide, by decide⟩
        next hc => exact isSettled_of_mem_lowerChar hd hc
      · exact ih hd

theorem lowerFrom_eq_self {before text : List Char} (h : ∀ c ∈ text, IsSettled c) :
    lowerFrom before text = text := by
  induction text generalizing before with
  | nil => rfl
  | cons c rest ih =>
      obtain ⟨hlower, hsigma⟩ := h c List.mem_cons_self
      rw [lowerFrom, if_neg hsigma, hlower, ih fun d hd => h d (List.mem_cons_of_mem _ hd)]
      rfl

/-- Putting a text into lower case twice does no more than doing it once. -/
theorem lowercase_lowercase (text : String) : lowercase (lowercase text) = lowercase text := by
  have hsettled : ∀ c ∈ (lowercase text).toList, IsSettled c := by
    intro c hc
    rw [lowercase, String.toList_ofList] at hc
    exact isSettled_of_mem_lowerFrom hc
  rw [lowercase, lowerFrom_eq_self hsettled, String.ofList_toList]

/-! ## What lower case keeps -/

theorem lowerChar_ne_nil (c : Char) : lowerChar c ≠ [] := by
  unfold lowerChar
  split
  · simp
  · split <;> simp

theorem lowercase_ne_empty {text : String} (h : text ≠ "") : lowercase text ≠ "" := by
  intro hempty
  have hlist : lowerFrom [] text.toList = [] := by
    rw [lowercase] at hempty
    simpa using congrArg String.toList hempty
  cases htext : text.toList with
  | nil => exact h (by simpa using htext)
  | cons c rest =>
      rw [htext, lowerFrom, List.append_eq_nil_iff] at hlist
      have hfirst := hlist.1
      split at hfirst
      · simp at hfirst
      · exact lowerChar_ne_nil c hfirst

/-- What holds of all that the table of letter case produces, and of the special forms, is kept. -/
theorem forall_mem_lowerFrom {p : Char → Bool}
    (hruns : ∀ run ∈ caseRuns, ∀ code, run.covers code = true →
      p (Char.ofNat (run.target + (code - run.first))) = true)
    (hspecial : ['i', '\u0307', 'ς', 'σ'].all p = true) {before text : List Char}
    (htext : ∀ c ∈ text, p c = true) : ∀ d ∈ lowerFrom before text, p d = true := by
  simp only [List.all_cons, List.all_nil, Bool.and_true, Bool.and_eq_true] at hspecial
  obtain ⟨hi, hdot, hfinal, hsmall⟩ := hspecial
  induction text generalizing before with
  | nil => simp [lowerFrom]
  | cons c rest ih =>
      intro d hd
      simp only [lowerFrom, List.mem_append] at hd
      rcases hd with hd | hd
      · split at hd
        · rw [List.mem_singleton] at hd
          subst hd
          split
          · exact hfinal
          · exact hsmall
        · unfold lowerChar at hd
          split at hd
          · have hpart : d = 'i' ∨ d = '\u0307' := by simpa using hd
            rcases hpart with rfl | rfl
            · exact hi
            · exact hdot
          · split at hd
            next run hfind =>
              have hcovers := List.find?_some hfind
              rw [List.mem_singleton] at hd
              subst hd
              exact hruns run (List.mem_of_find?_eq_some hfind) _ hcovers
            · rw [List.mem_singleton] at hd
              subst hd
              exact htext d List.mem_cons_self
      · exact ih (fun e he => htext e (List.mem_cons_of_mem _ he)) d hd

end CheckedMarkup.Text
