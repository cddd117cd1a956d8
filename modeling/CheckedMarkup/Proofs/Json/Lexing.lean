import CheckedMarkup.Proofs.Json.Spelling
import CheckedMarkup.Proofs.Text.LowerCase
import Mathlib.Data.List.Chain

/-! # Every spelling is read

The automaton that cuts a document into tokens finds the tokens that the
document spells. It goes through each spelling by itself, whatever comes after.
Only a number needs to know what does: it has no end of its own.
-/

namespace CheckedMarkup.Json

/-! ## Units and texts -/

theorem toNat_range (c : Char) :
    c.toNat < 0xD800 ∨ 0xDFFF < c.toNat ∧ c.toNat < 0x110000 :=
  c.valid

theorem not_isSurrogate (c : Char) :
    (isHighSurrogate c.toNat || isLowSurrogate c.toNat) = false := by
  have hrange := toNat_range c
  simp only [isHighSurrogate, isLowSurrogate, Bool.or_eq_false_iff, Bool.and_eq_false_iff,
    decide_eq_false_iff_not]
  omega

theorem toNat_ofNat {code : Nat} (h : code < 0xD800 ∨ 0xDFFF < code ∧ code < 0x110000) :
    (Char.ofNat code).toNat = code := by
  have hvalid : code.isValidChar := h
  rw [Char.ofNat, dif_pos hvalid]
  rfl

theorem decodeUnits_numbered {code : Nat}
    (h : (isHighSurrogate code || isLowSurrogate code) = false) (rest : List TextUnit) :
    decodeUnits (.numbered code :: rest) = (Char.ofNat code :: ·) <$> decodeUnits rest := by
  rw [Bool.or_eq_false_iff] at h
  cases rest with
  | nil => simp [decodeUnits, h.1, h.2]
  | cons unit rest =>
      cases unit with
      | char c => cases hrest : decodeUnits rest <;> simp [decodeUnits, h.1, h.2, hrest]
      | numbered low => simp [decodeUnits, h.1, h.2]

theorem decodeUnits_utf16 (c : Char) (rest : List TextUnit) :
    decodeUnits ((utf16 c).map .numbered ++ rest) = (c :: ·) <$> decodeUnits rest := by
  unfold utf16
  split
  next hsmall =>
    have hnot := not_isSurrogate c
    rw [List.map_cons, List.map_nil, List.singleton_append, decodeUnits_numbered hnot,
      Char.ofNat_toNat]
  next hlarge =>
    have hrange := toNat_range c
    have hhigh : isHighSurrogate (0xD800 + (c.toNat - 0x10000) / 0x400) = true := by
      simp only [isHighSurrogate, Bool.and_eq_true, decide_eq_true_eq]
      omega
    have hlow : isLowSurrogate (0xDC00 + (c.toNat - 0x10000) % 0x400) = true := by
      simp only [isLowSurrogate, Bool.and_eq_true, decide_eq_true_eq]
      omega
    have hcode : 0x10000 + (0xD800 + (c.toNat - 0x10000) / 0x400 - 0xD800) * 0x400 +
        (0xDC00 + (c.toNat - 0x10000) % 0x400 - 0xDC00) = c.toNat := by omega
    rw [List.map_cons, List.map_cons, List.map_nil, List.cons_append, List.singleton_append,
      decodeUnits, if_pos hhigh, if_pos hlow, hcode, Char.ofNat_toNat]

theorem decodeUnits_of_standFor {units : List TextUnit} {text : List Char}
    (h : StandFor units text) : decodeUnits units = some text := by
  induction h with
  | nil => rfl
  | char c _ ih => rw [decodeUnits, ih, Option.map_eq_map, Option.map_some]
  | numbered c _ ih => rw [decodeUnits_utf16, ih, Option.map_eq_map, Option.map_some]

theorem utf16_ofNat {code : Nat} (hnot : (isHighSurrogate code || isLowSurrogate code) = false)
    (hbound : code < 0x10000) : utf16 (Char.ofNat code) = [code] := by
  simp only [isHighSurrogate, isLowSurrogate, Bool.or_eq_false_iff, Bool.and_eq_false_iff,
    decide_eq_false_iff_not] at hnot
  have hcode : (Char.ofNat code).toNat = code := toNat_ofNat (by omega)
  rw [utf16, hcode, if_pos hbound]

theorem utf16_ofNat_pair {high low : Nat} (hhigh : isHighSurrogate high = true)
    (hlow : isLowSurrogate low = true) :
    utf16 (Char.ofNat (0x10000 + (high - 0xD800) * 0x400 + (low - 0xDC00))) = [high, low] := by
  simp only [isHighSurrogate, isLowSurrogate, Bool.and_eq_true, decide_eq_true_eq] at hhigh hlow
  rw [utf16, toNat_ofNat (by omega), if_neg (by omega), List.cons.injEq, List.cons.injEq]
  refine ⟨?_, ?_, rfl⟩ <;> omega

/-- Four digits do not number anything above the first plane. -/
def AreNarrow (units : List TextUnit) : Prop :=
  ∀ code, TextUnit.numbered code ∈ units → code < 0x10000

theorem AreNarrow.of_cons {unit : TextUnit} {units : List TextUnit}
    (h : AreNarrow (unit :: units)) : AreNarrow units :=
  fun code hcode => h code (List.mem_cons_of_mem _ hcode)

theorem StandFor.numbered_single {code : Nat} {units : List TextUnit} {text : List Char}
    (hnot : (isHighSurrogate code || isLowSurrogate code) = false)
    (hnarrow : AreNarrow (.numbered code :: units)) (h : StandFor units text) :
    StandFor (.numbered code :: units) (Char.ofNat code :: text) := by
  have hunits := StandFor.numbered (Char.ofNat code) h
  rwa [utf16_ofNat hnot (hnarrow code List.mem_cons_self)] at hunits

theorem standFor_of_decodeUnits {units : List TextUnit} {text : List Char}
    (hnarrow : AreNarrow units) (h : decodeUnits units = some text) : StandFor units text := by
  fun_induction decodeUnits units generalizing text with
  | case1 =>
      cases h
      exact .nil
  | case2 c rest ih =>
      obtain ⟨others, hothers, rfl⟩ := Option.map_eq_some_iff.mp h
      exact .char c (ih hnarrow.of_cons hothers)
  | case4 code hnot =>
      cases h
      exact .numbered_single (Bool.not_eq_true _ ▸ hnot) hnarrow .nil
  | case6 code c rest hnot ih =>
      obtain ⟨others, hothers, rfl⟩ := Option.map_eq_some_iff.mp h
      exact .numbered_single (Bool.not_eq_true _ ▸ hnot) hnarrow
        (.char c (ih hnarrow.of_cons.of_cons hothers))
  | case7 high low rest hhigh hlow ih =>
      obtain ⟨others, hothers, rfl⟩ := Option.map_eq_some_iff.mp h
      have hpair := StandFor.numbered
        (Char.ofNat (0x10000 + (high - 0xD800) * 0x400 + (low - 0xDC00)))
        (ih hnarrow.of_cons.of_cons hothers)
      rwa [utf16_ofNat_pair hhigh hlow] at hpair
  | case10 high low rest hhigh hlow ih =>
      obtain ⟨others, hothers, rfl⟩ := Option.map_eq_some_iff.mp h
      exact .numbered_single (by simp [hhigh, hlow]) hnarrow (ih hnarrow.of_cons hothers)
  -- a surrogate that is not part of a pair
  | case3 | case5 | case8 | case9 => cases h

/-- The content of a string is decoded, whether or not it is a text. -/
theorem decodeUnits_of_hold {units : List TextUnit} {content : Spelled}
    (hnarrow : AreNarrow units) (h : Hold units content) :
    String.ofList <$> decodeUnits units = content := by
  cases content with
  | some text =>
      rw [decodeUnits_of_standFor h, Option.map_eq_map, Option.map_some, String.ofList_toList]
  | none =>
      cases hdecode : decodeUnits units with
      | none => rfl
      | some text => exact absurd (standFor_of_decodeUnits hnarrow hdecode) (h text)

/-! ## Strings -/

namespace Scan

theorem tokens_cons {state next : Scan} {c : Char} {found : List Token}
    (h : state.step c = some (next, found)) (rest : List Char) :
    state.tokens (c :: rest) = (found ++ ·) <$> next.tokens rest := by
  rw [tokens, h]
  cases hrest : next.tokens rest <;> simp [hrest]

/-- A character that completes no token. -/
theorem tokens_cons_silent {state next : Scan} {c : Char} (h : state.step c = some (next, []))
    (rest : List Char) : state.tokens (c :: rest) = next.tokens rest := by
  rw [tokens_cons h]
  cases next.tokens rest <;> rfl

end Scan

theorem hexDigit?_of_isHexDigit {value : Nat} {digit : Char} (h : IsHexDigit value digit) :
    hexDigit? digit = some value := by
  obtain ⟨hlt, hlower⟩ := h
  have hdigits : ∀ value < 16, hexDigit? (Nat.digitChar value) = some value := by decide
  rw [← Text.apply_toLower (f := hexDigit?) (by decide) digit, hlower, hdigits value hlt]

theorem escapedChar?_of_mem {letter c : Char} (h : (letter, c) ∈ shortEscapes) :
    letter ≠ 'u' ∧ escapedChar? letter = some c := by
  have hall : ∀ escape ∈ shortEscapes,
      escape.1 ≠ 'u' ∧ escapedChar? escape.1 = some escape.2 := by decide
  exact hall _ h

namespace Scan

variable {seen units : List TextUnit} {rest : List Char}

theorem step_hex {missing value digit : Nat} {c : Char} (hmissing : 1 < missing)
    (hc : IsHexDigit digit c) :
    (hex seen missing value).step c =
      some (.hex seen (missing - 1) (16 * value + digit), []) := by
  rw [step, hexDigit?_of_isHexDigit hc, Option.map_some, if_neg (by omega)]

theorem step_last_hex {value digit : Nat} {c : Char} (hc : IsHexDigit digit c) :
    (hex seen 1 value).step c = some (.text (.numbered (16 * value + digit) :: seen), []) := by
  rw [step, hexDigit?_of_isHexDigit hc, Option.map_some, if_pos (Nat.le_refl 1)]

theorem tokens_unit {unit : TextUnit} {chars : List Char} (h : unit.Spelling chars) :
    (text seen).tokens (chars ++ rest) = (text (unit :: seen)).tokens rest := by
  cases h with
  | plain hquote hbackslash hcontrol =>
      apply tokens_cons_silent
      rw [step, if_neg hquote, if_neg hbackslash, if_neg (Nat.not_lt.mpr hcontrol)]
  | escaped h =>
      obtain ⟨hletter, hescaped⟩ := escapedChar?_of_mem h
      have hbackslash : (text seen).step '\\' = some (.escape seen, []) := rfl
      rw [List.cons_append, tokens_cons_silent hbackslash]
      apply tokens_cons_silent
      rw [step, if_neg hletter, hescaped, Option.map_some]
  | @numbered first second third fourth a b c d ha hb hc hd =>
      have hbackslash : (text seen).step '\\' = some (.escape seen, []) := rfl
      have hmark : (escape seen).step 'u' = some (.hex seen 4 0, []) := rfl
      have hcode : 16 * (16 * (16 * (16 * 0 + first) + second) + third) + fourth =
          0x1000 * first + 0x100 * second + 0x10 * third + fourth := by omega
      simp only [List.cons_append, List.nil_append]
      rw [tokens_cons_silent hbackslash, tokens_cons_silent hmark,
        tokens_cons_silent (step_hex (by decide) ha), tokens_cons_silent (step_hex (by decide) hb),
        tokens_cons_silent (step_hex (by decide) hc), tokens_cons_silent (step_last_hex hd), hcode]

theorem tokens_body {body : List Char} (h : BodySpelling units body) :
    (text seen).tokens (body ++ rest) = (text (units.reverse ++ seen)).tokens rest := by
  induction h generalizing seen with
  | nil => rfl
  | cons hunit _ ih =>
      rw [List.append_assoc, tokens_unit hunit, ih, List.reverse_cons, List.append_assoc,
        List.singleton_append]

end Scan

theorem areNarrow_of_bodySpelling {units : List TextUnit} {body : List Char}
    (h : BodySpelling units body) : AreNarrow units := by
  induction h with
  | nil => exact fun code hcode => absurd hcode List.not_mem_nil
  | cons hunit _ ih =>
      intro code hcode
      rcases List.mem_cons.mp hcode with heq | hcode
      · subst heq
        cases hunit with
        | numbered ha hb hc hd =>
            have hfirst := ha.1
            have hsecond := hb.1
            have hthird := hc.1
            have hfourth := hd.1
            omega
      · exact ih code hcode

namespace Scan

theorem tokens_text {content : Spelled} {units : List TextUnit} {body rest : List Char}
    (hbody : BodySpelling units body) (hcontent : Hold units content) :
    between.tokens ('"' :: (body ++ ['"']) ++ rest) =
      (.text content :: ·) <$> between.tokens rest := by
  have hopen : between.step '"' = some (.text [], []) := rfl
  have hclose : (text units.reverse).step '"' =
      some (.between, [.text (String.ofList <$> decodeUnits units.reverse.reverse)]) := rfl
  rw [List.reverse_reverse,
    decodeUnits_of_hold (areNarrow_of_bodySpelling hbody) hcontent] at hclose
  rw [List.cons_append, tokens_cons_silent hopen, List.append_assoc, tokens_body hbody,
    List.append_nil, List.singleton_append, tokens_cons hclose]
  rfl

/-! ## Words and numbers -/

theorem tokens_word {letters : List Char} {token : Token} (hletters : letters ≠ [])
    (rest : List Char) :
    (word letters token).tokens (letters ++ rest) = (token :: ·) <$> between.tokens rest := by
  induction letters with
  | nil => exact absurd rfl hletters
  | cons letter others ih =>
      cases others with
      | nil =>
          have hlast : (word [letter] token).step letter = some (.between, [token]) := by
            rw [step, if_pos rfl]
          rw [List.singleton_append, tokens_cons hlast]
          rfl
      | cons next others =>
          have hletter : (word (letter :: next :: others) token).step letter =
              some (.word (next :: others) token, []) := by
            rw [step, if_pos rfl]
            exact List.cons_ne_nil _ _
          rw [List.cons_append, tokens_cons_silent hletter, ih (List.cons_ne_nil _ _)]

theorem tokens_number_cons {phase next : NumberPhase} {c : Char} (h : phase.next? c = some next)
    (seen rest : List Char) :
    (number phase seen).tokens (c :: rest) = (number next (c :: seen)).tokens rest := by
  apply tokens_cons_silent
  rw [step, h]

/-- Where a digit leads that is not the first one of a number. -/
def afterDigit? : NumberPhase → Option NumberPhase
  | .whole => some .whole
  | .point | .fraction => some .fraction
  | .exponentMark | .exponentSign | .exponent => some .exponent
  | .minus | .leadingZero => none

theorem next?_digit {phase next : NumberPhase} (h : afterDigit? phase = some next) {c : Char}
    (hc : c.isDigit = true) : phase.next? c = some next := by
  cases phase <;> cases h <;> exact if_pos hc

/-- Further digits do not lead anywhere else. -/
theorem afterDigit?_of_afterDigit? {phase next : NumberPhase} (h : afterDigit? phase = some next) :
    afterDigit? next = some next := by
  cases phase <;> cases h <;> rfl

theorem tokens_digits {phase : NumberPhase} (hphase : afterDigit? phase = some phase)
    {digits : List Char} (hdigits : ∀ c ∈ digits, c.isDigit = true) (seen rest : List Char) :
    (number phase seen).tokens (digits ++ rest) =
      (number phase (digits.reverse ++ seen)).tokens rest := by
  induction digits generalizing seen with
  | nil => rfl
  | cons c others ih =>
      rw [List.forall_mem_cons] at hdigits
      rw [List.cons_append, tokens_number_cons (next?_digit hphase hdigits.1), ih hdigits.2,
        List.reverse_cons, List.append_assoc, List.singleton_append]

/-- The digits that have to come next, and what they lead to. -/
theorem tokens_first_digits {phase next : NumberPhase} (h : afterDigit? phase = some next)
    {digits : List Char} (hdigits : IsDigits digits) (seen rest : List Char) :
    (number phase seen).tokens (digits ++ rest) =
      (number next (digits.reverse ++ seen)).tokens rest := by
  obtain ⟨hne, hall⟩ := hdigits
  cases digits with
  | nil => exact absurd rfl hne
  | cons c others =>
      rw [List.forall_mem_cons] at hall
      rw [List.cons_append, tokens_number_cons (next?_digit h hall.1),
        tokens_digits (afterDigit?_of_afterDigit? h) hall.2, List.reverse_cons, List.append_assoc,
        List.singleton_append]

theorem step_digit {c : Char} (hc : c.isDigit = true) (hzero : c ≠ '0') :
    between.step c = some (.number .whole [c], []) := by
  rw [step, start.eq_def]
  split
  case h_12 => exact absurd rfl hzero
  case h_13 => rw [if_pos hc]
  all_goals exact absurd hc (by decide)

/-- The whole part of a number, with or without a sign before it. -/
theorem tokens_whole {whole : List Char}
    (h : whole = ['0'] ∨ IsDigits whole ∧ whole.head? ≠ some '0') :
    ∃ phase : NumberPhase, (phase = .leadingZero ∨ phase = .whole) ∧
      (∀ rest, between.tokens (whole ++ rest) = (number phase whole.reverse).tokens rest) ∧
      ∀ seen rest, (number .minus seen).tokens (whole ++ rest) =
        (number phase (whole.reverse ++ seen)).tokens rest := by
  rcases h with rfl | ⟨⟨hne, hall⟩, hhead⟩
  · refine ⟨.leadingZero, .inl rfl, ?_, ?_⟩
    · exact fun rest => tokens_cons_silent rfl rest
    · exact fun seen rest => tokens_number_cons rfl seen rest
  · cases whole with
    | nil => exact absurd rfl hne
    | cons c others =>
        rw [List.forall_mem_cons] at hall
        have hzero : c ≠ '0' := fun hc => hhead (congrArg some hc)
        have hminus : NumberPhase.minus.next? c = some .whole := by
          rw [NumberPhase.next?, if_neg hzero, if_pos hall.1]
        refine ⟨.whole, .inr rfl, ?_, ?_⟩
        · intro rest
          rw [List.cons_append, tokens_cons_silent (step_digit hall.1 hzero),
            tokens_digits rfl hall.2, List.reverse_cons]
        · intro seen rest
          rw [List.cons_append, tokens_number_cons hminus, tokens_digits rfl hall.2,
            List.reverse_cons, List.append_assoc, List.singleton_append]

theorem tokens_fraction {phase : NumberPhase} (hphase : phase = .leadingZero ∨ phase = .whole)
    {fraction : List Char}
    (h : fraction = [] ∨ ∃ digits, IsDigits digits ∧ fraction = '.' :: digits) :
    ∃ next : NumberPhase, (next = .leadingZero ∨ next = .whole ∨ next = .fraction) ∧
      ∀ seen rest, (number phase seen).tokens (fraction ++ rest) =
        (number next (fraction.reverse ++ seen)).tokens rest := by
  rcases h with rfl | ⟨digits, hdigits, rfl⟩
  · exact ⟨phase, by tauto, fun _ _ => rfl⟩
  · have hpoint : phase.next? '.' = some .point := by rcases hphase with rfl | rfl <;> rfl
    refine ⟨.fraction, .inr (.inr rfl), ?_⟩
    intro seen rest
    rw [List.cons_append, tokens_number_cons hpoint, tokens_first_digits rfl hdigits,
      List.reverse_cons, List.append_assoc, List.singleton_append]

theorem tokens_exponent {phase : NumberPhase}
    (hphase : phase = .leadingZero ∨ phase = .whole ∨ phase = .fraction) {exponent : List Char}
    (h : exponent = [] ∨ ∃ mark sign digits, mark ∈ ['e', 'E'] ∧ sign ∈ [[], ['+'], ['-']] ∧
      IsDigits digits ∧ exponent = mark :: (sign ++ digits)) :
    ∃ next : NumberPhase, next.complete = true ∧
      ∀ seen rest, (number phase seen).tokens (exponent ++ rest) =
        (number next (exponent.reverse ++ seen)).tokens rest := by
  rcases h with rfl | ⟨mark, sign, digits, hmark, hsign, hdigits, rfl⟩
  · refine ⟨phase, ?_, fun _ _ => rfl⟩
    rcases hphase with rfl | rfl | rfl <;> rfl
  · have hnext : phase.next? mark = some .exponentMark := by
      simp only [List.mem_cons, List.not_mem_nil, or_false] at hmark
      rcases hphase with rfl | rfl | rfl <;> rcases hmark with rfl | rfl <;> rfl
    refine ⟨.exponent, rfl, ?_⟩
    intro seen rest
    rw [List.cons_append, tokens_number_cons hnext, List.append_assoc]
    rcases sign with _ | ⟨c, others⟩
    · rw [List.nil_append, tokens_first_digits rfl hdigits, List.nil_append, List.reverse_cons,
        List.append_assoc, List.singleton_append]
    · have hc : others = [] ∧ NumberPhase.exponentMark.next? c = some .exponentSign := by
        simp only [List.mem_cons, List.cons_ne_nil, List.cons.injEq, List.not_mem_nil, or_false,
          false_or] at hsign
        rcases hsign with ⟨rfl, rfl⟩ | ⟨rfl, rfl⟩ <;> exact ⟨rfl, rfl⟩
      obtain ⟨rfl, hc⟩ := hc
      rw [List.singleton_append, tokens_number_cons hc, tokens_first_digits rfl hdigits]
      simp

theorem tokens_numeral {numeral : List Char} (h : IsNumeral numeral) :
    ∃ phase : NumberPhase, phase.complete = true ∧
      ∀ rest, between.tokens (numeral ++ rest) = (number phase numeral.reverse).tokens rest := by
  obtain ⟨hsign, hwhole, hfraction, hexponent⟩ := h
  obtain ⟨phase, hphase, hplain, hsigned⟩ := tokens_whole hwhole
  obtain ⟨next, hnext, hfraction⟩ := tokens_fraction hphase hfraction
  obtain ⟨last, hlast, hexponent⟩ := tokens_exponent hnext hexponent
  refine ⟨last, hlast, ?_⟩
  intro rest
  rcases hsign with rfl | rfl
  · rw [List.nil_append, List.append_assoc, List.append_assoc, hplain, hfraction, hexponent]
    simp
  · have hminus : between.step '-' = some (.number .minus ['-'], []) := rfl
    rw [List.singleton_append, List.cons_append, List.append_assoc, List.append_assoc,
      tokens_cons_silent hminus, hsigned, hfraction, hexponent]
    simp

/-- What may stand after a number. -/
def delimiters : List Char := [' ', '\t', '\n', '\r', ',', ']', '\x7d']

theorem next?_delimiter {phase : NumberPhase} (hcomplete : phase.complete = true) {c : Char}
    (hc : c ∈ delimiters) : phase.next? c = none := by
  have hall : [NumberPhase.leadingZero, .whole, .fraction, .exponent].all
      (fun phase => delimiters.all fun c => phase.next? c == none) = true := by decide
  have hphase : phase ∈ [NumberPhase.leadingZero, .whole, .fraction, .exponent] := by
    cases phase <;> simp [NumberPhase.complete] at hcomplete ⊢
  exact beq_iff_eq.mp (List.all_eq_true.mp (List.all_eq_true.mp hall phase hphase) c hc)

theorem tokens_number_end {phase : NumberPhase} (hcomplete : phase.complete = true)
    {rest : List Char} (hrest : ∀ c ∈ rest.head?, c ∈ delimiters) (seen : List Char) :
    (number phase seen).tokens rest =
      (.number (String.ofList seen.reverse) :: ·) <$> between.tokens rest := by
  cases rest with
  | nil =>
      exact if_pos hcomplete
  | cons c rest =>
      have hnext := next?_delimiter hcomplete (hrest c rfl)
      have hstep : (number phase seen).step c = (start c).map fun result =>
          (result.1, .number (String.ofList seen.reverse) :: result.2) := by
        rw [step, hnext]
        exact if_pos hcomplete
      rw [tokens, tokens, hstep, step]
      cases start c with
      | none => rfl
      | some result => cases hresult : result.1.tokens rest <;> simp [hresult]

end Scan

/-! ## Documents -/

/-- A number has to end before the next token starts. -/
def Token.MayPrecede (first second : Token) : Prop :=
  (∃ numeral, first = .number numeral) → second ∈ [comma, endArray, endObject]

namespace Scan

theorem head_mem_delimiters {tokens : List Token} {rest : List Char} (h : Spelling tokens rest)
    (htokens : ∀ token ∈ tokens.head?, token ∈ [Token.comma, .endArray, .endObject]) :
    ∀ c ∈ rest.head?, c ∈ delimiters := by
  have hblank : ∀ c ∈ [' ', '\t', '\n', '\r'], c ∈ delimiters :=
    fun c hc => List.mem_append_left [',', ']', '\x7d'] hc
  intro c hc
  cases h with
  | nil => cases hc
  | blank hspace _ =>
      cases hc
      exact hblank c hspace
  | @cons token chars _ _ htoken _ =>
      have hdelimit := htokens token rfl
      simp only [List.mem_cons, List.not_mem_nil, or_false] at hdelimit
      rcases hdelimit with rfl | rfl | rfl <;> cases htoken <;> cases hc <;> decide

theorem tokens_token {token : Token} {chars : List Char} (h : token.Spelling chars)
    {rest : List Char}
    (hrest : (∃ numeral, token = .number numeral) → ∀ c ∈ rest.head?, c ∈ delimiters) :
    between.tokens (chars ++ rest) = (token :: ·) <$> between.tokens rest := by
  cases h with
  | number h =>
      obtain ⟨phase, hcomplete, hnumeral⟩ := tokens_numeral h
      rw [hnumeral, tokens_number_end hcomplete (hrest ⟨_, rfl⟩), List.reverse_reverse,
        String.ofList_toList]
  | text hbody hcontent => exact tokens_text hbody hcontent
  | null =>
      have hstart : between.step 'n' = some (.word ['u', 'l', 'l'] .null, []) := rfl
      rw [List.cons_append, tokens_cons_silent hstart, tokens_word (List.cons_ne_nil _ _)]
  | true =>
      have hstart : between.step 't' = some (.word ['r', 'u', 'e'] (.bool true), []) := rfl
      rw [List.cons_append, tokens_cons_silent hstart, tokens_word (List.cons_ne_nil _ _)]
  | false =>
      have hstart : between.step 'f' = some (.word ['a', 'l', 's', 'e'] (.bool false), []) := rfl
      rw [List.cons_append, tokens_cons_silent hstart, tokens_word (List.cons_ne_nil _ _)]
  | beginObject | endObject | beginArray | endArray | colon | comma =>
      rw [List.singleton_append, tokens_cons (show between.step _ = some (between, [_]) from rfl)]
      rfl

end Scan

/-- The tokens that a document spells are found in it. -/
theorem Scan.tokens_of_spelling {tokens : List Token} {chars : List Char}
    (h : Spelling tokens chars) (hchain : tokens.IsChain Token.MayPrecede) :
    Scan.between.tokens chars = some tokens := by
  induction h with
  | nil => rfl
  | @blank c tokens rest hc _ ih =>
      have hstep : between.step c = some (.between, []) := by
        simp only [List.mem_cons, List.not_mem_nil, or_false] at hc
        rcases hc with rfl | rfl | rfl | rfl <;> rfl
      rw [tokens_cons_silent hstep, ih hchain]
  | @cons token chars tokens rest htoken hrest ih =>
      rw [List.isChain_cons] at hchain
      have hdelimit : (∃ numeral, token = .number numeral) → ∀ c ∈ rest.head?, c ∈ delimiters :=
        fun hnumber => head_mem_delimiters hrest fun next hnext => hchain.1 next hnext hnumber
      rw [tokens_token htoken hdelimit, ih hchain.2]
      rfl

end CheckedMarkup.Json
