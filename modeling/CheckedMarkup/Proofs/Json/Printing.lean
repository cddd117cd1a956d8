import CheckedMarkup.Json.Printer
import CheckedMarkup.Proofs.Json.Reading

/-! # What is written can be read

In either layout a value is written as one of its spellings. So it can be read
back, and different values are written differently.
-/

namespace CheckedMarkup.Json

/-! ## Values with other strings -/

section

variable {σ τ : Type}

mutual

def Value.map (f : σ → τ) : Value σ → Value τ
  | .null => .null
  | .bool truth => .bool truth
  | .number numeral => .number numeral
  | .text content => .text (f content)
  | .array items => .array (mapItems f items)
  | .object members => .object (mapMembers f members)

def mapItems (f : σ → τ) : List (Value σ) → List (Value τ)
  | [] => []
  | item :: rest => item.map f :: mapItems f rest

def mapMembers (f : σ → τ) : List (σ × Value σ) → List (τ × Value τ)
  | [] => []
  | (key, value) :: rest => (f key, value.map f) :: mapMembers f rest

end

theorem mapItems_eq_map (f : σ → τ) (items : List (Value σ)) :
    mapItems f items = items.map (Value.map f) := by
  induction items with
  | nil => rfl
  | cons item rest ih => rw [mapItems, ih, List.map_cons]

theorem mapMembers_eq_map (f : σ → τ) (members : List (σ × Value σ)) :
    mapMembers f members = members.map fun member => (f member.1, member.2.map f) := by
  induction members with
  | nil => rfl
  | cons member rest ih => rw [mapMembers, ih, List.map_cons]

theorem Value.leftInverse_map {f : σ → τ} {g : τ → σ} (h : Function.LeftInverse g f) :
    Function.LeftInverse (Value.map g) (Value.map f) := by
  intro value
  induction value using Value.induction with
  | null => rfl
  | bool truth => rfl
  | number numeral => rfl
  | text content => rw [map, map, h]
  | array items ih =>
      have hitems := List.map_congr_left (g := id) ih
      rw [List.map_id] at hitems
      rw [map, map, mapItems_eq_map, mapItems_eq_map, List.map_map]
      exact congrArg array hitems
  | object members ih =>
      have hmember : ∀ member ∈ members,
          (g (f member.1), (member.2.map f).map g) = id member := by
        intro member hmember
        rw [h, ih member hmember]
        rfl
      have hmembers := List.map_congr_left hmember
      rw [List.map_id] at hmembers
      rw [map, map, mapMembers_eq_map, mapMembers_eq_map, List.map_map]
      exact congrArg object hmembers

/-- Whether the numbers in a value are spelled as numbers are. -/
inductive Value.IsProper : Value σ → Prop
  | null : null.IsProper
  | bool (truth : Bool) : (bool truth).IsProper
  | number {numeral : String} (h : IsNumeral numeral.toList) : (number numeral).IsProper
  | text (content : σ) : (text content).IsProper
  | array {items : List (Value σ)} (h : ∀ item ∈ items, item.IsProper) : (array items).IsProper
  | object {members : List (σ × Value σ)} (h : ∀ member ∈ members, member.2.IsProper) :
      (object members).IsProper

namespace Value

@[simp] theorem isProper_bool (truth : Bool) : (bool truth : Value σ).IsProper := .bool truth

@[simp] theorem isProper_text (content : σ) : (text content).IsProper := .text content

@[simp] theorem isProper_array_iff {items : List (Value σ)} :
    (array items).IsProper ↔ ∀ item ∈ items, item.IsProper :=
  ⟨fun | .array h => h, .array⟩

@[simp] theorem isProper_object_iff {members : List (σ × Value σ)} :
    (object members).IsProper ↔ ∀ member ∈ members, member.2.IsProper :=
  ⟨fun | .object h => h, .object⟩

end Value

end

/-! ## Texts -/

theorem isHexDigit_hexChar {value : Nat} (h : value < 16) : IsHexDigit value (hexChar value) := by
  have hall : ∀ value < 16, (hexChar value).toLower = Nat.digitChar value := by decide
  exact ⟨h, hall value h⟩

/-- A character is written as one item. -/
theorem exists_unit_textChar (c : Char) :
    ∃ unit : TextUnit, unit.Spelling (textChar c) ∧
      ∀ units text, StandFor units text → StandFor (unit :: units) (c :: text) := by
  have hescaped : ∀ {letter : Char}, (letter, c) ∈ shortEscapes →
      ∃ unit : TextUnit, unit.Spelling ['\\', letter] ∧
        ∀ units text, StandFor units text → StandFor (unit :: units) (c :: text) :=
    fun h => ⟨.char c, .escaped h, fun _ _ => .char c⟩
  unfold textChar
  split_ifs with hquote hbackslash hbackspace hfeed hline hreturn htab hcontrol
  · exact hescaped (by subst hquote; decide)
  · exact hescaped (by subst hbackslash; decide)
  · exact hescaped (by subst hbackspace; decide)
  · exact hescaped (by subst hfeed; decide)
  · exact hescaped (by subst hline; decide)
  · exact hescaped (by subst hreturn; decide)
  · exact hescaped (by subst htab; decide)
  · -- any other control is numbered, and its first two digits are zero
    have hzero := isHexDigit_hexChar (by decide : 0 < 16)
    have hhigh := isHexDigit_hexChar (by omega : c.toNat / 16 < 16)
    have hlow := isHexDigit_hexChar (by omega : c.toNat % 16 < 16)
    have hcode : 0x1000 * 0 + 0x100 * 0 + 0x10 * (c.toNat / 16) + c.toNat % 16 = c.toNat := by
      omega
    have hspelling := TextUnit.Spelling.numbered hzero hzero hhigh hlow
    rw [hcode] at hspelling
    refine ⟨.numbered c.toNat, hspelling, ?_⟩
    intro units text h
    have hunits := StandFor.numbered c h
    rwa [utf16, if_pos (by omega)] at hunits
  · exact ⟨.char c, .plain hquote hbackslash (Nat.not_lt.mp hcontrol), fun _ _ => .char c⟩

theorem exists_units_textChars (text : List Char) :
    ∃ units, BodySpelling units (text.flatMap textChar) ∧ StandFor units text := by
  induction text with
  | nil => exact ⟨[], .nil, .nil⟩
  | cons c rest ih =>
      obtain ⟨units, hbody, hunits⟩ := ih
      obtain ⟨unit, hunit, hchar⟩ := exists_unit_textChar c
      exact ⟨unit :: units, .cons hunit hbody, hchar units rest hunits⟩

theorem spelling_textChars (text : String) :
    (Token.text (some text)).Spelling (textChars text) := by
  obtain ⟨units, hbody, hunits⟩ := exists_units_textChars text.toList
  exact .text hbody hunits

/-! ## Values -/

/-- Whether a layout adds white space only. -/
structure Layout.IsBlank (layout : Layout) : Prop where
  lineBreak : ∀ depth, ∀ c ∈ layout.lineBreak depth, c ∈ [' ', '\t', '\n', '\r']
  colon : ∃ after, (∀ c ∈ after, c ∈ [' ', '\t', '\n', '\r']) ∧ layout.colon = ':' :: after

theorem Layout.isBlank_compact : compact.IsBlank :=
  ⟨fun _ _ h => absurd h List.not_mem_nil, [], fun _ h => absurd h List.not_mem_nil, rfl⟩

theorem Layout.isBlank_indented : indented.IsBlank := by
  refine ⟨?_, [' '], by simp, rfl⟩
  intro depth c hc
  rcases List.mem_cons.mp hc with rfl | hc
  · decide
  · rw [List.eq_of_mem_replicate hc]
    decide

section

variable {layout : Layout} {tokens : List Token} {rest : List Char}

theorem spelling_blanks {blanks : List Char} (h : ∀ c ∈ blanks, c ∈ [' ', '\t', '\n', '\r'])
    (hrest : Spelling tokens rest) : Spelling tokens (blanks ++ rest) := by
  induction blanks with
  | nil => exact hrest
  | cons c others ih =>
      rw [List.forall_mem_cons] at h
      exact .blank h.1 (ih h.2)

/-- A key and the colon after it. -/
theorem spelling_key (hlayout : layout.IsBlank) (key : String) (hrest : Spelling tokens rest) :
    Spelling (.text (some key) :: .colon :: tokens) (textChars key ++ (layout.colon ++ rest)) := by
  obtain ⟨after, hafter, hcolon⟩ := hlayout.colon
  have hvalue := Spelling.cons .colon (spelling_blanks hafter hrest)
  rw [hcolon]
  exact .cons (spelling_textChars key) hvalue

theorem spelling_itemsChars (hlayout : layout.IsBlank) (depth : Nat) {items : List (Value String)}
    (hitems : ∀ item ∈ items, ∀ {tokens rest}, Spelling tokens rest →
      Spelling ((item.map some).tokens ++ tokens) (item.chars layout depth ++ rest))
    (hrest : Spelling tokens rest) :
    Spelling (itemsTokens (mapItems some items) ++ tokens)
      (itemsChars layout depth items ++ rest) := by
  induction items with
  | nil => exact hrest
  | cons item others ih =>
      rw [List.forall_mem_cons] at hitems
      have hitem := hitems.1 (ih hitems.2)
      have hall := Spelling.cons .comma (spelling_blanks (hlayout.lineBreak depth) hitem)
      simpa only [mapItems, itemsTokens, itemsChars, List.cons_append, List.nil_append,
        List.append_assoc] using hall

theorem spelling_membersChars (hlayout : layout.IsBlank) (depth : Nat)
    {members : List (String × Value String)}
    (hmembers : ∀ member ∈ members, ∀ {tokens rest}, Spelling tokens rest →
      Spelling ((member.2.map some).tokens ++ tokens) (member.2.chars layout depth ++ rest))
    (hrest : Spelling tokens rest) :
    Spelling (membersTokens (mapMembers some members) ++ tokens)
      (membersChars layout depth members ++ rest) := by
  induction members with
  | nil => exact hrest
  | cons member others ih =>
      rw [List.forall_mem_cons] at hmembers
      have hmember := spelling_key hlayout member.1 (hmembers.1 (ih hmembers.2))
      have hall := Spelling.cons .comma (spelling_blanks (hlayout.lineBreak depth) hmember)
      simpa only [mapMembers, membersTokens, membersChars, List.cons_append, List.nil_append,
        List.append_assoc] using hall

end

theorem spelling_chars {layout : Layout} (hlayout : layout.IsBlank) {value : Value String}
    (hvalue : value.IsProper) (depth : Nat) {tokens : List Token} {rest : List Char}
    (hrest : Spelling tokens rest) :
    Spelling ((value.map some).tokens ++ tokens) (value.chars layout depth ++ rest) := by
  induction value using Value.induction generalizing depth tokens rest with
  | null => exact .cons .null hrest
  | bool truth =>
      cases truth with
      | true => exact .cons .true hrest
      | false => exact .cons .false hrest
  | number numeral =>
      cases hvalue with
      | number h => exact .cons (.number h) hrest
  | text content => exact .cons (spelling_textChars content) hrest
  | array items ih =>
      cases items with
      | nil =>
          have hall := Spelling.cons .beginArray (.cons .endArray hrest)
          exact hall
      | cons item others =>
          rw [Value.isProper_array_iff, List.forall_mem_cons] at hvalue
          rw [List.forall_mem_cons] at ih
          have hclose := spelling_blanks (hlayout.lineBreak depth) (.cons .endArray hrest)
          have hothers := spelling_itemsChars hlayout (depth + 1)
            (fun other hother => ih.2 other hother (hvalue.2 other hother) (depth + 1)) hclose
          have hitem := ih.1 hvalue.1 (depth + 1) hothers
          have hall := Spelling.cons .beginArray
            (spelling_blanks (hlayout.lineBreak (depth + 1)) hitem)
          simpa only [Value.map, mapItems, Value.tokens, Value.chars, List.cons_append,
            List.nil_append, List.append_assoc] using hall
  | object members ih =>
      rcases members with _ | ⟨⟨key, value⟩, others⟩
      · have hall := Spelling.cons .beginObject (.cons .endObject hrest)
        exact hall
      · rw [Value.isProper_object_iff, List.forall_mem_cons] at hvalue
        rw [List.forall_mem_cons] at ih
        have hclose := spelling_blanks (hlayout.lineBreak depth) (.cons .endObject hrest)
        have hothers := spelling_membersChars hlayout (depth + 1)
          (fun other hother => ih.2 other hother (hvalue.2 other hother) (depth + 1)) hclose
        have hmember := spelling_key hlayout key (ih.1 hvalue.1 (depth + 1) hothers)
        have hall := Spelling.cons .beginObject
          (spelling_blanks (hlayout.lineBreak (depth + 1)) hmember)
        simpa only [Value.map, mapMembers, Value.tokens, Value.chars, List.cons_append,
          List.nil_append, List.append_assoc] using hall

/-! ## Documents -/

variable {layout : Layout} {value first second : Value String}

theorem Value.isSpelledBy_chars (hlayout : layout.IsBlank) (h : value.IsProper) :
    (value.map some).IsSpelledBy (String.ofList (value.chars layout 0)) := by
  have hspelling := spelling_chars hlayout h 0 .nil
  rwa [List.append_nil, List.append_nil, ← String.toList_ofList (l := value.chars layout 0)]
    at hspelling

/-- A value that has been written is read back. -/
theorem read_chars (hlayout : layout.IsBlank) (h : value.IsProper) :
    read (String.ofList (value.chars layout 0)) = some (value.map some) :=
  read_of_isSpelledBy (Value.isSpelledBy_chars hlayout h)

theorem Value.map_some_injective : Function.Injective (Value.map (some : String → Spelled)) :=
  (leftInverse_map (g := fun content => content.getD "") fun _ => rfl).injective

theorem Value.eq_of_chars_eq (hlayout : layout.IsBlank) (hfirst : first.IsProper)
    (hsecond : second.IsProper)
    (h : String.ofList (first.chars layout 0) = String.ofList (second.chars layout 0)) :
    first = second := by
  have hread := read_chars hlayout hfirst
  rw [h, read_chars hlayout hsecond, Option.some.injEq] at hread
  exact (map_some_injective hread).symm

end CheckedMarkup.Json
