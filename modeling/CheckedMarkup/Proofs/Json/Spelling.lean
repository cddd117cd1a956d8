import CheckedMarkup.Json.Reader

/-! # What documents spell

The grammar of JSON, apart from how documents are read. A value is a sequence of
tokens. A document spells the value if it consists of these tokens, each in one
of its spellings, and of white space around them.
-/

namespace CheckedMarkup.Json

/-! ## Numbers -/

def IsDigits (chars : List Char) : Prop :=
  chars ≠ [] ∧ ∀ c ∈ chars, c.isDigit = true

inductive IsNumeral : List Char → Prop
  | mk {sign whole fraction exponent : List Char}
      (hsign : sign = [] ∨ sign = ['-'])
      (hwhole : whole = ['0'] ∨ IsDigits whole ∧ whole.head? ≠ some '0')
      (hfraction : fraction = [] ∨ ∃ digits, IsDigits digits ∧ fraction = '.' :: digits)
      (hexponent : exponent = [] ∨ ∃ mark sign digits, mark ∈ ['e', 'E'] ∧
        sign ∈ [[], ['+'], ['-']] ∧ IsDigits digits ∧ exponent = mark :: (sign ++ digits)) :
      IsNumeral (sign ++ (whole ++ (fraction ++ exponent)))

/-! ## Strings -/

/-- The 16-bit units that encode a character: those above the first plane take two. -/
def utf16 (c : Char) : List Nat :=
  if c.toNat < 0x10000 then [c.toNat]
  else [0xD800 + (c.toNat - 0x10000) / 0x400, 0xDC00 + (c.toNat - 0x10000) % 0x400]

/-- Whether the units between quotes stand for a text. Each of its characters is there as itself,
or is numbered by all of its 16-bit units. -/
inductive StandFor : List TextUnit → List Char → Prop
  | nil : StandFor [] []
  | char (c : Char) {units : List TextUnit} {text : List Char} (h : StandFor units text) :
      StandFor (.char c :: units) (c :: text)
  | numbered (c : Char) {units : List TextUnit} {text : List Char} (h : StandFor units text) :
      StandFor ((utf16 c).map .numbered ++ units) (c :: text)

/-- What stands for no text is a string too; it has half a pair of units somewhere. -/
def Hold (units : List TextUnit) : Spelled → Prop
  | some text => StandFor units text.toList
  | none => ∀ text, ¬StandFor units text

/-- A digit in base sixteen, with letters in either case. -/
def IsHexDigit (value : Nat) (digit : Char) : Prop :=
  value < 16 ∧ digit.toLower = Nat.digitChar value

/-- The letters that name a character after a backslash. -/
def shortEscapes : List (Char × Char) :=
  [('"', '"'), ('\\', '\\'), ('/', '/'), ('b', '\x08'), ('f', '\x0c'), ('n', '\n'), ('r', '\r'),
    ('t', '\t')]

inductive TextUnit.Spelling : TextUnit → List Char → Prop
  | plain {c : Char} (hquote : c ≠ '"') (hbackslash : c ≠ '\\') (hcontrol : 0x20 ≤ c.toNat) :
      (TextUnit.char c).Spelling [c]
  | escaped {letter c : Char} (h : (letter, c) ∈ shortEscapes) :
      (TextUnit.char c).Spelling ['\\', letter]
  | numbered {first second third fourth : Nat} {a b c d : Char} (ha : IsHexDigit first a)
      (hb : IsHexDigit second b) (hc : IsHexDigit third c) (hd : IsHexDigit fourth d) :
      (TextUnit.numbered (0x1000 * first + 0x100 * second + 0x10 * third + fourth)).Spelling
        ['\\', 'u', a, b, c, d]

inductive BodySpelling : List TextUnit → List Char → Prop
  | nil : BodySpelling [] []
  | cons {unit : TextUnit} {chars : List Char} {units : List TextUnit} {rest : List Char}
      (hunit : unit.Spelling chars) (hrest : BodySpelling units rest) :
      BodySpelling (unit :: units) (chars ++ rest)

/-! ## Tokens -/

inductive Token.Spelling : Token → List Char → Prop
  | beginObject : beginObject.Spelling ['\x7b']
  | endObject : endObject.Spelling ['\x7d']
  | beginArray : beginArray.Spelling ['[']
  | endArray : endArray.Spelling [']']
  | colon : colon.Spelling [':']
  | comma : comma.Spelling [',']
  | null : null.Spelling ['n', 'u', 'l', 'l']
  | true : (bool Bool.true).Spelling ['t', 'r', 'u', 'e']
  | false : (bool Bool.false).Spelling ['f', 'a', 'l', 's', 'e']
  | number {numeral : String} (h : IsNumeral numeral.toList) :
      (number numeral).Spelling numeral.toList
  | text {content : Spelled} {units : List TextUnit} {body : List Char}
      (hbody : BodySpelling units body) (hcontent : Hold units content) :
      (text content).Spelling ('"' :: (body ++ ['"']))

/-- Tokens one after the other. White space may stand before, between and after them. -/
inductive Spelling : List Token → List Char → Prop
  | nil : Spelling [] []
  | blank {c : Char} {tokens : List Token} {rest : List Char} (hc : c ∈ [' ', '\t', '\n', '\r'])
      (hrest : Spelling tokens rest) : Spelling tokens (c :: rest)
  | cons {token : Token} {chars : List Char} {tokens : List Token} {rest : List Char}
      (htoken : token.Spelling chars) (hrest : Spelling tokens rest) :
      Spelling (token :: tokens) (chars ++ rest)

/-! ## Values -/

mutual

def Value.tokens : Value Spelled → List Token
  | .null => [.null]
  | .bool truth => [.bool truth]
  | .number numeral => [.number numeral]
  | .text content => [.text content]
  | .array [] => [.beginArray, .endArray]
  | .array (item :: rest) => .beginArray :: (item.tokens ++ (itemsTokens rest ++ [.endArray]))
  | .object [] => [.beginObject, .endObject]
  | .object ((key, value) :: rest) =>
      .beginObject :: .text key :: .colon ::
        (value.tokens ++ (membersTokens rest ++ [.endObject]))

/-- The tokens of further items: a comma stands before each. -/
def itemsTokens : List (Value Spelled) → List Token
  | [] => []
  | item :: rest => .comma :: (item.tokens ++ itemsTokens rest)

def membersTokens : List (Spelled × Value Spelled) → List Token
  | [] => []
  | (key, value) :: rest =>
      .comma :: .text key :: .colon :: (value.tokens ++ membersTokens rest)

end

/-- Whether a document is one of the spellings of a value. -/
def Value.IsSpelledBy (value : Value Spelled) (document : String) : Prop :=
  Spelling value.tokens document.toList

/-- What holds of a container if it holds of all it contains holds of every value. -/
theorem Value.induction {σ : Type} {p : Value σ → Prop} (null : p .null)
    (bool : ∀ truth, p (.bool truth)) (number : ∀ numeral, p (.number numeral))
    (text : ∀ content, p (.text content))
    (array : ∀ items, (∀ item ∈ items, p item) → p (.array items))
    (object : ∀ members : List (σ × Value σ), (∀ member ∈ members, p member.2) →
      p (.object members)) (value : Value σ) : p value :=
  Value.rec null bool number text array object
    (fun _ h => absurd h List.not_mem_nil)
    (fun _ _ hitem hrest => List.forall_mem_cons.mpr ⟨hitem, hrest⟩)
    (fun _ h => absurd h List.not_mem_nil)
    (fun _ _ hmember hrest => List.forall_mem_cons.mpr ⟨hmember, hrest⟩)
    (fun _ _ hvalue => hvalue) value

end CheckedMarkup.Json
