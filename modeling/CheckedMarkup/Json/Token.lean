/-! # Lexical structure of JSON

A document is cut into tokens by an automaton that sees one character at a time.
The escapes of a string are decoded when its closing quote is reached. A string
whose escapes name half a surrogate pair is well formed and yet spells no text:
its token carries `none`.
-/

namespace CheckedMarkup.Json

inductive Token where
  | beginObject
  | endObject
  | beginArray
  | endArray
  | colon
  | comma
  | null
  | bool (truth : Bool)
  | number (numeral : String)
  | text (content : Option String)
deriving Repr, DecidableEq

/-- One item between the quotes of a string: a character, or a numbered 16-bit unit. -/
inductive TextUnit where
  | char (c : Char)
  | numbered (code : Nat)
deriving Repr, DecidableEq

/-- The units that open a surrogate pair. -/
def isHighSurrogate (code : Nat) : Bool := 0xD800 ≤ code && code < 0xDC00

/-- The units that close a surrogate pair. -/
def isLowSurrogate (code : Nat) : Bool := 0xDC00 ≤ code && code < 0xE000

/-- The text that the units of a string spell. A surrogate counts only as part of a pair. -/
def decodeUnits : List TextUnit → Option (List Char)
  | [] => some []
  | .char c :: rest => (c :: ·) <$> decodeUnits rest
  | [.numbered code] =>
      if isHighSurrogate code || isLowSurrogate code then none else some [Char.ofNat code]
  | .numbered code :: .char c :: rest =>
      if isHighSurrogate code || isLowSurrogate code then none
      else (Char.ofNat code :: c :: ·) <$> decodeUnits rest
  | .numbered high :: .numbered low :: rest =>
      if isHighSurrogate high then
        if isLowSurrogate low then
          (Char.ofNat (0x10000 + (high - 0xD800) * 0x400 + (low - 0xDC00)) :: ·)
            <$> decodeUnits rest
        else none
      else if isLowSurrogate high then none
      else (Char.ofNat high :: ·) <$> decodeUnits (.numbered low :: rest)

/-- How much of a number has been read, named for its last character. -/
inductive NumberPhase where
  | minus
  | leadingZero
  | whole
  | point
  | fraction
  | exponentMark
  | exponentSign
  | exponent
deriving Repr, DecidableEq

def NumberPhase.next? (phase : NumberPhase) (c : Char) : Option NumberPhase :=
  let mark := c = 'e' ∨ c = 'E'
  match phase with
  | .minus => if c = '0' then some .leadingZero else if c.isDigit then some .whole else none
  | .leadingZero => if c = '.' then some .point else if mark then some .exponentMark else none
  | .whole =>
      if c.isDigit then some .whole else if c = '.' then some .point
      else if mark then some .exponentMark else none
  | .point => if c.isDigit then some .fraction else none
  | .fraction =>
      if c.isDigit then some .fraction else if mark then some .exponentMark else none
  | .exponentMark =>
      if c.isDigit then some .exponent
      else if c = '+' ∨ c = '-' then some .exponentSign else none
  | .exponentSign => if c.isDigit then some .exponent else none
  | .exponent => if c.isDigit then some .exponent else none

def NumberPhase.complete : NumberPhase → Bool
  | .leadingZero | .whole | .fraction | .exponent => true
  | .minus | .point | .exponentMark | .exponentSign => false

/-- What the automaton is inside of. Characters and units read so far are kept nearest first. -/
inductive Scan where
  | between
  /-- Inside a fixed word, with the letters that must follow and the token it makes. -/
  | word (expected : List Char) (token : Token)
  | number (phase : NumberPhase) (seen : List Char)
  | text (seen : List TextUnit)
  | escape (seen : List TextUnit)
  /-- Inside a numbered escape, with the digits still missing and the value of those read. -/
  | hex (seen : List TextUnit) (missing value : Nat)
deriving Repr, DecidableEq

def isSpacing (c : Char) : Bool := c = ' ' || c = '\t' || c = '\n' || c = '\r'

def escapedChar? : Char → Option Char
  | '"' => some '"'
  | '\\' => some '\\'
  | '/' => some '/'
  | 'b' => some '\x08'
  | 'f' => some '\x0c'
  | 'n' => some '\n'
  | 'r' => some '\r'
  | 't' => some '\t'
  | _ => none

def hexDigit? (c : Char) : Option Nat :=
  if '0' ≤ c ∧ c ≤ '9' then some (c.toNat - '0'.toNat)
  else if 'a' ≤ c ∧ c ≤ 'f' then some (c.toNat - 'a'.toNat + 10)
  else if 'A' ≤ c ∧ c ≤ 'F' then some (c.toNat - 'A'.toNat + 10)
  else none

def Scan.start (c : Char) : Option (Scan × List Token) :=
  match c with
  | '\x7b' => some (.between, [.beginObject])
  | '\x7d' => some (.between, [.endObject])
  | '[' => some (.between, [.beginArray])
  | ']' => some (.between, [.endArray])
  | ':' => some (.between, [.colon])
  | ',' => some (.between, [.comma])
  | '"' => some (.text [], [])
  | 't' => some (.word ['r', 'u', 'e'] (.bool true), [])
  | 'f' => some (.word ['a', 'l', 's', 'e'] (.bool false), [])
  | 'n' => some (.word ['u', 'l', 'l'] .null, [])
  | '-' => some (.number .minus [c], [])
  | '0' => some (.number .leadingZero [c], [])
  | c =>
      if c.isDigit then some (.number .whole [c], [])
      else if isSpacing c then some (.between, [])
      else none

/-- Reads one character: the next state and the tokens that the character completes. -/
def Scan.step : Scan → Char → Option (Scan × List Token)
  | .between, c => start c
  | .word [] _, _ => none
  | .word [last] token, c => if c = last then some (.between, [token]) else none
  | .word (letter :: rest) token, c => if c = letter then some (.word rest token, []) else none
  | .number phase seen, c =>
      match phase.next? c with
      | some phase => some (.number phase (c :: seen), [])
      | none =>
          if phase.complete then
            (start c).map fun (state, tokens) =>
              (state, .number (String.ofList seen.reverse) :: tokens)
          else none
  | .text seen, c =>
      if c = '"' then
        some (.between, [.text (String.ofList <$> decodeUnits seen.reverse)])
      else if c = '\\' then some (.escape seen, [])
      else if c.toNat < 0x20 then none
      else some (.text (.char c :: seen), [])
  | .escape seen, c =>
      if c = 'u' then some (.hex seen 4 0, [])
      else (escapedChar? c).map fun escaped => (.text (.char escaped :: seen), [])
  | .hex seen missing value, c =>
      (hexDigit? c).map fun digit =>
        let value := 16 * value + digit
        if missing ≤ 1 then (.text (.numbered value :: seen), [])
        else (.hex seen (missing - 1) value, [])

/-- The tokens that the end of the document completes. -/
def Scan.finish : Scan → Option (List Token)
  | .between => some []
  | .number phase seen =>
      if phase.complete then some [.number (String.ofList seen.reverse)] else none
  | _ => none

/-- The tokens of the rest of a document. -/
def Scan.tokens : Scan → List Char → Option (List Token)
  | state, [] => state.finish
  | state, c :: rest => do
      let (state, tokens) ← state.step c
      return tokens ++ (← state.tokens rest)

def tokens (document : String) : Option (List Token) :=
  Scan.between.tokens document.toList

end CheckedMarkup.Json
