import CheckedMarkup.Json.Value

/-! # Writing JSON documents

One printer with two layouts: everything on one line, or one item or member a
line with two blanks of indentation for each level.
-/

namespace CheckedMarkup.Json

/-- Where a printed document has white space. -/
structure Layout where
  /-- What stands before an item at a depth, and before the end of a container at it. -/
  lineBreak : Nat → List Char
  /-- What stands between a key and its value. -/
  colon : List Char

namespace Layout

def compact : Layout := ⟨fun _ => [], [':']⟩

def indented : Layout := ⟨fun depth => '\n' :: List.replicate (2 * depth) ' ', [':', ' ']⟩

end Layout

def hexChar (digit : Nat) : Char :=
  if digit < 10 then Char.ofNat ('0'.toNat + digit) else Char.ofNat ('a'.toNat + (digit - 10))

/-- The spelling of one character in a string. Controls are escaped; of the rest, only the quote
and the backslash are. -/
def textChar (c : Char) : List Char :=
  if c = '"' then ['\\', '"']
  else if c = '\\' then ['\\', '\\']
  else if c = '\x08' then ['\\', 'b']
  else if c = '\x0c' then ['\\', 'f']
  else if c = '\n' then ['\\', 'n']
  else if c = '\r' then ['\\', 'r']
  else if c = '\t' then ['\\', 't']
  else if c.toNat < 0x20 then
    ['\\', 'u', '0', '0', hexChar (c.toNat / 16), hexChar (c.toNat % 16)]
  else [c]

def textChars (text : String) : List Char :=
  '"' :: text.toList.flatMap textChar ++ ['"']

mutual

/-- The characters of a value that stands at a depth. -/
def Value.chars (layout : Layout) (depth : Nat) : Value String → List Char
  | .null => ['n', 'u', 'l', 'l']
  | .bool true => ['t', 'r', 'u', 'e']
  | .bool false => ['f', 'a', 'l', 's', 'e']
  | .number numeral => numeral.toList
  | .text content => textChars content
  | .array [] => ['[', ']']
  | .array (item :: rest) =>
      '[' :: layout.lineBreak (depth + 1) ++ item.chars layout (depth + 1)
        ++ itemsChars layout (depth + 1) rest ++ layout.lineBreak depth ++ [']']
  | .object [] => ['\x7b', '\x7d']
  | .object ((key, value) :: rest) =>
      '\x7b' :: layout.lineBreak (depth + 1) ++ textChars key ++ layout.colon
        ++ value.chars layout (depth + 1) ++ membersChars layout (depth + 1) rest
        ++ layout.lineBreak depth ++ ['\x7d']

def itemsChars (layout : Layout) (depth : Nat) : List (Value String) → List Char
  | [] => []
  | item :: rest =>
      ',' :: layout.lineBreak depth ++ item.chars layout depth ++ itemsChars layout depth rest

def membersChars (layout : Layout) (depth : Nat) : List (String × Value String) → List Char
  | [] => []
  | (key, value) :: rest =>
      ',' :: layout.lineBreak depth ++ textChars key ++ layout.colon
        ++ value.chars layout depth ++ membersChars layout depth rest

end

def Value.compact (value : Value String) : String :=
  String.ofList (value.chars .compact 0)

def Value.pretty (value : Value String) : String :=
  String.ofList (value.chars .indented 0)

end CheckedMarkup.Json
