import CheckedMarkup.Json.Token
import CheckedMarkup.Json.Value

/-! # Reading JSON documents

The tokens of a document drive a machine that keeps the containers it is inside
of on a stack, so the depth of a document is not limited. A string that spells
no text is read as `none`.
-/

namespace CheckedMarkup.Json

/-- A string of a document: its text, if it spells one. -/
abbrev Spelled := Option String

/-- A container that is being read, with what it holds so far, nearest first. -/
inductive Frame where
  | array (items : List (Value Spelled))
  | object (members : List (Spelled × Value Spelled)) (key : Spelled)

/-- What may come next, inside the containers of the stack. -/
inductive Reader where
  | value (stack : List Frame)
  /-- After an opening bracket: an item, or the end of the array. -/
  | firstItem (stack : List Frame)
  /-- After an item: a comma, or the end of the array. -/
  | nextItem (items : List (Value Spelled)) (stack : List Frame)
  /-- After an opening brace: a key, or the end of the object. -/
  | firstKey (stack : List Frame)
  | nextKey (members : List (Spelled × Value Spelled)) (stack : List Frame)
  | colon (members : List (Spelled × Value Spelled)) (key : Spelled) (stack : List Frame)
  /-- After a member: a comma, or the end of the object. -/
  | nextMember (members : List (Spelled × Value Spelled)) (stack : List Frame)
  | done (value : Value Spelled)

namespace Reader

/-- A value has been read: it goes into the container on top of the stack. -/
def put (value : Value Spelled) : List Frame → Reader
  | [] => .done value
  | .array items :: stack => .nextItem (value :: items) stack
  | .object members key :: stack => .nextMember ((key, value) :: members) stack

def start (token : Token) (stack : List Frame) : Option Reader :=
  match token with
  | .null => some (put .null stack)
  | .bool truth => some (put (.bool truth) stack)
  | .number numeral => some (put (.number numeral) stack)
  | .text content => some (put (.text content) stack)
  | .beginArray => some (.firstItem stack)
  | .beginObject => some (.firstKey stack)
  | .endArray | .endObject | .colon | .comma => none

def step : Reader → Token → Option Reader
  | .value stack, token => start token stack
  | .firstItem stack, .endArray => some (put (.array []) stack)
  | .firstItem stack, token => start token (.array [] :: stack)
  | .nextItem items stack, .comma => some (.value (.array items :: stack))
  | .nextItem items stack, .endArray => some (put (.array items.reverse) stack)
  | .firstKey stack, .endObject => some (put (.object []) stack)
  | .firstKey stack, .text key => some (.colon [] key stack)
  | .nextKey members stack, .text key => some (.colon members key stack)
  | .colon members key stack, .colon => some (.value (.object members key :: stack))
  | .nextMember members stack, .comma => some (.nextKey members stack)
  | .nextMember members stack, .endObject => some (put (.object members.reverse) stack)
  | _, _ => none

def run : Reader → List Token → Option Reader
  | reader, [] => some reader
  | reader, token :: rest => do (← reader.step token).run rest

theorem run_append (reader : Reader) (first second : List Token) :
    reader.run (first ++ second) = reader.run first >>= fun next => next.run second := by
  induction first generalizing reader with
  | nil => rfl
  | cons token rest ih =>
      cases hstep : reader.step token with
      | none => simp [run, hstep]
      | some next => simp [run, hstep, ih]

end Reader

def read (document : String) : Option (Value Spelled) := do
  match ← (Reader.value []).run (← tokens document) with
  | .done value => some value
  | _ => none

end CheckedMarkup.Json
