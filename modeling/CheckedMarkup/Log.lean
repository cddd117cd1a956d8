import CheckedMarkup.Markup.Fragment
import CheckedMarkup.Tag.InputType

/-! # Log entries

What is told to an observer while vocabularies are compiled and markup is made.
-/

namespace CheckedMarkup.Log

inductive Level where
  | trace
  | debug
  | warn
deriving Repr, DecidableEq

def Level.name : Level → String
  | trace => "TRACE"
  | debug => "DEBUG"
  | warn => "WARN"

inductive Entry where
  | compiled (elements attributes : Nat)
  /-- An attribute was dropped because the type of the input field is fixed. -/
  | typeFixed (type : InputType)
  | added (fragment : Fragment)
  /-- An element was opened, with so many elements open around it. -/
  | opened (name : String) (depth : Nat)
  /-- An element was closed, with so many elements left open. -/
  | closed (name : String) (depth : Nat)
  | finished (fragments bytes : Nat)
  | abandoned (openTags : List String)
deriving Repr, DecidableEq

namespace Entry

def level : Entry → Level
  | compiled _ _ | typeFixed _ | finished _ _ => .debug
  | added _ | opened _ _ | closed _ _ => .trace
  | abandoned _ => .warn

def message : Entry → String
  | compiled elements attributes =>
      s!"Compiled schema registry: {elements} elements, {attributes} attribute declarations"
  | typeFixed type => s!"<input> type is fixed to '{type.name}'; ignoring explicit type"
  | added fragment => s!"element: {fragment.text}"
  | opened name depth => s!"start <{name}> at depth {depth}"
  | closed name depth => s!"end </{name}> at depth {depth}"
  | finished fragments bytes => s!"finished markup stream: {fragments} fragments, {bytes} bytes"
  | abandoned openTags =>
      "markup stream dropped with unclosed tags: " ++ ", ".intercalate openTags

def line (entry : Entry) : String :=
  s!"{entry.level.name} {entry.message}"

end Entry

end CheckedMarkup.Log
