import CheckedMarkup.Markup.Escaper
import CheckedMarkup.Markup.Fragment

/-! # Templates

What a call emits is fixed before any escaper is chosen: a template lists
finished markup and the plain texts that are still to be escaped. Encoding a
template passes each of those texts through the escaper exactly once.
-/

namespace CheckedMarkup

inductive Leaf where
  /-- Markup that stands as it is. -/
  | literal (markup : String)
  /-- Plain text between tags. -/
  | text (raw : String)
  /-- Plain text inside an attribute's quotes. -/
  | value (raw : String)
deriving Repr, DecidableEq

def Leaf.encode (escaper : Escaper) : Leaf → String
  | .literal markup => markup
  | .text raw => escaper.text raw
  | .value raw => escaper.value raw

/-- Markup with the plain texts left open. -/
abbrev Template := List Leaf

def Template.encode (escaper : Escaper) (template : Template) : Fragment :=
  ⟨String.join (template.map (Leaf.encode escaper))⟩

theorem Template.encode_append (escaper : Escaper) (first second : Template) :
    (Template.encode escaper (first ++ second)).text =
      (Template.encode escaper first).text ++ (Template.encode escaper second).text := by
  simp [Template.encode]

/-- One piece of an element's content: plain text, or trusted markup. -/
inductive Piece where
  | text (raw : String)
  | markup (fragment : Fragment)
deriving Repr, DecidableEq

namespace Piece

/-- Whether nothing was supplied, before any escaping. -/
def isEmpty : Piece → Bool
  | .text raw => raw.isEmpty
  | .markup fragment => fragment.isEmpty

def leaf : Piece → Leaf
  | .text raw => .text raw
  | .markup fragment => .literal fragment.text

def encode (escaper : Escaper) (piece : Piece) : Fragment :=
  ⟨piece.leaf.encode escaper⟩

end Piece

theorem encode_map_leaf (escaper : Escaper) (pieces : List Piece) :
    Template.encode escaper (pieces.map Piece.leaf) =
      Fragment.concat (pieces.map (Piece.encode escaper)) := by
  simp [Template.encode, Fragment.concat, Piece.encode, Function.comp_def]

end CheckedMarkup
