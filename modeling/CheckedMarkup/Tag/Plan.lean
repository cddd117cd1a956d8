import CheckedMarkup.Log
import CheckedMarkup.Tag.Basic

/-! # Plans of tags

A tag is made step by step, and the steps can be kept before they are taken.
The content of a plan is of any type: while a page is still a plan, its pieces
may stand for markup that has not been made.
-/

namespace CheckedMarkup

inductive Origin where
  | named (name : String)
  | input (type : InputType)
deriving Repr, DecidableEq

def Origin.tag : Origin → Tag
  | named name => .named name
  | input type => .input type

inductive BuildStep (π : Type) where
  | attr (name : String) (value : AttributeValue)
  | attr? (name : String) (value : Option AttributeValue)
  /-- The pairs are collected first, and then given together. -/
  | attrs (pairs : List (String × AttributeValue))
  | child (piece : π)
  | text (raw : String)
  | markup (fragment : Fragment)
  | children (pieces : List π)
deriving Repr, DecidableEq

namespace BuildStep

/-- The step with other content. -/
def map {π ρ : Type} (f : π → ρ) : BuildStep π → BuildStep ρ
  | attr name value => attr name value
  | attr? name value => attr? name value
  | attrs pairs => attrs pairs
  | child piece => child (f piece)
  | text raw => text raw
  | markup fragment => markup fragment
  | children pieces => children (pieces.map f)

def apply (tag : Tag) : BuildStep Piece → Tag
  | attr name value => tag.attr name value
  | attr? name value => tag.attr? name value
  | attrs pairs => tag.attrs (.ofList pairs)
  | child piece => tag.child piece
  | text raw => tag.text raw
  | markup fragment => tag.markup fragment
  | children pieces => tag.children pieces

def names {π : Type} : BuildStep π → List String
  | attr name _ => [name]
  | attr? name (some _) => [name]
  | attr? _ none => []
  | attrs pairs => (Attributes.ofList pairs).entries.map Prod.fst
  | child _ | text _ | markup _ | children _ => []

end BuildStep

structure Plan (π : Type) where
  origin : Origin
  steps : List (BuildStep π)
deriving Repr, DecidableEq

namespace Plan

def map {π ρ : Type} (f : π → ρ) (plan : Plan π) : Plan ρ :=
  ⟨plan.origin, plan.steps.map (BuildStep.map f)⟩

def tag (plan : Plan Piece) : Tag :=
  plan.steps.foldl BuildStep.apply plan.origin.tag

/-- What is logged while the tag is made: each attribute that is dropped because it is fixed. -/
def notices {π : Type} (plan : Plan π) : List Log.Entry :=
  match plan.origin with
  | .named _ => []
  | .input type =>
      ((plan.steps.flatMap BuildStep.names).filter (Tag.input type).fixes).map
        fun _ => .typeFixed type

end Plan

end CheckedMarkup
