import CheckedMarkup.Proofs.Session.Run
import CheckedMarkup.Proofs.Tag.Made

/-! # Trees

Markup can be rendered from the inside to the outside: the content of a tag is
plain text, and what other tags were rendered to. Such calls form a tree. The
normal form of a tree keeps what its markup says: the names, the attributes as
they are written, and the texts between them.
-/

namespace CheckedMarkup

/-- Texts and trees in a row. Each tree has a label and is followed by what stands behind it. -/
inductive Forest (α : Type) where
  | nil
  | text (raw : String) (rest : Forest α)
  | node (label : α) (content rest : Forest α)
deriving DecidableEq

structure Tree (α : Type) where
  label : α
  content : Forest α
deriving DecidableEq

/-! ## Rendering -/

/-- The tag with other content, given in the way in which its own is given. -/
def Tag.fill (tag : Tag) (contents : List Piece) : Tag :=
  match tag.bulk with
  | none => { tag with pieces := contents }
  | some _ => { tag with bulk := some contents }

/-- The pieces of content that calls make, each call with the content that the calls inside have
made. -/
def Forest.render (vocabulary : Vocabulary) : Forest Tag → Except CallError (List Piece)
  | .nil => return []
  | .text raw rest => return .text raw :: (← rest.render vocabulary)
  | .node tag content rest => do
      let contents ← content.render vocabulary
      let fragment ← (Session.new vocabulary .xml).make .whole (tag.fill contents)
      return .markup fragment :: (← rest.render vocabulary)

def Tree.render (vocabulary : Vocabulary) (tree : Tree Tag) : Except CallError Fragment := do
  let contents ← tree.content.render vocabulary
  (Session.new vocabulary .xml).make .whole (tree.label.fill contents)

/-- The outermost call is a call to render, and it can be taken at any time of a run. -/
theorem Tree.render_eq_ok_iff {vocabulary : Vocabulary} {calls : List (Call Tag Piece)}
    (hfinished : ((Session.new vocabulary .xml).afterAll calls).isFinished = false)
    {tree : Tree Tag} {fragment : Fragment} :
    tree.render vocabulary = .ok fragment ↔
      ∃ contents, tree.content.render vocabulary = .ok contents ∧
        ((Session.new vocabulary .xml).afterAll calls).answer
          (.render (tree.label.fill contents)) = .ok (.fragment fragment) := by
  rw [render, Fallible.bind_eq_ok_iff]
  simp only [Session.answer_render_eq_ok_iff hfinished, Session.make, Session.vocabulary_afterAll,
    Session.escaper_afterAll]

/-- Whether all tags are made with plain values. -/
def Forest.IsPlain : Forest Tag → Prop
  | .nil => True
  | .text _ rest => rest.IsPlain
  | .node tag content rest => tag.IsPlain ∧ content.IsPlain ∧ rest.IsPlain

def Tree.IsPlain (tree : Tree Tag) : Prop := tree.label.IsPlain ∧ tree.content.IsPlain

/-! ## Normal forms -/

/-- The name of an element, and its attributes as they are written, before any escaping. -/
structure Label where
  name : String
  attributes : List (String × String)
deriving DecidableEq

/-- The text that an attribute has with a value: a switch has its own name, one of listed texts is
in lower case, and a switch that is off has none. -/
def AttributeDecl.normalValue? (decl : AttributeDecl) : AttributeValue → Option String
  | .flag false => none
  | .flag true => some decl.name
  | .text raw => some (decl.normal raw)
  | .markup fragment => some (decl.normal fragment.text)

def ElementDecl.normalOf? (element : ElementDecl) (entry : String × AttributeValue) :
    Option (String × String) := do
  let decl ← element.attribute? entry.1
  return (Text.lowercase entry.1, ← decl.normalValue? entry.2)

/-- The name and the attributes that are written of a tag. -/
def Vocabulary.label (vocabulary : Vocabulary) (tag : Tag) : Label where
  name := tag.name.toLower
  attributes := match vocabulary.find? tag.name with
    | none => []
    | some element => tag.attributes.entries.filterMap element.normalOf?

namespace Forest

variable {α : Type}

/-- Puts a text in front. It is joined to a text that stands there, and dropped if it is empty. -/
def addText (raw : String) (forest : Forest α) : Forest α :=
  if raw = "" then forest
  else match forest with
    | .text more rest => .text (raw ++ more) rest
    | other => .text raw other

def normal (vocabulary : Vocabulary) : Forest Tag → Forest Label
  | .nil => .nil
  | .text raw rest => addText raw (rest.normal vocabulary)
  | .node tag content rest =>
      .node (vocabulary.label tag) (content.normal vocabulary) (rest.normal vocabulary)

end Forest

def Tree.normal (vocabulary : Vocabulary) (tree : Tree Tag) : Tree Label :=
  ⟨vocabulary.label tree.label, tree.content.normal vocabulary⟩

/-- A tag with the name and the attributes of a label, all of them as plain text. -/
def Label.tag (label : Label) : Tag :=
  (Tag.named label.name).attrs (.ofList (label.attributes.map fun (name, raw) => (name, .text raw)))

def Forest.tags : Forest Label → Forest Tag
  | .nil => .nil
  | .text raw rest => .text raw rest.tags
  | .node label content rest => .node label.tag content.tags rest.tags

def Tree.tags (tree : Tree Label) : Tree Tag := ⟨tree.label.tag, tree.content.tags⟩

end CheckedMarkup
