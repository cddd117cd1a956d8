import CheckedMarkup.Proofs.Session.Checking
import CheckedMarkup.Proofs.Tag.Made
import CheckedMarkup.Session.Script

/-! # What a plan gives

The steps of a plan give attributes and content, in any mixture. Its tag has the
attributes as the first ones leave them for the later ones, and the content in
its order; what the content stands for makes no difference to the rest.
-/

namespace CheckedMarkup

namespace BuildStep

/-- The attributes that a step gives, in the order in which the tag takes them. -/
def given {π : Type} : BuildStep π → List (String × AttributeValue)
  | attr name value => [(name, value)]
  | attr? name (some value) => [(name, value)]
  | attr? _ none => []
  | attrs pairs => (Attributes.ofList pairs).entries
  | child _ | text _ | markup _ | children _ => []

/-- The content that a step gives as a piece of its own. -/
def pieces : BuildStep Source → List Source
  | child source => [source]
  | text raw => [.piece (.text raw)]
  | markup fragment => [.piece (.markup fragment)]
  | attr _ _ | attr? _ _ | attrs _ | children _ => []

/-- The list of content, once a step has added to it. -/
def gather (bulk : Option (List Source)) : BuildStep Source → Option (List Source)
  | children sources => some (bulk.getD [] ++ sources)
  | attr _ _ | attr? _ _ | attrs _ | child _ | text _ | markup _ => bulk

end BuildStep

namespace Plan

def name {π : Type} (plan : Plan π) : String := plan.origin.tag.name

/-- The attributes of the tag. -/
def attributes {π : Type} (plan : Plan π) : Attributes :=
  (plan.steps.flatMap BuildStep.given).foldl
    (Attributes.give plan.origin.tag.fixedType.isSome) plan.origin.tag.attributes

def pieces (plan : Plan Source) : List Source := plan.steps.flatMap BuildStep.pieces

def bulk? (plan : Plan Source) : Option (List Source) := plan.steps.foldl BuildStep.gather none

/-- The content, in whichever way it was given. -/
def contents (plan : Plan Source) : List Source := plan.bulk?.getD plan.pieces

end Plan

/-! ## Tags of plans -/

variable (returned : List (Option Fragment))

theorem BuildStep.foldl_apply_resolve (name : String) (fixedType : Option InputType)
    (attributes : Attributes) (pieces : List Source) (bulk : Option (List Source))
    (steps : List (BuildStep Source)) :
    (steps.map (map (Source.resolve returned))).foldl apply
        ⟨name, attributes, pieces.map (Source.resolve returned),
          bulk.map (List.map (Source.resolve returned)), fixedType⟩ =
      ⟨name, (steps.flatMap given).foldl (Attributes.give fixedType.isSome) attributes,
        (pieces ++ steps.flatMap BuildStep.pieces).map (Source.resolve returned),
        (steps.foldl gather bulk).map (List.map (Source.resolve returned)), fixedType⟩ := by
  induction steps generalizing attributes pieces bulk with
  | nil => simp
  | cons step rest ih =>
      simp only [List.map_cons, List.foldl_cons, List.flatMap_cons, List.foldl_append,
        ← List.append_assoc]
      rw [← ih]
      congr 1
      cases step with
      | attr name value => simp [map, apply, Tag.attr_eq_give, given, BuildStep.pieces, gather]
      | attr? name value =>
          cases value <;>
            simp [map, apply, Tag.attr?, Tag.attr_eq_give, given, BuildStep.pieces, gather]
      | attrs pairs =>
          simp [map, apply, Tag.attrs, Tag.foldl_attr, given, BuildStep.pieces, gather]
      | child source => simp [map, apply, Tag.child, given, BuildStep.pieces, gather]
      | text raw =>
          simp [map, apply, Tag.text, Tag.child, given, BuildStep.pieces, gather, Source.resolve]
      | markup fragment =>
          simp [map, apply, Tag.markup, Tag.child, given, BuildStep.pieces, gather, Source.resolve]
      | children sources =>
          cases bulk <;> simp [map, apply, Tag.children, given, BuildStep.pieces, gather]

namespace Plan

variable (plan : Plan Source)

/-- The tag that a plan makes, part by part. -/
theorem tag_map_resolve :
    (plan.map (Source.resolve returned)).tag =
      ⟨plan.name, plan.attributes, plan.pieces.map (Source.resolve returned),
        plan.bulk?.map (List.map (Source.resolve returned)), plan.origin.tag.fixedType⟩ := by
  have hempty : plan.origin.tag =
      ⟨plan.name, plan.origin.tag.attributes, ([] : List Source).map (Source.resolve returned),
        (none : Option (List Source)).map (List.map (Source.resolve returned)),
        plan.origin.tag.fixedType⟩ := by
    unfold name
    cases plan.origin <;> rfl
  have hsteps := BuildStep.foldl_apply_resolve returned plan.name plan.origin.tag.fixedType
    plan.origin.tag.attributes [] none plan.steps
  rw [← hempty] at hsteps
  exact hsteps

@[simp] theorem name_tag_resolve :
    (plan.map (Source.resolve returned)).tag.name = plan.name := by
  rw [tag_map_resolve]

@[simp] theorem attributes_tag_resolve :
    (plan.map (Source.resolve returned)).tag.attributes = plan.attributes := by
  rw [tag_map_resolve]

@[simp] theorem contents_tag_resolve :
    (plan.map (Source.resolve returned)).tag.contents =
      plan.contents.map (Source.resolve returned) := by
  rw [tag_map_resolve, contents, Tag.contents]
  cases plan.bulk? <;> rfl

theorem hasConflictingContent_tag_resolve :
    (plan.map (Source.resolve returned)).tag.hasConflictingContent =
      (plan.bulk?.isSome && !plan.pieces.isEmpty) := by
  rw [tag_map_resolve, Tag.hasConflictingContent]
  simp

theorem hasContent_tag_resolve :
    (plan.map (Source.resolve returned)).tag.hasContent =
      plan.contents.any fun source => !(source.resolve returned).isEmpty := by
  rw [Tag.hasContent, contents_tag_resolve, List.any_map]
  rfl

end Plan

end CheckedMarkup
