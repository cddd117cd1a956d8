import CheckedMarkup.Proofs.Keyed
import CheckedMarkup.Proofs.Tag.Made

/-! # Changes to attributes

What attributes are left when they were given, given anew, merged and taken away
can be said without a map. Each call makes changes to single names in lower case,
and for each name the changes after it was last away decide: the first of them has
its place and the last one its value.
-/

namespace CheckedMarkup.Attributes

/-- What a call does to one attribute, by its name in lower case. -/
inductive Change where
  | given (name : String) (value : AttributeValue)
  | erased (name : String)
deriving Repr, DecidableEq

namespace Change

def name : Change → String
  | given name _ => name
  | erased name => name

def value? : Change → Option AttributeValue
  | given _ value => some value
  | erased _ => none

end Change

/-- The value that is left under a name: the last change of it decides. -/
def latest (name : String) (changes : List Change) : Option AttributeValue :=
  (Keyed.find? Change.name name changes.reverse).bind Change.value?

/-- The number of changes before a name is given for the first time since it was last away. -/
def since (name : String) : List Change → Nat
  | [] => 0
  | change :: later =>
      if change.name = name ∧ change.value?.isSome ∧ .erased name ∉ later then 0
      else since name later + 1

/-- What is left of the changes, in the order in which the names came to stay. -/
def remaining : List Change → List (String × AttributeValue)
  | [] => []
  | .erased _ :: later => remaining later
  | .given name value :: later =>
      if .erased name ∈ later then remaining later
      else
        (name, (latest name later).getD value) ::
          (remaining later).filter fun entry => entry.1 != name

/-! ## What is left under a name -/

variable {name other : String} {value : AttributeValue} {later : List Change}

theorem latest_append (name : String) (changes : List Change) (change : Change) :
    latest name (changes ++ [change]) =
      if change.name = name then change.value? else latest name changes := by
  rw [latest, List.reverse_append, List.reverse_singleton, List.singleton_append,
    Keyed.find?_cons]
  split <;> rfl

theorem latest_cons (name : String) (change : Change) (later : List Change) :
    latest name (change :: later) =
      ((Keyed.find? Change.name name later.reverse).or
        (if change.name = name then some change else none)).bind Change.value? := by
  rw [latest, List.reverse_cons, Keyed.find?_append, Keyed.find?_cons]
  rfl

theorem latest_erased_cons (name other : String) (later : List Change) :
    latest name (.erased other :: later) = latest name later := by
  rw [latest_cons, latest]
  cases Keyed.find? Change.name name later.reverse with
  | some change => rfl
  | none =>
      rw [Option.none_or]
      split <;> rfl

theorem latest_given_cons_of_erased (h : .erased other ∈ later) :
    latest name (.given other value :: later) = latest name later := by
  rw [latest_cons, latest]
  cases hfind : Keyed.find? Change.name name later.reverse with
  | some change => rfl
  | none =>
      -- the name is not changed later on, so it is not the one that is erased
      rw [Keyed.find?_eq_none_iff, List.map_reverse, List.mem_reverse] at hfind
      have hne : other ≠ name := fun heq => hfind (heq ▸ List.mem_map_of_mem h)
      rw [Option.none_or, if_neg (show ¬Change.name (.given other value) = name from hne)]

theorem latest_given_cons (h : .erased other ∉ later) :
    latest name (.given other value :: later) =
      if other = name then some ((latest other later).getD value) else latest name later := by
  by_cases hname : other = name
  · subst hname
    rw [if_pos rfl, latest_cons, latest]
    cases hfind : Keyed.find? Change.name other later.reverse with
    | none => simp [Change.name, Change.value?]
    | some change =>
        have hmem := List.mem_reverse.mp (Keyed.mem_of_find? hfind)
        cases change with
        | given _ _ => rfl
        | erased erased =>
            obtain rfl : erased = other := Keyed.key_eq_of_find? hfind
            exact absurd hmem h
  · rw [if_neg hname, latest_cons,
      if_neg (show ¬Change.name (.given other value) = name from hname), Option.or_none, latest]

theorem find?_remaining (name : String) (changes : List Change) :
    (Keyed.find? Prod.fst name (remaining changes)).map Prod.snd = latest name changes := by
  induction changes with
  | nil => rfl
  | cons change later ih =>
      cases change with
      | erased other => rw [remaining, ih, latest_erased_cons]
      | given other value =>
          rw [remaining]
          split
          next herased => rw [ih, latest_given_cons_of_erased herased]
          next hlasts =>
            rw [latest_given_cons hlasts, Keyed.find?_cons]
            by_cases hname : other = name
            · rw [if_pos hname, if_pos hname, Option.map_some]
            · rw [if_neg hname, if_neg hname, Keyed.find?_filter_ne (Ne.symm hname), ih]

/-! ## The order of what is left -/

theorem since_erased_cons (name other : String) (later : List Change) :
    since name (.erased other :: later) = since name later + 1 :=
  if_neg (by simp [Change.value?])

theorem since_given_cons_of_erased (h : .erased other ∈ later) :
    since name (.given other value :: later) = since name later + 1 := by
  refine if_neg ?_
  rintro ⟨hname, -, hlasts⟩
  exact hlasts (hname ▸ h)

theorem since_given_cons_self (h : .erased other ∉ later) :
    since other (.given other value :: later) = 0 :=
  if_pos ⟨rfl, rfl, h⟩

theorem since_given_cons_of_ne (h : other ≠ name) :
    since name (.given other value :: later) = since name later + 1 :=
  if_neg fun hgives => h hgives.1

theorem pairwise_remaining (changes : List Change) :
    (remaining changes).Pairwise fun first second =>
      since first.1 changes < since second.1 changes := by
  induction changes with
  | nil => exact .nil
  | cons change later ih =>
      cases change with
      | erased other =>
          simpa only [remaining, since_erased_cons, Nat.add_lt_add_iff_right] using ih
      | given other value =>
          rw [remaining]
          split
          next herased =>
            simpa only [since_given_cons_of_erased herased, Nat.add_lt_add_iff_right] using ih
          next hlasts =>
            have hothers : ∀ entry ∈ (remaining later).filter (fun entry => entry.1 != other),
                since entry.1 (.given other value :: later) = since entry.1 later + 1 := by
              intro entry hentry
              exact since_given_cons_of_ne (Ne.symm (bne_iff_ne.mp (List.mem_filter.mp hentry).2))
            rw [List.pairwise_cons]
            constructor
            · intro entry hentry
              rw [since_given_cons_self hlasts, hothers entry hentry]
              exact Nat.succ_pos _
            · apply (ih.filter _).imp_of_mem
              intro first second hfirst hsecond hlt
              rw [hothers first hfirst, hothers second hsecond]
              exact Nat.succ_lt_succ hlt

/-! ## One more change -/

theorem remaining_append_given (changes : List Change) (name : String) (value : AttributeValue) :
    remaining (changes ++ [.given name value]) =
      Keyed.put Prod.fst (name, value) (remaining changes) := by
  induction changes with
  | nil => rfl
  | cons change later ih =>
      cases change with
      | erased other => exact ih
      | given other old =>
          have herased : .erased other ∈ later ++ [.given name value] ↔ .erased other ∈ later := by
            simp
          simp only [List.cons_append, remaining, herased, ih, latest_append]
          split
          next _ => rfl
          next _ =>
            rw [@Keyed.filter_put _ Prod.fst fun kept => kept != other]
            by_cases hname : name = other
            · simp [hname, Change.name, Change.value?, Keyed.put]
            · simp [hname, Ne.symm hname, Change.name, Keyed.put]

theorem remaining_append_erased (changes : List Change) (name : String) :
    remaining (changes ++ [.erased name]) =
      (remaining changes).filter fun entry => entry.1 != name := by
  induction changes with
  | nil => rfl
  | cons change later ih =>
      cases change with
      | erased other => exact ih
      | given other value =>
          have herased : .erased other ∈ later ++ [.erased name] ↔
              .erased other ∈ later ∨ other = name := by
            simp
          simp only [List.cons_append, remaining, herased, ih, latest_append, Change.name]
          by_cases hname : other = name
          · subst hname
            by_cases hlater : .erased other ∈ later <;> simp [hlater]
          · by_cases hlater : .erased other ∈ later
            · simp [hlater]
            · simp only [hlater, hname, Ne.symm hname, false_or, if_false, ne_eq, not_false_iff,
                bne_iff_ne, List.filter_cons_of_pos, List.filter_filter, Bool.and_comm]

/-! ## Attributes that are put together -/

/-- Names in lower case, with the values that are given to them. -/
def lowered (pairs : List (String × AttributeValue)) : List (String × AttributeValue) :=
  pairs.map fun (name, value) => (Text.lowercase name, value)

theorem lowered_of_forall {pairs : List (String × AttributeValue)}
    (h : ∀ pair ∈ pairs, Text.lowercase pair.1 = pair.1) : lowered pairs = pairs := by
  rw [lowered, List.map_congr_left (g := id), List.map_id]
  intro pair hpair
  exact Prod.ext (h pair hpair) rfl

def givings (entries : List (String × AttributeValue)) : List Change :=
  entries.map fun (name, value) => .given name value

/-- The calls that put attributes together, one after the other. -/
inductive Recipe where
  | empty
  | collected (pairs : List (String × AttributeValue))
  | insert (before : Recipe) (name : String) (value : AttributeValue)
  | insert? (before : Recipe) (name : String) (value : Option AttributeValue)
  | remove (before : Recipe) (name : String)
  | merge (before other : Recipe)

namespace Recipe

def attributes : Recipe → Attributes
  | empty => .empty
  | collected pairs => .ofList pairs
  | insert before name value => before.attributes.insert name value
  | insert? before name value => before.attributes.insert? name value
  | remove before name => (before.attributes.remove name).2
  | merge before other => before.attributes.merge other.attributes

/-- All changes that the calls make. Merging gives what the other calls have left. -/
def changes : Recipe → List Change
  | empty => []
  | collected pairs => givings (lowered pairs)
  | insert before name value => before.changes ++ [.given (Text.lowercase name) value]
  | insert? before name (some value) => before.changes ++ [.given (Text.lowercase name) value]
  | insert? before _ none => before.changes
  | remove before name => before.changes ++ [.erased (Text.lowercase name)]
  | merge before other => before.changes ++ givings (remaining other.changes)

end Recipe

theorem entries_insertAll_eq_foldl (attributes : Attributes)
    (pairs : List (String × AttributeValue)) :
    (attributes.insertAll pairs).entries =
      (lowered pairs).foldl (fun all entry => Keyed.put Prod.fst entry all)
        attributes.entries := by
  induction pairs generalizing attributes with
  | nil => rfl
  | cons pair rest ih => exact ih (attributes.insert pair.1 pair.2)

theorem remaining_append_givings (changes : List Change)
    (entries : List (String × AttributeValue)) :
    remaining (changes ++ givings entries) =
      entries.foldl (fun all entry => Keyed.put Prod.fst entry all) (remaining changes) := by
  induction entries generalizing changes with
  | nil => rw [givings, List.map_nil, List.append_nil, List.foldl_nil]
  | cons entry rest ih =>
      rw [List.foldl_cons, ← remaining_append_given, ← ih, List.append_assoc]
      rfl

theorem isProper_attributes (recipe : Recipe) : recipe.attributes.IsProper := by
  induction recipe with
  | empty => exact isProper_empty
  | collected pairs => exact isProper_empty.insertAll pairs
  | insert before name value ih => exact ih.insert name value
  | insert? before name value ih =>
      cases value with
      | none => exact ih
      | some value => exact ih.insert name value
  | remove before name ih => exact ih.erase name
  | merge before other ih _ => exact ih.insertAll _

theorem entries_erase {attributes : Attributes} (h : attributes.IsProper) (name : String) :
    (attributes.erase name).entries =
      attributes.entries.filter fun entry => entry.1 != Text.lowercase name :=
  Keyed.erase_eq_filter h.distinct _

theorem entries_attributes (recipe : Recipe) :
    recipe.attributes.entries = remaining recipe.changes := by
  induction recipe with
  | empty => rfl
  | collected pairs =>
      exact (entries_insertAll_eq_foldl .empty pairs).trans (remaining_append_givings [] _).symm
  | insert before name value ih =>
      rw [Recipe.changes, remaining_append_given, ← ih]
      rfl
  | insert? before name value ih =>
      cases value with
      | none => exact ih
      | some value =>
          rw [Recipe.changes, remaining_append_given, ← ih]
          rfl
  | remove before name ih =>
      rw [Recipe.changes, remaining_append_erased, ← ih]
      exact entries_erase (isProper_attributes before) name
  | merge before other ih ihOther =>
      rw [Recipe.changes, remaining_append_givings, ← ih, ← ihOther, Recipe.attributes, merge,
        entries_insertAll_eq_foldl, lowered_of_forall (isProper_attributes other).lower]

/-- Merging what was collected from pairs is giving the pairs one by one. -/
theorem merge_ofList (attributes : Attributes) (pairs : List (String × AttributeValue)) :
    attributes.merge (.ofList pairs) = attributes.insertAll pairs := by
  have hproper : (ofList pairs).IsProper := isProper_empty.insertAll pairs
  have hentries : (attributes.merge (.ofList pairs)).entries =
      (attributes.insertAll pairs).entries := by
    rw [merge, entries_insertAll_eq_foldl, lowered_of_forall hproper.lower, ofList,
      entries_insertAll_eq_foldl, entries_insertAll_eq_foldl]
    exact Keyed.foldl_put_foldl_put isProper_empty.distinct (lowered pairs) attributes.entries
  exact congrArg Attributes.mk hentries

theorem contains_iff {attributes : Attributes} :
    attributes.contains name = true ↔
      Text.lowercase name ∈ attributes.entries.map Prod.fst := by
  rw [contains, find?, Option.isSome_map, Keyed.find?, List.find?_isSome, List.mem_map]
  simp only [beq_iff_eq]

theorem map_fst_insert (attributes : Attributes) (name : String) (value : AttributeValue) :
    (attributes.insert name value).entries.map Prod.fst =
      if attributes.contains name then attributes.entries.map Prod.fst
      else attributes.entries.map Prod.fst ++ [Text.lowercase name] := by
  simp only [contains_iff]
  exact Keyed.map_key_put _ _

/-- Attributes are what changes leave: a map from names in lower case, in the order in which the
names came to stay. -/
structure IsLeftBy (attributes : Attributes) (changes : List Change) : Prop where
  entries : attributes.entries = remaining changes
  distinct : (attributes.entries.map Prod.fst).Nodup
  lower : ∀ entry ∈ attributes.entries, Text.lowercase entry.1 = entry.1
  ordered : attributes.entries.Pairwise fun first second =>
    since first.1 changes < since second.1 changes
  found : ∀ name, attributes.find? name = latest (Text.lowercase name) changes
  contained : ∀ name, attributes.contains name = (latest (Text.lowercase name) changes).isSome
  inserted : ∀ name value, (attributes.insert name value).entries.map Prod.fst =
    if attributes.contains name then attributes.entries.map Prod.fst
    else attributes.entries.map Prod.fst ++ [Text.lowercase name]
  removed : ∀ name, attributes.remove name =
    (latest (Text.lowercase name) changes,
      ⟨attributes.entries.filter fun entry => entry.1 != Text.lowercase name⟩)

/-- However attributes are put together, they are a map in the order of giving whose names are in
lower case: what is left of the changes, found by any spelling with the same lower case. An update
keeps the place of the name and the last value stays; what is taken away is given back and the rest
keeps its order. To merge what was collected from pairs is to give the pairs, one by one. -/
theorem is_ordered_map (recipe : Recipe) :
    recipe.attributes.IsLeftBy recipe.changes ∧
      ∀ pairs, recipe.attributes.merge (.ofList pairs) = recipe.attributes.insertAll pairs := by
  have hproper := isProper_attributes recipe
  have hentries := entries_attributes recipe
  have hfound : ∀ name, recipe.attributes.find? name =
      latest (Text.lowercase name) recipe.changes := by
    intro name
    rw [find?, hentries, find?_remaining]
  refine ⟨?_, merge_ofList recipe.attributes⟩
  exact {
    entries := hentries
    distinct := hproper.distinct
    lower := hproper.lower
    ordered := hentries ▸ pairwise_remaining recipe.changes
    found := hfound
    contained := fun name => congrArg Option.isSome (hfound name)
    inserted := map_fst_insert recipe.attributes
    removed := fun name =>
      Prod.ext (hfound name) (congrArg Attributes.mk (entries_erase hproper name)) }

-- the sign of the unit kelvin has the letter k as its lower case
example :
    (Recipe.insert (.remove (.collected [("Kind", .flag true), ("id", .text "a")]) "\u212Aind")
      "KIND" (.text "b")).attributes.entries = [("id", .text "a"), ("kind", .text "b")] := by
  decide +kernel

end CheckedMarkup.Attributes
