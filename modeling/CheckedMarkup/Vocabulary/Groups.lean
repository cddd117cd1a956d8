import CheckedMarkup.Vocabulary.Error

/-! # Attribute groups

A group is a name for a list of descriptors and of other groups. Expanding a
token replaces each group by its members, depth first and from left to right,
until only descriptors are left. A group that is met inside itself is an error,
so the groups that are open at one time are distinct and expansion ends.
-/

namespace CheckedMarkup

/-- The attribute that a token of an element declares. -/
def AttributeDecl.read (element token : String) : Except VocabularyError AttributeDecl :=
  match Descriptor.read token with
  | .error fault => .error (.malformedToken element token fault)
  | .ok descriptor =>
      match descriptor.resolve with
      | .error conflict => .error (.conflictingMarkers element token conflict)
      | .ok decl => .ok decl

/-- The groups of a table, each with its members in one text. -/
structure Groups where
  entries : List (String × String)
deriving Repr, DecidableEq

namespace Groups

/-- The members of a group. The last entry of a name counts. -/
def members? (groups : Groups) (name : String) : Option (List String) :=
  (Keyed.find? Prod.fst name groups.entries.reverse).map fun entry => Text.words entry.2

/-- The groups that are not open yet, as often as the table names them. -/
def closed (groups : Groups) (trail : List String) : List String :=
  (groups.entries.map Prod.fst).filter fun name => !trail.contains name

theorem mem_names_of_members? {groups : Groups} {name : String} {members : List String}
    (h : groups.members? name = some members) : name ∈ groups.entries.map Prod.fst := by
  simp only [members?, Keyed.find?, Option.map_eq_some_iff] at h
  obtain ⟨entry, hentry, _⟩ := h
  have hname : entry.1 = name := by simpa using List.find?_some hentry
  have hmem := List.mem_of_find?_eq_some hentry
  exact List.mem_map.mpr ⟨entry, by simpa using hmem, hname⟩

theorem closed_append (groups : Groups) (trail : List String) (name : String) :
    groups.closed (trail ++ [name]) = (groups.closed trail).filter (· != name) := by
  simp only [closed, List.filter_filter]
  congr 1
  funext other
  by_cases hother : other = name <;> simp [hother]

theorem length_closed_lt {groups : Groups} {trail : List String} {name : String}
    {members : List String} (hmembers : groups.members? name = some members)
    (hname : name ∉ trail) :
    (groups.closed (trail ++ [name])).length < (groups.closed trail).length := by
  rw [closed_append, List.length_filter_lt_length_iff_exists]
  refine ⟨name, ?_, by simp⟩
  simpa [closed, hname] using mem_names_of_members? hmembers

/-- The attributes that a token stands for, inside the groups of the trail, outermost first. -/
def expand (groups : Groups) (element : String) (trail : List String) (token : String) :
    Except VocabularyError (List AttributeDecl) :=
  match hmembers : groups.members? token with
  | none => return [← AttributeDecl.read element token]
  | some members =>
      if htoken : token ∈ trail then .error (.groupCycle element token (trail ++ [token]))
      else do
        have := length_closed_lt hmembers htoken
        return (← members.mapM (groups.expand element (trail ++ [token]))).flatten
termination_by (groups.closed trail).length

end Groups

end CheckedMarkup
