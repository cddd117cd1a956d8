/-! # Lists with keys

A list of items, each of which has a name, is a small map that keeps an order:
the order in which names first came, or the order of the names themselves.
Looking an item up sees only the last one that was put under its name, however
it was put there.
-/

namespace CheckedMarkup.Keyed

variable {α : Type} (key : α → String)

def find? (name : String) (items : List α) : Option α :=
  items.find? fun item => key item == name

def contains (name : String) (items : List α) : Bool :=
  items.any fun item => key item == name

/-- Puts an item in the place of the first one of its name, or at the end if there is none. -/
def put (item : α) : List α → List α
  | [] => [item]
  | other :: rest => if key other = key item then item :: rest else other :: put item rest

/-- Puts an item at the end, unless its name is there already. -/
def putNew (item : α) (items : List α) : List α :=
  if contains key (key item) items then items else items ++ [item]

def erase (name : String) (items : List α) : List α :=
  items.eraseP fun item => key item == name

/-- Puts an item among items that increase by name; it replaces one of the same name. -/
def putSorted (item : α) : List α → List α
  | [] => [item]
  | other :: rest =>
      if key item < key other then item :: other :: rest
      else if key item = key other then item :: rest
      else other :: putSorted item rest

/-- The items in the order of their names; of several of one name the last is kept. -/
def sorted (items : List α) : List α :=
  items.foldl (fun rest item => putSorted key item rest) []

variable {key}

@[simp] theorem contains_iff {name : String} {items : List α} :
    contains key name items = true ↔ name ∈ items.map key := by
  simp [contains]

theorem key_eq_of_find? {name : String} {items : List α} {item : α}
    (h : find? key name items = some item) : key item = name := by
  simpa using List.find?_some h

theorem mem_of_find? {name : String} {items : List α} {item : α}
    (h : find? key name items = some item) : item ∈ items :=
  List.mem_of_find?_eq_some h

theorem find?_cons (name : String) (item : α) (rest : List α) :
    find? key name (item :: rest) =
      if key item = name then some item else find? key name rest := by
  by_cases h : key item = name <;> simp [find?, h]

/-- Putting an item changes what is found under its name and nothing else. -/
theorem find?_put (name : String) (item : α) (items : List α) :
    find? key name (put key item items) =
      if key item = name then some item else find? key name items := by
  induction items with
  | nil => simp [put, find?]
  | cons other rest ih =>
      by_cases hother : key other = key item
      · by_cases hitem : key item = name <;> simp [put, find?_cons, hother, hitem]
      · by_cases hitem : key item = name
        · subst hitem
          simp [put, find?_cons, hother, ih]
        · simp [put, find?_cons, hother, hitem, ih]

/-- Putting an item among sorted ones changes what is found under its name and nothing else. -/
theorem find?_putSorted (name : String) (item : α) (items : List α) :
    find? key name (putSorted key item items) =
      if key item = name then some item else find? key name items := by
  induction items with
  | nil => simp [putSorted, find?]
  | cons other rest ih =>
      simp only [putSorted]
      split
      · simp [find?_cons]
      · split
        next heq => by_cases hitem : key item = name <;> simp_all [find?_cons]
        next hne =>
          by_cases hitem : key item = name
          · subst hitem
            simp [find?_cons, Ne.symm hne, ih]
          · simp [find?_cons, hitem, ih]

theorem eq_or_mem_of_mem_put {item other : α} {items : List α} (h : other ∈ put key item items) :
    other = item ∨ other ∈ items := by
  induction items with
  | nil => simpa [put] using h
  | cons first rest ih =>
      simp only [put] at h
      split at h
      · rcases List.mem_cons.mp h with rfl | h
        · exact .inl rfl
        · exact .inr (List.mem_cons_of_mem _ h)
      · rcases List.mem_cons.mp h with rfl | h
        · exact .inr List.mem_cons_self
        · exact (ih h).imp_right (List.mem_cons_of_mem _)

theorem eq_or_mem_of_mem_putNew {item other : α} {items : List α}
    (h : other ∈ putNew key item items) : other = item ∨ other ∈ items := by
  simp only [putNew] at h
  split at h
  · exact .inr h
  · simpa [or_comm] using h

/-- Items that are put one after the other are all that comes in. -/
theorem mem_or_mem_of_mem_foldl {step : α → List α → List α}
    (hstep : ∀ {item other : α} {items : List α}, other ∈ step item items →
      other = item ∨ other ∈ items)
    {given items : List α} {other : α}
    (h : other ∈ given.foldl (fun all item => step item all) items) :
    other ∈ given ∨ other ∈ items := by
  induction given generalizing items with
  | nil => exact .inr h
  | cons item rest ih =>
      rcases ih h with hrest | hput
      · exact .inl (List.mem_cons_of_mem _ hrest)
      · rcases hstep hput with rfl | hitems
        · exact .inl List.mem_cons_self
        · exact .inr hitems

theorem eq_or_mem_of_mem_putSorted {item other : α} {items : List α}
    (h : other ∈ putSorted key item items) : other = item ∨ other ∈ items := by
  induction items with
  | nil => simpa [putSorted] using h
  | cons first rest ih =>
      simp only [putSorted] at h
      split at h
      · simpa using h
      · split at h
        · rcases List.mem_cons.mp h with rfl | h
          · exact .inl rfl
          · exact .inr (List.mem_cons_of_mem _ h)
        · rcases List.mem_cons.mp h with rfl | h
          · exact .inr List.mem_cons_self
          · exact (ih h).imp_right (List.mem_cons_of_mem _)

/-- An item of a new name comes last. -/
theorem put_of_not_mem {item : α} {items : List α} (h : key item ∉ items.map key) :
    put key item items = items ++ [item] := by
  induction items with
  | nil => rfl
  | cons other rest ih =>
      rw [List.map_cons, List.mem_cons, not_or] at h
      rw [put, if_neg (Ne.symm h.1), ih h.2, List.cons_append]

/-- An update keeps the order of the names; a new name comes last. -/
theorem map_key_put (item : α) (items : List α) :
    (put key item items).map key =
      if key item ∈ items.map key then items.map key else items.map key ++ [key item] := by
  induction items with
  | nil => simp [put]
  | cons other rest ih =>
      by_cases hother : key other = key item
      · simp [put, hother]
      · simp only [put, hother, if_false, List.map_cons, ih, List.mem_cons, Ne.symm hother,
          false_or]
        split <;> rfl

theorem mem_map_key_put {name : String} {item : α} {items : List α} :
    name ∈ (put key item items).map key ↔ name ∈ items.map key ∨ name = key item := by
  rw [map_key_put]
  split
  next hold =>
    rw [or_iff_left_of_imp]
    rintro rfl
    exact hold
  · rw [List.mem_append, List.mem_singleton]

theorem nodup_put {item : α} {items : List α} (h : (items.map key).Nodup) :
    ((put key item items).map key).Nodup := by
  rw [map_key_put]
  split
  · exact h
  · next hnew =>
    rw [List.nodup_append]
    refine ⟨h, by simp, ?_⟩
    intro name hname other hother
    rw [List.mem_singleton] at hother
    subst hother
    exact fun heq => hnew (heq ▸ hname)

end CheckedMarkup.Keyed
