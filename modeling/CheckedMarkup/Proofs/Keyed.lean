import CheckedMarkup.Keyed

/-! # Lists in the order of their keys

Putting items in one after the other gives a list whose names increase, so that
no name comes twice. A list that is in order already is not changed. Such a list
is known by what is found in it, which is the last item that came for each name,
in whatever order the names came. Where names have places instead, an item keeps
the place of its name, whatever is put in around it.
-/

namespace CheckedMarkup.Keyed

variable {α : Type} {key : α → String} {item : α} {items others : List α}

theorem pairwise_putSorted (h : (items.map key).Pairwise (· < ·)) (item : α) :
    ((putSorted key item items).map key).Pairwise (· < ·) := by
  induction items with
  | nil => simp [putSorted]
  | cons other rest ih =>
      rw [List.map_cons, List.pairwise_cons] at h
      obtain ⟨hother, hrest⟩ := h
      simp only [putSorted]
      split
      next hlt =>
        rw [List.map_cons, List.map_cons, List.pairwise_cons, List.pairwise_cons]
        refine ⟨?_, hother, hrest⟩
        intro name hname
        rcases List.mem_cons.mp hname with rfl | hname
        · exact hlt
        · exact String.lt_trans hlt (hother name hname)
      next hnlt =>
        split
        next heq =>
          rw [List.map_cons, List.pairwise_cons, heq]
          exact ⟨hother, hrest⟩
        next hne =>
          -- neither below the first name nor equal to it: above it
          have habove : key other < key item :=
            Std.lt_of_le_of_ne (String.not_lt.mp hnlt) (Ne.symm hne)
          rw [List.map_cons, List.pairwise_cons]
          refine ⟨?_, ih hrest⟩
          intro name hname
          obtain ⟨put, hput, rfl⟩ := List.mem_map.mp hname
          rcases eq_or_mem_of_mem_putSorted hput with rfl | hold
          · exact habove
          · exact hother _ (List.mem_map_of_mem hold)

theorem putSorted_of_forall_lt (h : ∀ other ∈ items, key other < key item) :
    putSorted key item items = items ++ [item] := by
  induction items with
  | nil => rfl
  | cons other rest ih =>
      have hlt := h other List.mem_cons_self
      have hnlt : ¬key item < key other := String.lt_asymm hlt
      have hne : key item ≠ key other := by
        intro heq
        rw [heq] at hlt
        exact String.lt_irrefl _ hlt
      rw [putSorted, if_neg hnlt, if_neg hne, ih fun x hx => h x (List.mem_cons_of_mem _ hx)]
      rfl

theorem foldl_putSorted_of_pairwise {more : List α}
    (h : ((items ++ more).map key).Pairwise (· < ·)) :
    more.foldl (fun rest item => putSorted key item rest) items = items ++ more := by
  induction more generalizing items with
  | nil => simp
  | cons item rest ih =>
      have hbelow : ∀ other ∈ items, key other < key item := by
        intro other hother
        rw [List.map_append, List.pairwise_append] at h
        exact h.2.2 _ (List.mem_map_of_mem hother) _ (by simp)
      rw [List.foldl_cons, putSorted_of_forall_lt hbelow, ih (by simpa using h)]
      simp

theorem pairwise_sorted (items : List α) : ((sorted key items).map key).Pairwise (· < ·) := by
  have hfold : ∀ more first : List α, (first.map key).Pairwise (· < ·) →
      ((more.foldl (fun rest item => putSorted key item rest) first).map key).Pairwise
        (· < ·) := by
    intro more
    induction more with
    | nil => exact fun first hfirst => hfirst
    | cons item rest ih => exact fun first hfirst => ih _ (pairwise_putSorted hfirst item)
  exact hfold items [] List.Pairwise.nil

theorem sorted_of_pairwise (h : (items.map key).Pairwise (· < ·)) : sorted key items = items := by
  rw [← List.nil_append items] at h
  exact foldl_putSorted_of_pairwise h

theorem mem_of_mem_sorted (h : item ∈ sorted key items) : item ∈ items :=
  (mem_or_mem_of_mem_foldl eq_or_mem_of_mem_putSorted h).resolve_right List.not_mem_nil

theorem nodup_of_pairwise (h : (items.map key).Pairwise (· < ·)) : (items.map key).Nodup := by
  apply h.imp
  intro first second hlt heq
  rw [heq] at hlt
  exact String.lt_irrefl _ hlt

/-- Where no name comes twice, looking a name up finds the one item that has it. -/
theorem find?_eq_some_iff (h : (items.map key).Nodup) {name : String} :
    find? key name items = some item ↔ item ∈ items ∧ key item = name := by
  constructor
  · intro hfind
    exact ⟨mem_of_find? hfind, key_eq_of_find? hfind⟩
  · rintro ⟨hmem, rfl⟩
    induction items with
    | nil => cases hmem
    | cons other rest ih =>
        rw [List.map_cons, List.nodup_cons] at h
        rw [find?_cons]
        rcases List.mem_cons.mp hmem with rfl | hmem
        · rw [if_pos rfl]
        · have hne : key other ≠ key item := by
            intro heq
            exact h.1 (heq ▸ List.mem_map_of_mem hmem)
          rw [if_neg hne, ih h.2 hmem]

/-! ## What is found -/

theorem find?_eq_none_iff {name : String} :
    find? key name items = none ↔ name ∉ items.map key := by
  simp [find?]

theorem find?_append (name : String) (items others : List α) :
    find? key name (items ++ others) = (find? key name items).or (find? key name others) :=
  List.find?_append

/-- Among sorted items the last one that was put under a name is found. -/
theorem find?_sorted (name : String) (items : List α) :
    find? key name (sorted key items) = find? key name items.reverse := by
  have hfold : ∀ more first : List α,
      find? key name (more.foldl (fun rest item => putSorted key item rest) first) =
        (find? key name more.reverse).or (find? key name first) := by
    intro more
    induction more with
    | nil => intro first; rfl
    | cons item rest ih =>
        intro first
        rw [List.foldl_cons, ih, find?_putSorted, List.reverse_cons, find?_append, find?_cons,
          Option.or_assoc]
        congr 1
        split <;> rfl
  rw [sorted, hfold]
  exact Option.or_none

theorem mem_iff_find?_eq (h : (items.map key).Nodup) :
    item ∈ items ↔ find? key (key item) items = some item := by
  rw [find?_eq_some_iff h, and_iff_left rfl]

/-- Where no name comes twice, the items are known, but for their order, by what is found. -/
theorem perm_of_find?_eq (hitems : (items.map key).Nodup) (hothers : (others.map key).Nodup)
    (hfind : ∀ name, find? key name items = find? key name others) : items.Perm others := by
  have hdistinct : ∀ {list : List α}, (list.map key).Nodup → list.Nodup :=
    fun h => List.Pairwise.of_map key (fun _ _ hne heq => hne (congrArg key heq)) h
  rw [List.perm_ext_iff_of_nodup (hdistinct hitems) (hdistinct hothers)]
  intro item
  rw [mem_iff_find?_eq hitems, mem_iff_find?_eq hothers, hfind]

/-- Items in the order of their names are known by what is found. -/
theorem eq_of_find?_eq (hitems : (items.map key).Pairwise (· < ·))
    (hothers : (others.map key).Pairwise (· < ·))
    (hfind : ∀ name, find? key name items = find? key name others) : items = others := by
  have hperm := perm_of_find?_eq (nodup_of_pairwise hitems) (nodup_of_pairwise hothers) hfind
  rw [List.pairwise_map] at hitems hothers
  exact hperm.eq_of_pairwise (fun _ _ _ _ hlt hgt => absurd hgt (String.lt_asymm hlt))
    hitems hothers

/-! ## Places -/

theorem put_put {later : α} (h : key item = key later) (items : List α) :
    put key later (put key item items) = put key later items := by
  induction items with
  | nil => simp [put, h]
  | cons other rest ih =>
      by_cases hother : key other = key later
      · simp [put, h, hother]
      · simp [put, h, hother, ih]

/-- Where an item has its place already, it does not matter what else is put in before. -/
theorem put_comm {later : α} (hne : key item ≠ key later) (hplace : key item ∈ items.map key) :
    put key item (put key later items) = put key later (put key item items) := by
  induction items with
  | nil => cases hplace
  | cons other rest ih =>
      by_cases hother : key other = key item
      · simp [put, hother, hne]
      · have hrest : key item ∈ rest.map key :=
          (List.mem_cons.mp hplace).resolve_left (Ne.symm hother)
        by_cases hlater : key other = key later
        · simp [put, hlater, hne.symm]
        · simp [put, hother, hlater, ih hrest]

theorem put_foldl_put (hplace : key item ∈ items.map key) (hothers : key item ∉ others.map key) :
    put key item (others.foldl (fun all other => put key other all) items) =
      others.foldl (fun all other => put key other all) (put key item items) := by
  induction others generalizing items with
  | nil => rfl
  | cons other rest ih =>
      rw [List.map_cons, List.mem_cons, not_or] at hothers
      have hkept : key item ∈ (put key other items).map key := mem_map_key_put.mpr (.inl hplace)
      rw [List.foldl_cons, ih hkept hothers.2, put_comm hothers.1 hplace, List.foldl_cons]

theorem foldl_put_put (h : (others.map key).Nodup) (item : α) (items : List α) :
    (put key item others).foldl (fun all other => put key other all) items =
      put key item (others.foldl (fun all other => put key other all) items) := by
  induction others generalizing items with
  | nil => rfl
  | cons other rest ih =>
      rw [List.map_cons, List.nodup_cons] at h
      by_cases hother : key other = key item
      · have hplace : key item ∈ (put key other items).map key :=
          mem_map_key_put.mpr (.inr hother.symm)
        rw [put, if_pos hother, List.foldl_cons, List.foldl_cons,
          put_foldl_put hplace (hother ▸ h.1), put_put hother]
      · rw [put, if_neg hother, List.foldl_cons, List.foldl_cons, ih h.2]

/-- Putting in what was put together before is the same as putting it in piece by piece. -/
theorem foldl_put_foldl_put {first : List α} (h : (first.map key).Nodup) (others items : List α) :
    (others.foldl (fun all other => put key other all) first).foldl
        (fun all other => put key other all) items =
      others.foldl (fun all other => put key other all)
        (first.foldl (fun all other => put key other all) items) := by
  induction others generalizing first with
  | nil => rfl
  | cons other rest ih =>
      rw [List.foldl_cons, ih (nodup_put h), foldl_put_put h, List.foldl_cons]

theorem filter_put (keep : String → Bool) (item : α) (items : List α) :
    (put key item items).filter (fun other => keep (key other)) =
      if keep (key item) then put key item (items.filter fun other => keep (key other))
      else items.filter fun other => keep (key other) := by
  induction items with
  | nil => cases hkeep : keep (key item) <;> simp [put, hkeep]
  | cons other rest ih =>
      by_cases hother : key other = key item
      · cases hkeep : keep (key item) <;> simp [put, hother, hkeep]
      · cases hkeep : keep (key item) <;> cases hold : keep (key other) <;>
          simp_all [put]

/-- Where no name comes twice, erasing one takes away all that has it. -/
theorem erase_eq_filter (h : (items.map key).Nodup) (name : String) :
    erase key name items = items.filter fun item => key item != name := by
  induction items with
  | nil => rfl
  | cons other rest ih =>
      rw [List.map_cons, List.nodup_cons] at h
      by_cases hother : key other = name
      · have hrest : ∀ item ∈ rest, (key item != name) = true := by
          intro item hitem
          rw [bne_iff_ne]
          rintro rfl
          exact h.1 (hother ▸ List.mem_map_of_mem hitem)
        rw [erase, List.eraseP_cons_of_pos (by simp [hother]),
          List.filter_cons_of_neg (by simp [hother]), List.filter_eq_self.mpr hrest]
      · rw [erase, List.eraseP_cons_of_neg (by simp [hother]),
          List.filter_cons_of_pos (by simp [hother]), ← ih h.2, erase]

theorem find?_filter_ne {name other : String} (h : name ≠ other) (items : List α) :
    find? key name (items.filter fun item => key item != other) = find? key name items := by
  rw [find?, List.find?_filter]
  congr 1
  funext item
  by_cases hitem : key item = name <;> simp [hitem, h]

/-! ## Overridden items -/

/-- The items without those that a later one of their name overrides. -/
def latest (key : α → String) : List α → List α
  | [] => []
  | item :: rest =>
      if key item ∈ rest.map key then latest key rest else item :: latest key rest

theorem latest_sublist (items : List α) : (latest key items).Sublist items := by
  induction items with
  | nil => exact .slnil
  | cons item rest ih =>
      rw [latest]
      split
      · exact ih.cons item
      · exact ih.cons_cons item

theorem nodup_latest (items : List α) : ((latest key items).map key).Nodup := by
  induction items with
  | nil => exact .nil
  | cons item rest ih =>
      rw [latest]
      split
      · exact ih
      next hlast =>
        rw [List.map_cons, List.nodup_cons]
        exact ⟨fun hmem => hlast (((latest_sublist rest).map key).subset hmem), ih⟩

theorem find?_latest (name : String) (items : List α) :
    find? key name (latest key items) = find? key name items.reverse := by
  induction items with
  | nil => rfl
  | cons item rest ih =>
      have hfound : find? key name rest.reverse = none ↔ name ∉ rest.map key := by
        rw [find?_eq_none_iff, List.map_reverse, List.mem_reverse]
      rw [latest, List.reverse_cons, find?_append, find?_cons]
      split
      next hoverridden =>
        rw [ih]
        cases hrest : find? key name rest.reverse with
        | some found => rfl
        | none =>
            -- a later item has the name of this one, so it is another name that is looked up
            have hname : key item ≠ name := fun hname => hfound.mp hrest (hname ▸ hoverridden)
            rw [if_neg hname]
            rfl
      next hlast =>
        rw [find?_cons, ih]
        by_cases hname : key item = name
        · rw [if_pos hname, hfound.mpr (hname ▸ hlast), if_pos hname, Option.none_or]
        · rw [if_neg hname, if_neg hname]
          exact Option.or_none.symm

/-- Sorting keeps of each name what no later item overrides. -/
theorem sorted_perm_latest (items : List α) : (sorted key items).Perm (latest key items) := by
  apply perm_of_find?_eq (nodup_of_pairwise (pairwise_sorted items)) (nodup_latest items)
  intro name
  rw [find?_sorted, find?_latest]

/-! ## Other orders -/

/-- Whether two lists have the same items of each name, in the same order: they differ at most in
how items of different names stand to each other. -/
def IsRearrangement (key : α → String) (items others : List α) : Prop :=
  ∀ name, items.filter (fun item => key item == name) = others.filter fun item => key item == name

namespace IsRearrangement

theorem symm (h : IsRearrangement key items others) : IsRearrangement key others items :=
  fun name => (h name).symm

theorem swap {first second : α} (h : key first ≠ key second) (before after : List α) :
    IsRearrangement key (before ++ first :: second :: after)
      (before ++ second :: first :: after) := by
  intro name
  simp only [List.filter_append, List.filter_cons, beq_iff_eq]
  congr 1
  by_cases hfirst : key first = name
  · have hsecond : key second ≠ name := fun hsecond => h (hfirst.trans hsecond.symm)
    rw [if_neg hsecond, if_neg hsecond]
  · rw [if_neg hfirst, if_neg hfirst]

theorem mem_iff (h : IsRearrangement key items others) : item ∈ items ↔ item ∈ others := by
  have hmem := congrArg (item ∈ ·) (h (key item))
  simpa using hmem

theorem find?_reverse_eq (h : IsRearrangement key items others) (name : String) :
    find? key name items.reverse = find? key name others.reverse := by
  simp only [find?, ← List.head?_filter, List.filter_reverse, h name]

/-- Where no name comes twice, every order is a rearrangement. -/
theorem of_perm (hperm : items.Perm others) (h : (items.map key).Nodup) :
    IsRearrangement key items others := by
  induction hperm with
  | nil => exact fun _ => rfl
  | cons item _ ih =>
      intro name
      rw [List.filter_cons, List.filter_cons, ih (List.nodup_cons.mp h).2 name]
  | swap first second rest =>
      have hne : key second ≠ key first := by
        intro heq
        exact (List.nodup_cons.mp h).1 (by simp [heq])
      exact swap hne [] rest
  | trans hfirst _ ihfirst ihsecond =>
      intro name
      rw [ihfirst h name, ihsecond ((hfirst.map key).nodup_iff.mp h) name]

end IsRearrangement

end CheckedMarkup.Keyed
