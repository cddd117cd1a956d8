import Mathlib.Control.Monad.Basic

/-! # Steps that may fail

What a sequence of steps gives that each succeed or fail. The first failure is
the failure of the whole, and without one every step has succeeded.
-/

namespace CheckedMarkup.Fallible

variable {ε α β σ : Type}

/-- The failure of a step, if it failed. -/
def fault? : Except ε α → Option ε
  | .ok _ => none
  | .error fault => some fault

@[simp] theorem bind_ok (a : α) (f : α → Except ε β) : (Except.ok a >>= f) = f a := rfl

@[simp] theorem bind_error (fault : ε) (f : α → Except ε β) :
    ((Except.error fault : Except ε α) >>= f) = .error fault := rfl

@[simp] theorem pure_eq (a : α) : (pure a : Except ε α) = .ok a := rfl

theorem bind_eq_ok_iff {x : Except ε α} {f : α → Except ε β} {b : β} :
    (x >>= f) = .ok b ↔ ∃ a, x = .ok a ∧ f a = .ok b := by
  cases x with
  | error fault => simp
  | ok a => simp

/-- A list is mapped without failure just if every item is. -/
theorem mapM_eq_ok_iff {f : α → Except ε β} {xs : List α} {ys : List β} :
    xs.mapM f = .ok ys ↔ xs.map f = ys.map .ok := by
  induction xs generalizing ys with
  | nil => cases ys <;> simp
  | cons x xs ih =>
      rw [List.mapM_cons, bind_eq_ok_iff]
      constructor
      · rintro ⟨y, hy, hrest⟩
        rw [bind_eq_ok_iff] at hrest
        obtain ⟨rest, hrest, heq⟩ := hrest
        rw [pure_eq, Except.ok.injEq] at heq
        subst heq
        rw [List.map_cons, List.map_cons, hy, ih.mp hrest]
      · intro hmap
        cases ys with
        | nil => simp at hmap
        | cons y rest =>
            rw [List.map_cons, List.map_cons, List.cons.injEq] at hmap
            refine ⟨y, hmap.1, ?_⟩
            rw [ih.mpr hmap.2]
            rfl

/-- Where success is a condition on the item and determines the result, so it is for lists. -/
theorem mapM_eq_ok_iff_of_forall {f : α → Except ε β} {p : α → Prop} {g : α → β}
    (hf : ∀ x y, f x = .ok y ↔ p x ∧ y = g x) {xs : List α} {ys : List β} :
    xs.mapM f = .ok ys ↔ (∀ x ∈ xs, p x) ∧ ys = xs.map g := by
  rw [mapM_eq_ok_iff]
  induction xs generalizing ys with
  | nil => simp [eq_comm]
  | cons x xs ih =>
      cases ys with
      | nil => simp
      | cons y ys =>
          simp only [List.map_cons, List.cons.injEq, hf, ih, List.forall_mem_cons]
          constructor
          · rintro ⟨⟨hx, hy⟩, hxs, hys⟩
            exact ⟨⟨hx, hxs⟩, hy, hys⟩
          · rintro ⟨⟨hx, hxs⟩, hy, hys⟩
            exact ⟨⟨hx, hy⟩, hxs, hys⟩

theorem exists_of_mem_mapM {f : α → Except ε β} {xs : List α} {ys : List β}
    (h : xs.mapM f = .ok ys) {y : β} (hy : y ∈ ys) : ∃ x ∈ xs, f x = .ok y := by
  rw [mapM_eq_ok_iff] at h
  have hmem : Except.ok y ∈ xs.map f := h ▸ List.mem_map_of_mem hy
  obtain ⟨x, hx, heq⟩ := List.mem_map.mp hmem
  exact ⟨x, hx, heq⟩

theorem mapM_congr {f g : α → Except ε β} {xs : List α} (h : ∀ x ∈ xs, f x = g x) :
    xs.mapM f = xs.mapM g := by
  induction xs with
  | nil => rfl
  | cons x xs ih =>
      rw [List.mapM_cons, List.mapM_cons, h x List.mem_cons_self,
        ih fun y hy => h y (List.mem_cons_of_mem _ hy)]

theorem mapM_append (f : α → Except ε β) (xs ys : List α) :
    (xs ++ ys).mapM f = (return (← xs.mapM f) ++ (← ys.mapM f)) := by
  induction xs with
  | nil => cases hys : ys.mapM f <;> simp [hys]
  | cons x xs ih =>
      rw [List.cons_append, List.mapM_cons, List.mapM_cons, ih]
      cases f x with
      | error fault => rfl
      | ok y =>
          cases xs.mapM f with
          | error fault => rfl
          | ok first => cases ys.mapM f <;> rfl

theorem mapM_flatMap (f : β → Except ε σ) (parts : α → List β) (xs : List α) :
    (xs.flatMap parts).mapM f = (return (← xs.mapM fun x => (parts x).mapM f).flatten) := by
  induction xs with
  | nil => rfl
  | cons x xs ih =>
      rw [List.flatMap_cons, mapM_append, ih, List.mapM_cons]
      cases (parts x).mapM f with
      | error fault => rfl
      | ok first => cases xs.mapM fun x => (parts x).mapM f <;> rfl

/-- A list that is mapped gives the first failure, or all results. -/
theorem mapM_eq_findSome? (f : α → Except ε β) (xs : List α) :
    xs.mapM f = match xs.findSome? fun x => fault? (f x) with
      | some fault => .error fault
      | none => .ok (xs.filterMap fun x => (f x).toOption) := by
  induction xs with
  | nil => rfl
  | cons x xs ih =>
      rw [List.mapM_cons, List.findSome?_cons, List.filterMap_cons, ih]
      generalize xs.findSome? (fun x => fault? (f x)) = first
      generalize xs.filterMap (fun x => (f x).toOption) = results
      cases f x with
      | error fault => rfl
      | ok y => cases first <;> rfl

/-- A list is refused for what is wrong with the first item that is refused. -/
theorem mapM_eq_error_iff {f : α → Except ε β} {xs : List α} {fault : ε} :
    xs.mapM f = .error fault ↔
      ∃ before x after, xs = before ++ x :: after ∧ (∀ y ∈ before, ∃ b, f y = .ok b) ∧
        f x = .error fault := by
  have hfault : ∀ x, fault? (f x) = some fault ↔ f x = .error fault := by
    intro x
    cases f x <;> simp [fault?]
  have hnone : ∀ x, fault? (f x) = none ↔ ∃ b, f x = .ok b := by
    intro x
    cases f x <;> simp [fault?]
  have hfirst : xs.mapM f = .error fault ↔ xs.findSome? (fun x => fault? (f x)) = some fault := by
    rw [mapM_eq_findSome?]
    cases xs.findSome? fun x => fault? (f x) <;> simp
  simp only [hfirst, List.findSome?_eq_some_iff, hfault, hnone, and_comm]

/-- What holds at first and is kept by every step that succeeds holds in the end. -/
theorem foldlM_induction {f : σ → α → Except ε σ} {xs : List α} {first last : σ}
    (p : σ → Prop) (hfirst : p first)
    (hstep : ∀ x ∈ xs, ∀ state next, p state → f state x = .ok next → p next)
    (h : xs.foldlM f first = .ok last) : p last := by
  induction xs generalizing first with
  | nil =>
      rw [List.foldlM_nil, pure_eq, Except.ok.injEq] at h
      exact h ▸ hfirst
  | cons x xs ih =>
      rw [List.foldlM_cons, bind_eq_ok_iff] at h
      obtain ⟨next, hx, hrest⟩ := h
      exact ih (hstep x List.mem_cons_self first next hfirst hx)
        (fun y hy => hstep y (List.mem_cons_of_mem _ hy)) hrest

/-- To fold in what each item gives is to find out what all of them give, and to fold that. -/
theorem foldlM_eq_mapM (f : α → Except ε β) (g : σ → β → σ) (xs : List α) (first : σ) :
    xs.foldlM (fun state x => return g state (← f x)) first =
      (return (← xs.mapM f).foldl g first) := by
  induction xs generalizing first with
  | nil => rfl
  | cons x xs ih =>
      rw [List.foldlM_cons, List.mapM_cons]
      cases f x with
      | error fault => rfl
      | ok y =>
          simp only [bind_ok, pure_eq] at ih ⊢
          rw [ih]
          cases xs.mapM f <;> rfl

theorem exists_of_mapM_eq_error {f : α → Except ε β} {xs : List α} {fault : ε}
    (h : xs.mapM f = .error fault) : ∃ x ∈ xs, f x = .error fault := by
  rw [mapM_eq_findSome?] at h
  split at h
  next first hfirst =>
    rw [Except.error.injEq] at h
    subst h
    obtain ⟨x, hx, hfault⟩ := List.exists_of_findSome?_eq_some hfirst
    refine ⟨x, hx, ?_⟩
    cases hresult : f x with
    | ok y => simp [fault?, hresult] at hfault
    | error other => simpa [fault?, hresult] using hfault
  · cases h

theorem mapM_mapError {δ : Type} (g : ε → δ) (f : α → Except ε β) (xs : List α) :
    (xs.mapM fun x => (f x).mapError g) = (xs.mapM f).mapError g := by
  induction xs with
  | nil => rfl
  | cons x xs ih =>
      rw [List.mapM_cons, List.mapM_cons, ih]
      cases f x with
      | error fault => rfl
      | ok y => cases xs.mapM f <;> rfl

/-! ## The failure alone -/

theorem fault?_eq_some_iff {x : Except ε α} {fault : ε} :
    fault? x = some fault ↔ x = .error fault := by
  cases x <;> simp [fault?]

theorem fault?_eq_none_iff {x : Except ε α} : fault? x = none ↔ ∃ a, x = .ok a := by
  cases x <;> simp [fault?]

theorem fault?_map (x : Except ε α) (f : α → β) : fault? (x.map f) = fault? x := by
  cases x <;> rfl

theorem fault?_bind_pure (x : Except ε α) (f : α → β) :
    fault? (x >>= fun a => pure (f a)) = fault? x := by
  cases x <;> rfl

theorem fault?_mapM (f : α → Except ε β) (xs : List α) :
    fault? (xs.mapM f) = xs.findSome? fun x => fault? (f x) := by
  rw [mapM_eq_findSome?]
  cases xs.findSome? fun x => fault? (f x) <;> rfl

theorem fault?_bind (x : Except ε α) (f : α → Except ε β) :
    fault? (x >>= f) = (fault? x).or (x.toOption.bind fun a => fault? (f a)) := by
  cases x <;> rfl

end CheckedMarkup.Fallible
