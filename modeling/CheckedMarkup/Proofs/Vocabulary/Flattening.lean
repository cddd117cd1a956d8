import CheckedMarkup.Proofs.Fallible
import CheckedMarkup.Vocabulary.Groups
import Mathlib.Logic.Relation

/-! # Groups, flattened

A token is flattened into descriptors, from left to right and depth first, before
any of them is read. Flattening stops at a group that is met inside itself, and
meets one just if a group that the token leads to includes itself.
-/

namespace CheckedMarkup

open Fallible Relation

/-- What flattening comes to. -/
inductive Flat where
  | descriptor (token : String)
  /-- A group inside itself, with the groups that lead to it. -/
  | cycle (group : String) (trail : List String)
deriving DecidableEq

/-- The attribute of a descriptor. A group inside itself has none. -/
def Flat.read (element : String) : Flat → Except VocabularyError AttributeDecl
  | .descriptor token => AttributeDecl.read element token
  | .cycle group trail => .error (.groupCycle element group trail)

namespace Groups

variable {groups : Groups} {element token : String} {trail : List String}

/-- The descriptors that a token stands for, inside the groups of the trail, outermost first. -/
def flatten (groups : Groups) (trail : List String) (token : String) : List Flat :=
  match hmembers : groups.members? token with
  | none => [.descriptor token]
  | some members =>
      if htoken : token ∈ trail then [.cycle token (trail ++ [token])]
      else
        have := length_closed_lt hmembers htoken
        members.flatMap (groups.flatten (trail ++ [token]))
termination_by (groups.closed trail).length

theorem flatten_descriptor (h : groups.members? token = none) :
    groups.flatten trail token = [.descriptor token] := by
  rw [flatten]
  split
  · rfl
  next members hmembers => simp [h] at hmembers

theorem flatten_cycle {members : List String} (h : groups.members? token = some members)
    (htoken : token ∈ trail) :
    groups.flatten trail token = [.cycle token (trail ++ [token])] := by
  rw [flatten]
  split
  next hmembers => simp [h] at hmembers
  · rw [dif_pos htoken]

theorem flatten_group {members : List String} (h : groups.members? token = some members)
    (htoken : token ∉ trail) :
    groups.flatten trail token = members.flatMap (groups.flatten (trail ++ [token])) := by
  rw [flatten]
  split
  next hmembers => simp [h] at hmembers
  next others hmembers =>
    rw [h, Option.some.injEq] at hmembers
    subst hmembers
    rw [dif_neg htoken]

theorem flatten_induction (groups : Groups) {motive : List String → String → Prop}
    (descriptor : ∀ {trail token}, groups.members? token = none → motive trail token)
    (cycle : ∀ {trail token members}, groups.members? token = some members → token ∈ trail →
      motive trail token)
    (group : ∀ {trail token members}, groups.members? token = some members → token ∉ trail →
      (∀ member ∈ members, motive (trail ++ [token]) member) → motive trail token)
    (trail : List String) (token : String) : motive trail token := by
  cases hmembers : groups.members? token with
  | none => exact descriptor hmembers
  | some members =>
      by_cases htoken : token ∈ trail
      · exact cycle hmembers htoken
      · have hlt := length_closed_lt hmembers htoken
        exact group hmembers htoken fun member _ =>
          flatten_induction groups descriptor cycle group (trail ++ [token]) member
termination_by (groups.closed trail).length

/-! ## Expansion -/

theorem expand_descriptor (h : groups.members? token = none) :
    groups.expand element trail token = (return [← AttributeDecl.read element token]) := by
  rw [expand]
  split
  · rfl
  next members hmembers => simp [h] at hmembers

theorem expand_cycle {members : List String} (h : groups.members? token = some members)
    (htoken : token ∈ trail) :
    groups.expand element trail token = .error (.groupCycle element token (trail ++ [token])) := by
  rw [expand]
  split
  next hmembers => simp [h] at hmembers
  · rw [dif_pos htoken]

theorem expand_group {members : List String} (h : groups.members? token = some members)
    (htoken : token ∉ trail) :
    groups.expand element trail token =
      (return (← members.mapM (groups.expand element (trail ++ [token]))).flatten) := by
  rw [expand]
  split
  next hmembers => simp [h] at hmembers
  next others hmembers =>
    rw [h, Option.some.injEq] at hmembers
    subst hmembers
    rw [dif_neg htoken]

/-- Expanding a token is to flatten it and then to read each descriptor. -/
theorem expand_eq_mapM_flatten (groups : Groups) (element : String) (trail : List String)
    (token : String) :
    groups.expand element trail token = (groups.flatten trail token).mapM (Flat.read element) := by
  induction trail, token using flatten_induction groups with
  | descriptor h =>
      rw [expand_descriptor h, flatten_descriptor h]
      simp [Flat.read]
  | cycle h htoken =>
      rw [expand_cycle h htoken, flatten_cycle h htoken]
      simp [Flat.read]
  | group h htoken ih =>
      rw [expand_group h htoken, flatten_group h htoken, mapM_flatMap, mapM_congr ih]

/-! ## Groups that include themselves -/

/-- Whether a token is a group with some other token among its members. -/
def Includes (groups : Groups) (token member : String) : Prop :=
  ∃ members, groups.members? token = some members ∧ member ∈ members

/-- A group that flattening meets inside itself includes itself. -/
theorem includes_of_mem_flatten {group : String} {path : List String}
    (hpath : ∀ outer ∈ trail, TransGen groups.Includes outer token)
    (h : .cycle group path ∈ groups.flatten trail token) :
    ReflTransGen groups.Includes token group ∧ TransGen groups.Includes group group := by
  induction trail, token using flatten_induction groups with
  | descriptor hmembers =>
      rw [flatten_descriptor hmembers] at h
      simp at h
  | @cycle trail token members hmembers htoken =>
      rw [flatten_cycle hmembers htoken, List.mem_singleton] at h
      cases h
      exact ⟨.refl, hpath _ htoken⟩
  | @group trail token members hmembers htoken ih =>
      rw [flatten_group hmembers htoken, List.mem_flatMap] at h
      obtain ⟨member, hmember, h⟩ := h
      have hincludes : groups.Includes token member := ⟨members, hmembers, hmember⟩
      have hinner : ∀ outer ∈ trail ++ [token], TransGen groups.Includes outer member := by
        intro outer houter
        rcases List.mem_append.mp houter with houter | houter
        · exact (hpath outer houter).tail hincludes
        · rw [List.mem_singleton.mp houter]
          exact .single hincludes
      obtain ⟨hreach, hself⟩ := ih member hmember hinner h
      exact ⟨.head hincludes hreach, hself⟩

/-- Where flattening meets no group inside itself, every way down ends. -/
theorem acc_of_forall_ne_cycle
    (h : ∀ group path, .cycle group path ∉ groups.flatten trail token) :
    Acc (fun member outer => groups.Includes outer member) token := by
  induction trail, token using flatten_induction groups with
  | descriptor hmembers =>
      constructor
      rintro member ⟨members, hsome, _⟩
      rw [hmembers] at hsome
      cases hsome
  | @cycle trail token members hmembers htoken =>
      rw [flatten_cycle hmembers htoken] at h
      exact absurd (List.mem_singleton.mpr rfl) (h token (trail ++ [token]))
  | @group trail token members hmembers htoken ih =>
      rw [flatten_group hmembers htoken] at h
      constructor
      rintro member ⟨others, hsome, hmember⟩
      rw [hmembers, Option.some.injEq] at hsome
      subst hsome
      apply ih member hmember
      intro group path hmem
      exact h group path (List.mem_flatMap.mpr ⟨member, hmember, hmem⟩)

end Groups

/-- What has no endless way down does not lead back to itself. -/
theorem not_transGen_of_acc {α : Type} {r : α → α → Prop} {a b : α}
    (hacc : Acc (fun x y => r y x) a) (hreach : ReflTransGen r a b) : ¬TransGen r b b := by
  have hinner : Acc (fun x y => r y x) b := by
    induction hreach with
    | refl => exact hacc
    | tail _ hstep ih => exact ih.inv hstep
  clear hacc hreach
  intro hself
  induction hinner with
  | intro b _ ih =>
      obtain ⟨c, hstep, hrest⟩ := TransGen.head'_iff.mp hself
      exact ih c hstep (.tail' hrest hstep)

/-- Flattening meets a group inside itself just if the token leads to one that includes itself. -/
theorem Groups.exists_cycle_iff {groups : Groups} {token : String} :
    (∃ group path, .cycle group path ∈ groups.flatten [] token) ↔
      ∃ group, ReflTransGen groups.Includes token group ∧
        TransGen groups.Includes group group := by
  constructor
  · intro hmeets
    obtain ⟨group, path, h⟩ := hmeets
    exact ⟨group, includes_of_mem_flatten (by simp) h⟩
  · intro hreaches
    obtain ⟨group, hreach, hself⟩ := hreaches
    apply Classical.byContradiction
    intro hnone
    have hcycle : ∀ group path, .cycle group path ∉ groups.flatten [] token := by
      intro group path hmem
      exact hnone ⟨group, path, hmem⟩
    exact not_transGen_of_acc (acc_of_forall_ne_cycle hcycle) hreach hself

end CheckedMarkup
