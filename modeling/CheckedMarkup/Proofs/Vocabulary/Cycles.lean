import CheckedMarkup.Proofs.Vocabulary.Compiling
import CheckedMarkup.Proofs.Vocabulary.Entries
import Mathlib.Data.Finset.Card
import Mathlib.Data.List.Chain

/-! # Groups inside themselves

While a token is expanded, the open groups are distinct and each is a member of
the one before it. So there is never a need for more of them than the table has
names, and the trail of an error leads from a word of the element back to a
group that it has passed. No other groups are refused for including themselves.
-/

namespace CheckedMarkup

open Fallible Relation

namespace Groups

variable {groups : Groups} {element token : String} {trail : List String}

/-- The names of the groups. -/
def names (groups : Groups) : Finset String := (groups.entries.map Prod.fst).toFinset

theorem mem_names {members : List String} (h : groups.members? token = some members) :
    token ∈ groups.names := by
  rw [names, List.mem_toFinset]
  exact mem_names_of_members? h

/-! ## Open groups -/

/-- What is known of the trail on which a token is met. -/
structure LeadsTo (groups : Groups) (trail : List String) (token : String) : Prop where
  named : ∀ name ∈ trail, name ∈ groups.names
  distinct : trail.Nodup
  chain : (trail ++ [token]).IsChain groups.Includes

namespace LeadsTo

theorem start (groups : Groups) (token : String) : groups.LeadsTo [] token :=
  ⟨by simp, List.nodup_nil, by simp⟩

theorem nodup_append (h : groups.LeadsTo trail token) (htoken : token ∉ trail) :
    (trail ++ [token]).Nodup := by
  rw [(List.perm_append_singleton _ _).nodup_iff, List.nodup_cons]
  exact ⟨htoken, h.distinct⟩

theorem mem_names_append (h : groups.LeadsTo trail token) {members : List String}
    (hmembers : groups.members? token = some members) :
    ∀ name ∈ trail ++ [token], name ∈ groups.names := by
  intro name hname
  rcases List.mem_append.mp hname with hname | hname
  · exact h.named name hname
  · rw [List.mem_singleton.mp hname]
    exact mem_names hmembers

theorem member (h : groups.LeadsTo trail token) {members : List String}
    (hmembers : groups.members? token = some members) (htoken : token ∉ trail) {member : String}
    (hmember : member ∈ members) : groups.LeadsTo (trail ++ [token]) member := by
  refine ⟨h.mem_names_append hmembers, h.nodup_append htoken, ?_⟩
  rw [List.append_assoc, List.singleton_append, List.isChain_append_cons_cons]
  exact ⟨h.chain, ⟨members, hmembers, hmember⟩, List.isChain_singleton member⟩

theorem length_lt_card (h : groups.LeadsTo trail token) {members : List String}
    (hmembers : groups.members? token = some members) (htoken : token ∉ trail) :
    trail.length < groups.names.card := by
  have hcard := Finset.card_le_card (s := (trail ++ [token]).toFinset) fun name hname =>
    h.mem_names_append hmembers name (List.mem_toFinset.mp hname)
  rw [List.toFinset_card_of_nodup (h.nodup_append htoken), List.length_append,
    List.length_singleton] at hcard
  omega

end LeadsTo

/-! ## Room for open groups -/

/-- Why an expansion that has only so much room stops. -/
inductive Stop where
  | noRoom
  | defect (error : VocabularyError)
deriving DecidableEq

/-- Expands a token where only so many more groups can be open at one time. -/
def expandWithin (groups : Groups) (element : String) (room : Nat) (trail : List String)
    (token : String) : Except Stop (List AttributeDecl) :=
  match groups.members? token with
  | none => return [← (AttributeDecl.read element token).mapError .defect]
  | some members =>
      if token ∈ trail then .error (.defect (.groupCycle element token (trail ++ [token])))
      else match room with
        | 0 => .error .noRoom
        | room + 1 =>
            return (← members.mapM (groups.expandWithin element room (trail ++ [token]))).flatten

/-- Room for as many groups as there are names that are not open yet is enough. -/
theorem expandWithin_eq (h : groups.LeadsTo trail token) {room : Nat}
    (hroom : groups.names.card ≤ trail.length + room) :
    groups.expandWithin element room trail token =
      (groups.expand element trail token).mapError .defect := by
  induction trail, token using flatten_induction groups generalizing room with
  | @descriptor trail token hmembers =>
      rw [expandWithin, hmembers, expand_descriptor hmembers]
      cases AttributeDecl.read element token <;> rfl
  | cycle hmembers htoken =>
      rw [expandWithin, hmembers, expand_cycle hmembers htoken]
      simp only [if_pos htoken]
      rfl
  | @group trail token members hmembers htoken ih =>
      have hlt := h.length_lt_card hmembers htoken
      cases room with
      | zero => omega
      | succ room =>
          have hinner : ∀ member ∈ members,
              groups.expandWithin element room (trail ++ [token]) member =
                (groups.expand element (trail ++ [token]) member).mapError .defect := by
            intro member hmember
            apply ih member hmember (h.member hmembers htoken hmember)
            rw [List.length_append, List.length_singleton]
            omega
          rw [expandWithin, hmembers, expand_group hmembers htoken]
          simp only [if_neg htoken]
          rw [mapM_congr hinner, mapM_mapError]
          cases members.mapM (groups.expand element (trail ++ [token])) <;> rfl

/-! ## The trail of an error -/

/-- A way along members from a first group back to one that it has passed. -/
structure IsReturn (groups : Groups) (first group : String) (trail : List String) : Prop where
  head : trail.head? = some first
  named : ∀ name ∈ trail, name ∈ groups.names
  chain : trail.IsChain groups.Includes
  distinct : trail.dropLast.Nodup
  last : trail.getLast? = some group
  passed : group ∈ trail.dropLast

theorem isReturn_of_mem_flatten {group : String} {path : List String}
    (h : groups.LeadsTo trail token) (hcycle : .cycle group path ∈ groups.flatten trail token)
    {first : String} (hfirst : (trail ++ [token]).head? = some first) :
    groups.IsReturn first group path := by
  induction trail, token using flatten_induction groups with
  | descriptor hmembers =>
      rw [flatten_descriptor hmembers] at hcycle
      simp at hcycle
  | cycle hmembers htoken =>
      rw [flatten_cycle hmembers htoken, List.mem_singleton] at hcycle
      cases hcycle
      exact ⟨hfirst, h.mem_names_append hmembers, h.chain, by simpa using h.distinct, by simp,
        by simpa using htoken⟩
  | group hmembers htoken ih =>
      rw [flatten_group hmembers htoken, List.mem_flatMap] at hcycle
      obtain ⟨member, hmember, hcycle⟩ := hcycle
      apply ih member hmember (h.member hmembers htoken hmember) hcycle
      rw [List.head?_append, hfirst]
      rfl

end Groups

/-! ## Elements and tables -/

theorem Flat.eq_cycle_of_read {element name group : String} {trail : List String} {flat : Flat}
    (h : flat.read element = .error (.groupCycle name group trail)) :
    name = element ∧ flat = .cycle group trail := by
  cases flat with
  | cycle other path =>
      cases h
      exact ⟨rfl, rfl⟩
  | descriptor token =>
      simp only [Flat.read, AttributeDecl.read] at h
      split at h
      · cases h
      · split at h <;> cases h

/-- Whether expansion starts with a word of an element, or with the common group for it. -/
def IsRoot (shorthand root : String) : Prop :=
  (root ∈ Text.words shorthand ∧ Groups.isKeyword root = false) ∨
    (root = commonGroup ∧ "only" ∉ Text.words shorthand)

theorem mem_roots_iff {groups : Groups} {shorthand root : String} :
    root ∈ groups.roots shorthand ↔
      (root ∈ Text.words shorthand ∧ Groups.isKeyword root = false) ∨
        (root = commonGroup ∧ "only" ∉ Text.words shorthand ∧
          groups.members? commonGroup ≠ none) := by
  unfold Groups.roots
  rw [List.mem_append, List.mem_filter, Bool.not_eq_true']
  split
  next hnone =>
    have hnot : ¬("only" ∉ Text.words shorthand ∧ groups.members? commonGroup ≠ none) := by
      rintro ⟨honly, hsome⟩
      exact hnone.elim honly hsome
    simp [hnot]
  next hsome => simp [not_or.mp hsome]

namespace ElementDecl

variable {groups : Groups} {name shorthand : String}

/-- A cycle that an element is refused for is met where one of its words is flattened. -/
theorem exists_cycle_of_compile {element group : String} {trail : List String}
    (h : compile groups name shorthand = .error (.groupCycle element group trail)) :
    element = name.toLower ∧
      ∃ root, IsRoot shorthand root ∧ .cycle group trail ∈ groups.flatten [] root := by
  cases hname : isName name with
  | false => simp [compile, hname] at h
  | true =>
      rw [compile_eq_described hname] at h
      simp only [described] at h
      split at h
      next error hfault =>
        rw [Except.error.injEq] at h
        subst h
        obtain ⟨item, hitem, hfault⟩ := List.exists_of_findSome?_eq_some hfault
        cases item with
        | empty | only => cases hfault
        | position place =>
            obtain ⟨earlier, _, hconflict⟩ := Option.bind_eq_some_iff.mp hfault
            split at hconflict <;> cases hconflict
        | flat flat =>
            have hread : flat.read name.toLower = .error (.groupCycle element group trail) := by
              simp only [Item.fault?] at hfault
              cases hflat : flat.read name.toLower with
              | ok decl => simp [hflat, Fallible.fault?] at hfault
              | error other => simpa [hflat, Fallible.fault?] using hfault
            obtain ⟨helement, rfl⟩ := Flat.eq_cycle_of_read hread
            obtain ⟨root, hroot, hcycle⟩ := Groups.flat_mem_append.mp hitem
            refine ⟨helement, root, ?_, hcycle⟩
            apply (mem_roots_iff.mp hroot).imp_right
            rintro ⟨rfl, honly, _⟩
            exact ⟨rfl, honly⟩
      · cases h

/-- Where an element is compiled, nothing that its words lead to includes itself. -/
theorem not_transGen_of_compile {element : ElementDecl}
    (h : compile groups name shorthand = .ok element) {root : String}
    (hroot : IsRoot shorthand root) {group : String}
    (hreach : ReflTransGen groups.Includes root group) :
    ¬TransGen groups.Includes group group := by
  rw [compile_eq_described (isName_of_compile h)] at h
  obtain ⟨_, hgroups, _⟩ := exists_described_iff_forall.mp ⟨element, h⟩
  by_cases hmem : root ∈ groups.roots shorthand
  · exact hgroups root hmem group hreach
  · -- the only root that is left out is a common group that is missing
    have hnone : groups.members? root = none := by
      rcases hroot with hword | ⟨rfl, honly⟩
      · exact absurd (mem_roots_iff.mpr (.inl hword)) hmem
      · apply Classical.byContradiction
        intro hsome
        exact hmem (mem_roots_iff.mpr (.inr ⟨rfl, honly, hsome⟩))
    have hleaf : ∀ member, ¬groups.Includes root member := by
      rintro member ⟨members, hmembers, _⟩
      rw [hnone] at hmembers
      cases hmembers
    rcases ReflTransGen.cases_head hreach with rfl | ⟨member, hincludes, _⟩
    · intro hself
      obtain ⟨member, hincludes, _⟩ := TransGen.head'_iff.mp hself
      exact hleaf member hincludes
    · exact absurd hincludes (hleaf member)

end ElementDecl

namespace Table

variable {table : Table}

theorem exists_cycle_of_compile {element group : String} {trail : List String}
    (h : table.compile = .error (.groupCycle element group trail)) :
    ∃ entry ∈ table.elements, element = entry.1.toLower ∧
      ∃ root, IsRoot entry.2 root ∧
        .cycle group trail ∈ Groups.flatten ⟨table.groups⟩ [] root := by
  obtain ⟨entry, hentry, hdeclare⟩ := exists_declare_eq_error h
  exact ⟨entry, hentry, ElementDecl.exists_cycle_of_compile hdeclare⟩

/-- Expansion never needs room for more groups than there are; a cycle is reported just where a
group includes itself, by the way that leads from a word of the element to it and back. -/
theorem cycles_are_exact (table : Table) :
    (∀ element token,
      Groups.expandWithin ⟨table.groups⟩ element (Groups.names ⟨table.groups⟩).card [] token =
        (Groups.expand ⟨table.groups⟩ element [] token).mapError .defect) ∧
    (∀ element group trail, table.compile = .error (.groupCycle element group trail) →
      ∃ entry ∈ table.elements, element = entry.1.toLower ∧
        ∃ root, IsRoot entry.2 root ∧ Groups.IsReturn ⟨table.groups⟩ root group trail) ∧
    (∀ vocabulary, table.compile = .ok vocabulary →
      ∀ entry ∈ table.elements, ∀ root, IsRoot entry.2 root →
        ∀ group, ReflTransGen (Groups.Includes ⟨table.groups⟩) root group →
          ¬TransGen (Groups.Includes ⟨table.groups⟩) group group) ∧
    ∀ group, ¬TransGen (Groups.Includes ⟨table.groups⟩) group group →
      ∀ element trail, table.compile ≠ .error (.groupCycle element group trail) := by
  refine ⟨?_, ?_, ?_, ?_⟩
  · intro element token
    exact Groups.expandWithin_eq (.start _ token) (by simp)
  · intro element group trail h
    obtain ⟨entry, hentry, helement, root, hroot, hcycle⟩ := exists_cycle_of_compile h
    exact ⟨entry, hentry, helement, root, hroot,
      Groups.isReturn_of_mem_flatten (.start _ root) hcycle rfl⟩
  · intro vocabulary h entry hentry root hroot group hreach
    obtain ⟨element, hdeclare⟩ := exists_declare_of_compile h hentry
    exact ElementDecl.not_transGen_of_compile hdeclare hroot hreach
  · intro group hnot element trail h
    obtain ⟨_, _, _, root, _, hcycle⟩ := exists_cycle_of_compile h
    exact hnot (Groups.includes_of_mem_flatten (by simp) hcycle).2

/-- A paragraph whose group reaches another one on two ways, and only then a cycle. -/
def twistedTable : Table :=
  ⟨[("br", "empty core"), ("P", "block title outer")],
    [("outer", "core inner"), ("inner", "core other"), ("other", "inner"), ("core", "id")]⟩

theorem cycles_are_exact_twisted :
    twistedTable.compile =
        .error (.groupCycle "p" "inner" ["outer", "inner", "other", "inner"]) ∧
      ∃ entry ∈ twistedTable.elements, "p" = entry.1.toLower ∧
        ∃ root, IsRoot entry.2 root ∧
          Groups.IsReturn ⟨twistedTable.groups⟩ root "inner"
            ["outer", "inner", "other", "inner"] := by
  have hcompile : twistedTable.compile =
      .error (.groupCycle "p" "inner" ["outer", "inner", "other", "inner"]) := by decide +kernel
  exact ⟨hcompile, (cycles_are_exact twistedTable).2.1 _ _ _ hcompile⟩

end Table

end CheckedMarkup
