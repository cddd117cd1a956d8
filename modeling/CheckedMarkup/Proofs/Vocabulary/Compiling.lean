import CheckedMarkup.Proofs.Vocabulary.Flattening
import CheckedMarkup.Vocabulary.Shorthand

/-! # Elements, compiled at once

An element is what its words say: each word is a keyword or is flattened into
descriptors, and the common attributes come last. The element is determined by
that list alone; its first fault is the reason why the element is refused.
-/

namespace CheckedMarkup

open Fallible Relation

/-! ## What words say -/

/-- One thing that a shorthand says. -/
inductive Item where
  | position (place : Position)
  | empty
  | only
  | flat (token : Flat)
deriving DecidableEq

namespace Item

def position? : Item → Option Position
  | .position place => some place
  | .empty | .only | .flat _ => none

def decl? (name : String) : Item → Option AttributeDecl
  | .flat token => (token.read name.toLower).toOption
  | .position _ | .empty | .only => none

/-- What is wrong with an item, where the first place that is set is known. -/
def fault? (name : String) (first : Option Position) : Item → Option VocabularyError
  | .position place => first.bind fun earlier =>
      if earlier = place then none else some (.conflictingPosition name earlier place)
  | .flat token => Fallible.fault? (token.read name.toLower)
  | .empty | .only => none

end Item

namespace Groups

/-- Whether a word is one of the five that name no attribute or group. -/
def isKeyword (word : String) : Bool :=
  (Position.ofKeyword? word).isSome || word == "empty" || word == "only"

/-- What a word of a shorthand says. -/
def items (groups : Groups) (word : String) : List Item :=
  match Position.ofKeyword? word with
  | some place => [.position place]
  | none =>
      if word = "empty" then [.empty]
      else if word = "only" then [.only]
      else (groups.flatten [] word).map .flat

/-- What a shorthand says itself. -/
def explicit (groups : Groups) (shorthand : String) : List Item :=
  (Text.words shorthand).flatMap groups.items

/-- What the common attributes add to a shorthand. -/
def common (groups : Groups) (shorthand : String) : List Item :=
  if "only" ∈ Text.words shorthand ∨ groups.members? commonGroup = none then []
  else (groups.flatten [] commonGroup).map .flat

/-- The words that are flattened, and the common group if its attributes are added. -/
def roots (groups : Groups) (shorthand : String) : List String :=
  ((Text.words shorthand).filter fun word => !isKeyword word) ++
    if "only" ∈ Text.words shorthand ∨ groups.members? commonGroup = none then []
    else [commonGroup]

end Groups

/-- Declares an attribute in the place of the one of its name, or at the end. -/
def replaceOrAppend (all : List AttributeDecl) (decl : AttributeDecl) : List AttributeDecl :=
  if decl.name ∈ all.map AttributeDecl.name then
    all.map fun other => if other.name = decl.name then decl else other
  else all ++ [decl]

/-- Declares an attribute at the end, unless there is one of its name. -/
def appendIfNew (all : List AttributeDecl) (decl : AttributeDecl) : List AttributeDecl :=
  if decl.name ∈ all.map AttributeDecl.name then all else all ++ [decl]

/-- The element that a shorthand describes, or the first fault in it. -/
def ElementDecl.described (groups : Groups) (name shorthand : String) :
    Except VocabularyError ElementDecl :=
  let explicit := groups.explicit shorthand
  let common := groups.common shorthand
  let position := (Text.words shorthand).findSome? Position.ofKeyword?
  match (explicit ++ common).findSome? (Item.fault? name position) with
  | some error => .error error
  | none => .ok {
      name := name.toLower
      position := position
      isEmpty := decide ("empty" ∈ Text.words shorthand)
      attributes := (common.filterMap (Item.decl? name)).foldl appendIfNew
        ((explicit.filterMap (Item.decl? name)).foldl replaceOrAppend []) }

/-! ## Reading item by item -/

namespace Draft

def take (name : String) (draft : Draft) : Item → Except VocabularyError Draft
  | .position place => draft.place name place
  | .empty => .ok { draft with isEmpty := true }
  | .only => .ok { draft with only := true }
  | .flat token => return draft.declare [← token.read name.toLower]

def extend (name : String) (draft : Draft) (items : List Item) : Draft where
  position := draft.position.or (items.findSome? Item.position?)
  isEmpty := draft.isEmpty || items.contains .empty
  only := draft.only || items.contains .only
  attributes := (draft.declare (items.filterMap (Item.decl? name))).attributes

theorem foldlM_take_flat (name : String) (flats : List Flat) (draft : Draft) :
    (flats.map Item.flat).foldlM (take name) draft =
      (return draft.declare (← flats.mapM (Flat.read name.toLower))) := by
  induction flats generalizing draft with
  | nil => rfl
  | cons flat rest ih =>
      rw [List.map_cons, List.foldlM_cons, List.mapM_cons, take]
      cases flat.read name.toLower with
      | error fault => rfl
      | ok decl =>
          simp only [bind_ok, pure_eq, ih]
          cases rest.mapM (Flat.read name.toLower) <;> rfl

/-- To read a word is to take in its items. -/
theorem read_eq_foldlM_take (groups : Groups) (name : String) (draft : Draft) (word : String) :
    draft.read groups name word = (groups.items word).foldlM (take name) draft := by
  unfold read Groups.items
  cases Position.ofKeyword? word with
  | some place =>
      simp only [List.foldlM_cons, List.foldlM_nil, take]
      cases draft.place name place <;> rfl
  | none =>
      by_cases hempty : word = "empty"
      · simp [hempty, take]
      · by_cases honly : word = "only"
        · simp [honly, take]
        · simp only [hempty, honly, if_false]
          rw [foldlM_take_flat, Groups.expand_eq_mapM_flatten]

section

variable {name : String} {draft next : Draft} {item : Item} {error : VocabularyError}

theorem extend_of_take (h : draft.take name item = .ok next) (rest : List Item) :
    next.extend name rest = draft.extend name (item :: rest) := by
  cases item with
  | position place =>
      rw [take, Draft.place] at h
      split at h
      next hnone =>
        cases h
        simp [extend, hnone, List.findSome?_cons, List.filterMap_cons, Item.position?, Item.decl?,
          declare]
      next first hfirst =>
        split at h
        · cases h
          simp [extend, hfirst, List.filterMap_cons, Item.decl?]
        · cases h
  | empty | only =>
      cases h
      simp [extend, List.findSome?_cons, List.filterMap_cons, Item.position?, Item.decl?, declare]
  | flat token =>
      rw [take, bind_eq_ok_iff] at h
      obtain ⟨decl, hread, h⟩ := h
      cases h
      simp [extend, List.findSome?_cons, Item.position?, Item.decl?, declare, hread,
        Except.toOption]

theorem fault?_of_take_ok (h : draft.take name item = .ok next) (rest : List Item) :
    item.fault? name (draft.extend name (item :: rest)).position = none := by
  cases item with
  | position place =>
      rw [take, Draft.place] at h
      split at h
      next hnone => simp [extend, hnone, List.findSome?_cons, Item.position?, Item.fault?]
      next first hfirst =>
        split at h
        next hsame => simp [extend, hfirst, hsame, Item.fault?]
        · cases h
  | empty | only => rfl
  | flat token =>
      rw [take, bind_eq_ok_iff] at h
      obtain ⟨decl, hread, _⟩ := h
      simp [Item.fault?, hread, Fallible.fault?]

theorem fault?_of_take_error (h : draft.take name item = .error error) (rest : List Item) :
    item.fault? name (draft.extend name (item :: rest)).position = some error := by
  cases item with
  | position place =>
      rw [take, Draft.place] at h
      split at h
      · cases h
      next first hfirst =>
        split at h
        · cases h
        next hother =>
          cases h
          simp [extend, hfirst, hother, Item.fault?]
  | empty | only => cases h
  | flat token =>
      rw [take] at h
      cases hread : token.read name.toLower with
      | error fault =>
          rw [hread] at h
          cases h
          simp [Item.fault?, hread, Fallible.fault?]
      | ok decl =>
          rw [hread] at h
          cases h

end

/-- Items are taken in up to the first that is wrong. -/
theorem foldlM_take (name : String) (items : List Item) (draft : Draft) :
    items.foldlM (take name) draft =
      match items.findSome? (Item.fault? name (draft.extend name items).position) with
      | some error => .error error
      | none => .ok (draft.extend name items) := by
  induction items generalizing draft with
  | nil => simp [extend, declare]
  | cons item rest ih =>
      rw [List.foldlM_cons, List.findSome?_cons]
      cases htake : draft.take name item with
      | error error =>
          rw [fault?_of_take_error htake rest]
          rfl
      | ok next => rw [fault?_of_take_ok htake rest, bind_ok, ih, extend_of_take htake rest]

end Draft

/-! ## Words and items -/

namespace Groups

variable {groups : Groups} {shorthand word : String}

theorem items_cases (groups : Groups) (word : String) :
    (∃ place, Position.ofKeyword? word = some place ∧ groups.items word = [.position place]) ∨
      (word = "empty" ∧ groups.items word = [.empty]) ∨
      (word = "only" ∧ groups.items word = [.only]) ∨
      (isKeyword word = false ∧ groups.items word = (groups.flatten [] word).map .flat) := by
  unfold items isKeyword
  cases Position.ofKeyword? word with
  | some place => exact .inl ⟨place, rfl, rfl⟩
  | none =>
      by_cases hempty : word = "empty"
      · exact .inr (.inl ⟨hempty, if_pos hempty⟩)
      · by_cases honly : word = "only"
        · exact .inr (.inr (.inl ⟨honly, by simp [honly]⟩))
        · exact .inr (.inr (.inr (by simp [hempty, honly])))

theorem ofKeyword?_eq_none_of_not_isKeyword (h : isKeyword word = false) :
    Position.ofKeyword? word = none ∧ word ≠ "empty" ∧ word ≠ "only" := by
  simpa [isKeyword, and_assoc] using h

theorem position_mem_items {place : Position} :
    .position place ∈ groups.items word ↔ Position.ofKeyword? word = some place := by
  rcases groups.items_cases word with
    ⟨other, hword, hitems⟩ | ⟨rfl, hitems⟩ | ⟨rfl, hitems⟩ | ⟨hword, hitems⟩
  · simp [hitems, hword, eq_comm]
  · simp [hitems, Position.ofKeyword?]
  · simp [hitems, Position.ofKeyword?]
  · simp [hitems, (ofKeyword?_eq_none_of_not_isKeyword hword).1]

theorem empty_mem_items : .empty ∈ groups.items word ↔ word = "empty" := by
  rcases groups.items_cases word with
    ⟨other, hword, hitems⟩ | ⟨rfl, hitems⟩ | ⟨rfl, hitems⟩ | ⟨hword, hitems⟩
  · have hne : word ≠ "empty" := by
      rintro rfl
      simp [Position.ofKeyword?] at hword
    simp [hitems, hne]
  · simp [hitems]
  · simp [hitems]
  · simp [hitems, (ofKeyword?_eq_none_of_not_isKeyword hword).2.1]

theorem only_mem_items : .only ∈ groups.items word ↔ word = "only" := by
  rcases groups.items_cases word with
    ⟨other, hword, hitems⟩ | ⟨rfl, hitems⟩ | ⟨rfl, hitems⟩ | ⟨hword, hitems⟩
  · have hne : word ≠ "only" := by
      rintro rfl
      simp [Position.ofKeyword?] at hword
    simp [hitems, hne]
  · simp [hitems]
  · simp [hitems]
  · simp [hitems, (ofKeyword?_eq_none_of_not_isKeyword hword).2.2]

theorem flat_mem_items {flat : Flat} :
    .flat flat ∈ groups.items word ↔ isKeyword word = false ∧ flat ∈ groups.flatten [] word := by
  rcases groups.items_cases word with
    ⟨other, hword, hitems⟩ | ⟨rfl, hitems⟩ | ⟨rfl, hitems⟩ | ⟨hword, hitems⟩
  · simp [hitems, isKeyword, hword]
  · simp [hitems, isKeyword]
  · simp [hitems, isKeyword]
  · simp [hitems, hword]

theorem findSome?_position?_items :
    (groups.items word).findSome? Item.position? = Position.ofKeyword? word := by
  rcases groups.items_cases word with
    ⟨other, hword, hitems⟩ | ⟨rfl, hitems⟩ | ⟨rfl, hitems⟩ | ⟨hword, hitems⟩
  · rw [hitems, hword]
    rfl
  · rw [hitems]
    rfl
  · rw [hitems]
    rfl
  · rw [hitems, (ofKeyword?_eq_none_of_not_isKeyword hword).1, List.findSome?_eq_none_iff]
    intro item hitem
    obtain ⟨flat, _, rfl⟩ := List.mem_map.mp hitem
    rfl

theorem findSome?_position?_explicit :
    (groups.explicit shorthand).findSome? Item.position? =
      (Text.words shorthand).findSome? Position.ofKeyword? := by
  unfold explicit
  induction Text.words shorthand with
  | nil => rfl
  | cons word rest ih =>
      rw [List.flatMap_cons, List.findSome?_append, ih, findSome?_position?_items,
        List.findSome?_cons]
      cases Position.ofKeyword? word <;> rfl

theorem contains_empty_explicit :
    (groups.explicit shorthand).contains .empty = decide ("empty" ∈ Text.words shorthand) := by
  simp [explicit, List.mem_flatMap, empty_mem_items]

theorem contains_only_explicit :
    (groups.explicit shorthand).contains .only = decide ("only" ∈ Text.words shorthand) := by
  simp [explicit, List.mem_flatMap, only_mem_items]

theorem position_mem_explicit {place : Position} :
    .position place ∈ groups.explicit shorthand ↔
      ∃ word ∈ Text.words shorthand, Position.ofKeyword? word = some place := by
  simp only [explicit, List.mem_flatMap, position_mem_items]

theorem position_not_mem_common {place : Position} :
    .position place ∉ groups.common shorthand := by
  unfold common
  split <;> simp

theorem flat_mem_append {flat : Flat} :
    .flat flat ∈ groups.explicit shorthand ++ groups.common shorthand ↔
      ∃ root ∈ groups.roots shorthand, flat ∈ groups.flatten [] root := by
  have hcommon : .flat flat ∈ groups.common shorthand ↔
      ∃ root ∈ (if "only" ∈ Text.words shorthand ∨ groups.members? commonGroup = none then []
        else [commonGroup]), flat ∈ groups.flatten [] root := by
    unfold common
    split <;> simp
  simp only [List.mem_append, hcommon, explicit, List.mem_flatMap, flat_mem_items, roots,
    List.mem_filter, Bool.not_eq_true', or_and_right, exists_or, and_assoc]

end Groups

/-! ## Declaring in both ways -/

theorem put_eq_replaceOrAppend {all : List AttributeDecl} (h : (all.map AttributeDecl.name).Nodup)
    (decl : AttributeDecl) :
    Keyed.put AttributeDecl.name decl all = replaceOrAppend all decl := by
  induction all with
  | nil => rfl
  | cons other rest ih =>
      rw [List.map_cons, List.nodup_cons] at h
      unfold replaceOrAppend at ih ⊢
      by_cases hother : other.name = decl.name
      · -- no other attribute has the name, so the rest stays as it is
        have hrest : rest.map (fun other => if other.name = decl.name then decl else other) =
            rest := by
          rw [List.map_congr_left, List.map_id]
          intro item hitem
          have hname : item.name ≠ decl.name := by
            rw [← hother]
            exact fun heq => h.1 (heq ▸ List.mem_map_of_mem hitem)
          exact if_neg hname
        simp [Keyed.put, hother, hrest]
      · rw [Keyed.put, if_neg hother, ih h.2]
        by_cases hmem : decl.name ∈ rest.map AttributeDecl.name
        · simp [hmem, hother]
        · simp [hmem, Ne.symm hother]

theorem foldl_put_eq_foldl_replaceOrAppend (decls : List AttributeDecl) {all : List AttributeDecl}
    (h : (all.map AttributeDecl.name).Nodup) :
    decls.foldl (fun all decl => Keyed.put AttributeDecl.name decl all) all =
      decls.foldl replaceOrAppend all := by
  induction decls generalizing all with
  | nil => rfl
  | cons decl rest ih =>
      rw [List.foldl_cons, List.foldl_cons, ih (Keyed.nodup_put h), put_eq_replaceOrAppend h]

theorem foldl_putNew_eq_foldl_appendIfNew (decls all : List AttributeDecl) :
    decls.foldl (fun all decl => Keyed.putNew AttributeDecl.name decl all) all =
      decls.foldl appendIfNew all := by
  have hstep : ∀ (all : List AttributeDecl) (decl : AttributeDecl),
      Keyed.putNew AttributeDecl.name decl all = appendIfNew all decl := by
    intro all decl
    simp only [Keyed.putNew, appendIfNew, Keyed.contains_iff]
  simp only [hstep]

theorem mem_or_mem_of_mem_foldl_appendIfNew {decls all : List AttributeDecl} {decl : AttributeDecl}
    (h : decl ∈ decls.foldl appendIfNew all) : decl ∈ decls ∨ decl ∈ all := by
  rw [← foldl_putNew_eq_foldl_appendIfNew] at h
  exact Keyed.mem_or_mem_of_mem_foldl Keyed.eq_or_mem_of_mem_putNew h

theorem mem_of_mem_foldl_replaceOrAppend {decls : List AttributeDecl} {decl : AttributeDecl}
    (h : decl ∈ decls.foldl replaceOrAppend []) : decl ∈ decls := by
  have hnil : (([] : List AttributeDecl).map AttributeDecl.name).Nodup := List.nodup_nil
  rw [← foldl_put_eq_foldl_replaceOrAppend decls hnil] at h
  exact (Keyed.mem_or_mem_of_mem_foldl Keyed.eq_or_mem_of_mem_put h).resolve_right List.not_mem_nil

theorem nodup_foldl_replaceOrAppend (decls : List AttributeDecl) {all : List AttributeDecl}
    (h : (all.map AttributeDecl.name).Nodup) :
    ((decls.foldl replaceOrAppend all).map AttributeDecl.name).Nodup := by
  induction decls generalizing all with
  | nil => exact h
  | cons decl rest ih =>
      rw [List.foldl_cons, ← put_eq_replaceOrAppend h]
      exact ih (Keyed.nodup_put h)

theorem nodup_foldl_appendIfNew (decls : List AttributeDecl) {all : List AttributeDecl}
    (h : (all.map AttributeDecl.name).Nodup) :
    ((decls.foldl appendIfNew all).map AttributeDecl.name).Nodup := by
  induction decls generalizing all with
  | nil => exact h
  | cons decl rest ih =>
      apply ih
      unfold appendIfNew
      split
      · exact h
      next hnew =>
        rw [List.map_append, List.map_singleton, (List.perm_append_singleton _ _).nodup_iff,
          List.nodup_cons]
        exact ⟨hnew, h⟩

/-! ## The element -/

namespace Draft

theorem foldlM_read (groups : Groups) (name : String) (words : List String) (draft : Draft) :
    words.foldlM (read groups name) draft =
      (words.flatMap groups.items).foldlM (take name) draft := by
  induction words generalizing draft with
  | nil => rfl
  | cons word rest ih =>
      rw [List.foldlM_cons, List.flatMap_cons, List.foldlM_append, read_eq_foldlM_take]
      cases (groups.items word).foldlM (take name) draft with
      | error fault => rfl
      | ok next => exact ih next

theorem finish_eq (groups : Groups) (name shorthand : String) {draft : Draft}
    (honly : draft.only = decide ("only" ∈ Text.words shorthand)) :
    draft.finish groups name =
      match (groups.common shorthand).findSome? (Item.fault? name draft.position) with
      | some error => .error error
      | none => .ok ⟨name.toLower, draft.position, draft.isEmpty,
          ((groups.common shorthand).filterMap (Item.decl? name)).foldl appendIfNew
            draft.attributes⟩ := by
  unfold finish Groups.common
  by_cases hnone : "only" ∈ Text.words shorthand ∨ groups.members? commonGroup = none
  · have hstop : (draft.only || (groups.members? commonGroup).isNone) = true := by
      rw [honly]
      simpa using hnone
    rw [if_pos hnone, if_pos hstop]
    rfl
  · have hgo : (draft.only || (groups.members? commonGroup).isNone) = false := by
      rw [honly]
      simpa [not_or, Option.isSome_iff_ne_none] using hnone
    rw [if_neg hnone, hgo, Groups.expand_eq_mapM_flatten, mapM_eq_findSome?, List.findSome?_map,
      List.filterMap_map]
    simp only [Function.comp_def, Item.fault?, Item.decl?]
    cases (groups.flatten [] commonGroup).findSome? fun flat =>
        Fallible.fault? (flat.read name.toLower) with
    | some error => rfl
    | none =>
        simp only [Bool.false_eq_true, if_false, bind_ok, pure_eq, complete,
          foldl_putNew_eq_foldl_appendIfNew]

end Draft

namespace ElementDecl

theorem compile_eq_described {name : String} (hname : isName name = true) (groups : Groups)
    (shorthand : String) : compile groups name shorthand = described groups name shorthand := by
  have hposition : (Draft.blank.extend name (groups.explicit shorthand)).position =
      (Text.words shorthand).findSome? Position.ofKeyword? := by
    rw [← Groups.findSome?_position?_explicit]
    rfl
  have hempty : (Draft.blank.extend name (groups.explicit shorthand)).isEmpty =
      decide ("empty" ∈ Text.words shorthand) := by
    rw [← groups.contains_empty_explicit]
    rfl
  have honly : (Draft.blank.extend name (groups.explicit shorthand)).only =
      decide ("only" ∈ Text.words shorthand) := by
    rw [← groups.contains_only_explicit]
    rfl
  have hattributes : (Draft.blank.extend name (groups.explicit shorthand)).attributes =
      ((groups.explicit shorthand).filterMap (Item.decl? name)).foldl replaceOrAppend [] :=
    foldl_put_eq_foldl_replaceOrAppend _ List.nodup_nil
  unfold compile
  rw [if_pos hname, Draft.foldlM_read, ← Groups.explicit, Draft.foldlM_take, hposition]
  simp only [described, List.findSome?_append]
  cases (groups.explicit shorthand).findSome? (Item.fault? name
      ((Text.words shorthand).findSome? Position.ofKeyword?)) with
  | some error => rfl
  | none =>
      simp only [bind_ok, Option.none_or]
      rw [Draft.finish_eq groups name shorthand honly, hposition, hempty, hattributes]

section

variable {groups : Groups} {name shorthand : String} {element : ElementDecl}

theorem isName_of_compile (h : compile groups name shorthand = .ok element) :
    isName name = true := by
  unfold compile at h
  split at h
  next hname => exact hname
  · cases h

/-- What an element that is compiled consists of. -/
theorem eq_of_compile (h : compile groups name shorthand = .ok element) :
    element = {
      name := name.toLower
      position := (Text.words shorthand).findSome? Position.ofKeyword?
      isEmpty := decide ("empty" ∈ Text.words shorthand)
      attributes := ((groups.common shorthand).filterMap (Item.decl? name)).foldl appendIfNew
        (((groups.explicit shorthand).filterMap (Item.decl? name)).foldl replaceOrAppend []) } := by
  rw [compile_eq_described (isName_of_compile h)] at h
  simp only [described] at h
  split at h
  · cases h
  · exact (Except.ok.inj h).symm

theorem name_of_compile (h : compile groups name shorthand = .ok element) :
    element.name = name.toLower :=
  congrArg ElementDecl.name (eq_of_compile h)

/-- Every attribute of an element is read from some token that its shorthand leads to. -/
theorem exists_token_of_compile (h : compile groups name shorthand = .ok element)
    {decl : AttributeDecl} (hdecl : decl ∈ element.attributes) :
    ∃ root ∈ groups.roots shorthand, ∃ token, .descriptor token ∈ groups.flatten [] root ∧
      AttributeDecl.read name.toLower token = .ok decl := by
  have hitem : decl ∈ (groups.explicit shorthand ++ groups.common shorthand).filterMap
      (Item.decl? name) := by
    rw [eq_of_compile h] at hdecl
    rw [List.filterMap_append, List.mem_append]
    rcases mem_or_mem_of_mem_foldl_appendIfNew hdecl with hcommon | hexplicit
    · exact .inr hcommon
    · exact .inl (mem_of_mem_foldl_replaceOrAppend hexplicit)
  obtain ⟨item, hmem, hsome⟩ := List.mem_filterMap.mp hitem
  cases item with
  | position place => cases hsome
  | empty | only => cases hsome
  | flat flat =>
      obtain ⟨root, hroot, hflat⟩ := Groups.flat_mem_append.mp hmem
      cases flat with
      | cycle group path => cases hsome
      | descriptor token =>
          refine ⟨root, hroot, token, hflat, ?_⟩
          simp only [Item.decl?, Flat.read] at hsome
          cases hread : AttributeDecl.read name.toLower token with
          | error fault => simp [hread, Except.toOption] at hsome
          | ok other => simpa [hread, Except.toOption] using hsome

theorem exists_read_of_compile (h : compile groups name shorthand = .ok element)
    {decl : AttributeDecl} (hdecl : decl ∈ element.attributes) :
    ∃ token, AttributeDecl.read name.toLower token = .ok decl := by
  obtain ⟨_, _, token, _, hread⟩ := exists_token_of_compile h hdecl
  exact ⟨token, hread⟩

theorem nodup_attributeNames_of_compile (h : compile groups name shorthand = .ok element) :
    element.attributeNames.Nodup := by
  rw [eq_of_compile h]
  exact nodup_foldl_appendIfNew _ (nodup_foldl_replaceOrAppend _ List.nodup_nil)

end

theorem exists_described_iff {groups : Groups} {name shorthand : String} :
    (∃ element, described groups name shorthand = .ok element) ↔
      ∀ item ∈ groups.explicit shorthand ++ groups.common shorthand,
        item.fault? name ((Text.words shorthand).findSome? Position.ofKeyword?) = none := by
  rw [← List.findSome?_eq_none_iff]
  simp only [described]
  cases (groups.explicit shorthand ++ groups.common shorthand).findSome? (Item.fault? name
      ((Text.words shorthand).findSome? Position.ofKeyword?)) <;> simp

/-- A description is without fault just if its places agree, no group that it reaches includes
itself, and every descriptor can be read. -/
theorem exists_described_iff_forall {groups : Groups} {name shorthand : String} :
    (∃ element, described groups name shorthand = .ok element) ↔
      (∀ first ∈ Text.words shorthand, ∀ second ∈ Text.words shorthand, ∀ place other,
        Position.ofKeyword? first = some place → Position.ofKeyword? second = some other →
          place = other) ∧
      (∀ root ∈ groups.roots shorthand, ∀ group, ReflTransGen groups.Includes root group →
        ¬TransGen groups.Includes group group) ∧
      ∀ root ∈ groups.roots shorthand, ∀ token, .descriptor token ∈ groups.flatten [] root →
        ∃ decl, AttributeDecl.read name.toLower token = .ok decl := by
  rw [exists_described_iff]
  constructor
  · intro h
    have hfirst : ∀ word ∈ Text.words shorthand, ∀ place, Position.ofKeyword? word = some place →
        (Text.words shorthand).findSome? Position.ofKeyword? = some place := by
      intro word hword place hplace
      have hitem := h (.position place) (List.mem_append_left _
        (Groups.position_mem_explicit.mpr ⟨word, hword, hplace⟩))
      cases hsome : (Text.words shorthand).findSome? Position.ofKeyword? with
      | none =>
          have hnone := List.findSome?_eq_none_iff.mp hsome word hword
          rw [hplace] at hnone
          cases hnone
      | some earlier =>
          rw [hsome] at hitem
          by_cases hsame : earlier = place
          · rw [hsame]
          · simp [Item.fault?, hsame] at hitem
    refine ⟨?_, ?_, ?_⟩
    · intro first hmem second hother place other hplace hsecond
      have heq := (hfirst first hmem place hplace).symm.trans (hfirst second hother other hsecond)
      exact Option.some.inj heq
    · intro root hroot group hreach hself
      obtain ⟨inner, path, hcycle⟩ := Groups.exists_cycle_iff.mpr ⟨group, hreach, hself⟩
      have hitem := h _ (Groups.flat_mem_append.mpr ⟨root, hroot, hcycle⟩)
      cases hitem
    · intro root hroot token htoken
      have hitem := h _ (Groups.flat_mem_append.mpr ⟨root, hroot, htoken⟩)
      cases hread : AttributeDecl.read name.toLower token with
      | ok decl => exact ⟨decl, rfl⟩
      | error fault => simp [Item.fault?, Flat.read, hread, Fallible.fault?] at hitem
  · intro h item hitem
    obtain ⟨hplaces, hgroups, htokens⟩ := h
    cases item with
    | empty | only => rfl
    | position place =>
        rcases List.mem_append.mp hitem with hitem | hitem
        · obtain ⟨word, hword, hplace⟩ := Groups.position_mem_explicit.mp hitem
          cases hsome : (Text.words shorthand).findSome? Position.ofKeyword? with
          | none => rfl
          | some earlier =>
              obtain ⟨other, hother, hearlier⟩ := List.exists_of_findSome?_eq_some hsome
              have hsame := hplaces other hother word hword earlier place hearlier hplace
              simp [Item.fault?, hsame]
        · exact absurd hitem Groups.position_not_mem_common
    | flat flat =>
        obtain ⟨root, hroot, hflat⟩ := Groups.flat_mem_append.mp hitem
        cases flat with
        | descriptor token =>
            obtain ⟨decl, hread⟩ := htokens root hroot token hflat
            simp [Item.fault?, Flat.read, hread, Fallible.fault?]
        | cycle group path =>
            obtain ⟨inner, hreach, hself⟩ := Groups.exists_cycle_iff.mp ⟨group, path, hflat⟩
            exact absurd hself (hgroups root hroot inner hreach)

/-- An element is compiled to what its flattened words say, folded from left to right. -/
theorem compile_eq_flatten_fold {name : String} (hname : isName name = true) (groups : Groups)
    (shorthand : String) :
    compile groups name shorthand = described groups name shorthand ∧
      ((∃ element, compile groups name shorthand = .ok element) ↔
        (∀ first ∈ Text.words shorthand, ∀ second ∈ Text.words shorthand, ∀ place other,
          Position.ofKeyword? first = some place → Position.ofKeyword? second = some other →
            place = other) ∧
        (∀ root ∈ groups.roots shorthand, ∀ group, ReflTransGen groups.Includes root group →
          ¬TransGen groups.Includes group group) ∧
        ∀ root ∈ groups.roots shorthand, ∀ token, .descriptor token ∈ groups.flatten [] root →
          ∃ decl, AttributeDecl.read name.toLower token = .ok decl) := by
  have heq := compile_eq_described hname groups shorthand
  refine ⟨heq, ?_⟩
  rw [heq]
  exact exists_described_iff_forall

/-- A picture, whose shorthand names its address twice and a group that holds another. -/
theorem compile_eq_flatten_fold_picture :
    isName "Img" = true ∧
      compile ⟨[("all", "id title? core"), ("core", "title lang"), ("inline", "empty")]⟩ "Img"
          "inline src empty core src/*" =
        .ok ⟨"img", some .inline, true, [⟨"src", true, .uri⟩, ⟨"title", false, .plain⟩,
          ⟨"lang", false, .plain⟩, ⟨"id", false, .plain⟩]⟩ := by
  have hname : isName "Img" = true := by decide
  refine ⟨hname, ?_⟩
  rw [(compile_eq_flatten_fold hname _ _).1]
  decide +kernel

end ElementDecl

end CheckedMarkup
