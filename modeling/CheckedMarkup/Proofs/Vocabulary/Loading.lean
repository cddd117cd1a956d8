import CheckedMarkup.Proofs.Json.Printing
import CheckedMarkup.Proofs.Vocabulary.Modular

/-! # Tables in documents

A document that gives a table, in whatever spelling, order and company, is read
as that table. What is read is compiled as the table itself is.
-/

namespace CheckedMarkup

namespace Json

/-- The object that has given members, with names that are texts. -/
def ofMembers (members : List (String × Value Spelled)) : Value Spelled :=
  .object (members.map fun (name, value) => (some name, value))

/-- The object of texts. -/
def ofPairs (pairs : List (String × String)) : Value Spelled :=
  ofMembers (pairs.map fun (name, text) => (name, .text (some text)))

end Json

namespace Table

open Json (Value Spelled)

/-- Whether the members of an object give a table. Its elements and its groups are one member
each, but groups may be left out if there are none. Their entries may stand in any order, and after
pairs that they override. All other members have other names, and may be anything. -/
inductive IsGivenBy (table : Table) (members : List (String × Value Spelled)) : Prop
  | withGroups {elements groups : List (String × String)} {others : List (String × Value Spelled)}
      (helements : (Keyed.latest Prod.fst elements).Perm table.elements)
      (hgroups : (Keyed.latest Prod.fst groups).Perm table.groups)
      (hothers : ∀ other ∈ others, other.1 ≠ "elements" ∧ other.1 ≠ "groups")
      (hmembers : members.Perm
        ([("elements", Json.ofPairs elements), ("groups", Json.ofPairs groups)] ++ others))
  | withoutGroups {elements : List (String × String)} {others : List (String × Value Spelled)}
      (helements : (Keyed.latest Prod.fst elements).Perm table.elements)
      (hgroups : table.groups = [])
      (hothers : ∀ other ∈ others, other.1 ≠ "elements" ∧ other.1 ≠ "groups")
      (hmembers : members.Perm ([("elements", Json.ofPairs elements)] ++ others))

variable {table : Table} {members others : List (String × Value Spelled)}

theorem ofEntries?_ofPairs (pairs : List (String × String)) :
    ofEntries? (Json.ofPairs pairs) = some (Keyed.sorted Prod.fst pairs) := by
  have hentries : pairs.mapM (fun pair => (pure (id pair) : Option (String × String))) =
      some pairs := by
    rw [List.mapM_pure, List.map_id]
    rfl
  simp only [ofEntries?, Json.ofPairs, Json.ofMembers, List.map_map, List.mapM_map]
  exact congrArg (· >>= fun entries => some (Keyed.sorted Prod.fst entries)) hentries

/-- Members of one name are found where they are, whatever the order, if it is not more than one. -/
theorem membersNamed_of_perm {given : List (String × Value Spelled)} (name : String)
    (hmembers : members.Perm (given ++ others)) (hothers : ∀ other ∈ others, other.1 ≠ name)
    (hgiven : (given.filter fun member => member.1 == name).length ≤ 1) :
    membersNamed name (members.map fun (name, value) => (some name, value)) =
      (given.filter fun member => member.1 == name).map Prod.snd := by
  have hnone : others.filter (fun member => member.1 == name) = [] := by
    rw [List.filter_eq_nil_iff]
    intro other hother
    simpa using hothers other hother
  have hperm := hmembers.filter fun member => member.1 == name
  rw [List.filter_append, hnone, List.append_nil] at hperm
  have hfilter : members.filter (fun member => member.1 == name) =
      given.filter fun member => member.1 == name := by
    generalize given.filter (fun member => member.1 == name) = found at hperm hgiven
    match found, hgiven with
    | [], _ => exact hperm.eq_nil
    | [member], _ => exact List.perm_singleton.mp hperm
  rw [membersNamed, List.filter_map, List.map_map, ← hfilter]
  rfl

theorem ofValue?_of_isGivenBy (h : table.IsGivenBy members) :
    ∃ elements groups : List (String × String),
      (Keyed.latest Prod.fst elements).Perm table.elements ∧
      (Keyed.latest Prod.fst groups).Perm table.groups ∧
      ofValue? (Json.ofMembers members) =
        some ⟨Keyed.sorted Prod.fst elements, Keyed.sorted Prod.fst groups⟩ := by
  have hkeys : (members.map fun (name, value) => ((some name : Spelled), value)).all
      (fun (key, _) => key.isSome) = true := by
    simp
  cases h with
  | @withGroups elements groups others helements hgroups hothers hmembers =>
      have helementsMember := membersNamed_of_perm "elements" hmembers
        (fun other hother => (hothers other hother).1) (by simp)
      have hgroupsMember := membersNamed_of_perm "groups" hmembers
        (fun other hother => (hothers other hother).2) (by simp)
      refine ⟨elements, groups, helements, hgroups, ?_⟩
      simp only [ofValue?, Json.ofMembers, hkeys, if_true, helementsMember, hgroupsMember]
      simp [ofEntries?_ofPairs]
  | @withoutGroups elements others helements hgroups hothers hmembers =>
      have helementsMember := membersNamed_of_perm "elements" hmembers
        (fun other hother => (hothers other hother).1) (by simp)
      have hgroupsMember := membersNamed_of_perm "groups" hmembers
        (fun other hother => (hothers other hother).2) (by simp)
      refine ⟨elements, [], helements, ?_, ?_⟩
      · rw [hgroups]
        exact .nil
      · simp only [ofValue?, Json.ofMembers, hkeys, if_true, helementsMember, hgroupsMember]
        simp [ofEntries?_ofPairs, Keyed.sorted]

/-- A document that gives a table, whose elements differ in more than the case of letters, is read
as the table with its entries in the order of their names. This is compiled to the vocabulary that
the table is compiled to in any order, and is refused just if the table is. -/
theorem read_agrees_with_table {document : String}
    (hdistinct : (table.elements.map keyOf).Nodup) (hmembers : table.IsGivenBy members)
    (hdocument : (Json.ofMembers members).IsSpelledBy document) :
    ∃ found : Table, read document = .ok found ∧
      (found.elements.Perm table.elements ∧ (found.elements.map Prod.fst).Pairwise (· < ·)) ∧
      (found.groups.Perm table.groups ∧ (found.groups.map Prod.fst).Pairwise (· < ·)) ∧
      ∀ elements groups, elements.Perm table.elements → groups.Perm table.groups →
        ∀ vocabulary, found.compile = .ok vocabulary ↔
          (Table.mk elements groups).compile = .ok vocabulary := by
  obtain ⟨elements, groups, helements, hgroups, hvalue⟩ := ofValue?_of_isGivenBy hmembers
  have hread : read document =
      .ok ⟨Keyed.sorted Prod.fst elements, Keyed.sorted Prod.fst groups⟩ := by
    rw [read, Json.read_of_isSpelledBy hdocument, Option.bind_some, hvalue]
  have hfoundElements := (Keyed.sorted_perm_latest elements).trans helements
  have hfoundGroups := (Keyed.sorted_perm_latest groups).trans hgroups
  refine ⟨_, hread, ⟨hfoundElements, Keyed.pairwise_sorted elements⟩,
    ⟨hfoundGroups, Keyed.pairwise_sorted groups⟩, ?_⟩
  intro others otherGroups hothers hotherGroups vocabulary
  have hkeys : ((Keyed.sorted Prod.fst elements).map keyOf).Nodup :=
    (hfoundElements.map keyOf).nodup_iff.mpr hdistinct
  have hgroupKeys : ((Keyed.sorted Prod.fst groups).map Prod.fst).Nodup :=
    Keyed.nodup_of_pairwise (Keyed.pairwise_sorted groups)
  exact (compile_eq_ok_iff_of_rearrangement
    (.of_perm (hfoundElements.trans hothers.symm) hkeys)
    (.of_perm (hfoundGroups.trans hotherGroups.symm) hgroupKeys)).symm

def noteTable : Table :=
  ⟨[("Note", "block tone(info|warn)"), ("pin", "inline empty only at/")], [("all", "id class")]⟩

/-- The table with its parts in another order, with pairs that are overridden, and with a member
that is not part of it. -/
def noteMembers : List (String × Value String) :=
  [("made \"by\"", .array [.number "-1.5e+07", .object [("elements", .null)], .text "\n\x01é"]),
    ("groups", .object [("all", .text "title"), ("all", .text "id class")]),
    ("elements", .object [("pin", .text "inline empty only at/"), ("Note", .text "head"),
      ("Note", .text "block tone(info|warn)")])]

def noteVocabulary : Vocabulary :=
  ⟨[⟨"note", some .block, false,
      [⟨"tone", false, .oneOf ["info", "warn"]⟩, ⟨"id", false, .plain⟩,
        ⟨"class", false, .plain⟩]⟩,
    ⟨"pin", some .inline, true, [⟨"at", false, .uri⟩]⟩]⟩

theorem read_agrees_with_table_notes :
    ∃ found : Table, read (Value.object noteMembers).pretty = .ok found ∧
      found.elements.Perm noteTable.elements ∧ found.compile = .ok noteVocabulary := by
  have hentries : noteTable.elements.mapM noteTable.declare = .ok noteVocabulary.elements := by
    decide +kernel
  have hcompile : noteTable.compile = .ok noteVocabulary :=
    compile_eq_ok_iff.mpr ⟨_, hentries, by decide +kernel⟩
  have hdistinct : (noteTable.elements.map keyOf).Nodup := by decide +kernel
  have helements : (Keyed.latest Prod.fst [("pin", "inline empty only at/"), ("Note", "head"),
      ("Note", "block tone(info|warn)")]).Perm noteTable.elements := by decide
  have hgroups : (Keyed.latest Prod.fst [("all", "title"), ("all", "id class")]).Perm
      noteTable.groups := by decide
  have hgiven : noteTable.IsGivenBy
      (noteMembers.map fun (name, value) => (name, value.map some)) := by
    refine .withGroups helements hgroups ?_ (List.reverse_perm _).symm
    simp
  have hdigits : ∀ {digits : List Char}, digits ≠ [] → digits.all Char.isDigit = true →
      Json.IsDigits digits := fun hne hall => ⟨hne, List.all_eq_true.mp hall⟩
  have hnumeral : Json.IsNumeral "-1.5e+07".toList :=
    @Json.IsNumeral.mk ['-'] ['1'] ['.', '5'] ['e', '+', '0', '7'] (.inr rfl)
      (.inr ⟨hdigits (by decide) rfl, by decide⟩) (.inr ⟨['5'], hdigits (by decide) rfl, rfl⟩)
      (.inr ⟨'e', ['+'], ['0', '7'], by decide, by decide, hdigits (by decide) rfl, rfl⟩)
  have hproper : (Value.object noteMembers).IsProper := by
    simp [noteMembers, Value.IsProper.number hnumeral, Value.IsProper.null]
  have hspelled := Value.isSpelledBy_chars Json.Layout.isBlank_indented hproper
  obtain ⟨found, hread, helements, hgroups, hagree⟩ :=
    read_agrees_with_table hdistinct hgiven hspelled
  exact ⟨found, hread, helements.1, (hagree _ _ .rfl .rfl _).mpr hcompile⟩

end Table

end CheckedMarkup
