import CheckedMarkup.Log
import CheckedMarkup.Proofs.Text.LowerCase
import CheckedMarkup.Proofs.Text.Words
import Mathlib.Data.List.Induction

/-! # What a log says

The messages about elements that are opened and closed are brackets with names and
depths. A reader with a stack of names finds out whether they match, and which names
stay open. The messages are enough for this: each of them says all that its entry
holds.
-/

namespace CheckedMarkup.Log

/-! ## Brackets -/

/-- Whether an element was opened or closed. -/
def Entry.isNesting : Entry → Bool
  | opened _ _ | closed _ _ => true
  | compiled _ _ | typeFixed _ | added _ | finished _ _ | abandoned _ => false

/-- Entries about elements that are opened inside so many others and all closed again. What is
opened is closed with the same depth, and with the same name up to case. -/
inductive IsBalanced : Nat → List Entry → Prop
  | nil {depth : Nat} : IsBalanced depth []
  | other {depth : Nat} {entry : Entry} {rest : List Entry} (hentry : entry.isNesting = false)
      (hrest : IsBalanced depth rest) : IsBalanced depth (entry :: rest)
  | bracket {depth : Nat} {name other : String} {between rest : List Entry}
      (hname : Text.sameUpToCase other name = true) (hbetween : IsBalanced (depth + 1) between)
      (hrest : IsBalanced depth rest) :
      IsBalanced depth (.opened name depth :: (between ++ .closed other depth :: rest))

/-- Entries in which elements with some names, the outermost first, are opened and not closed. What
stands before, between and after them is in balance. -/
inductive LeavesOpen : List String → List Entry → Prop
  | balanced {log : List Entry} (h : IsBalanced 0 log) : LeavesOpen [] log
  | opened {names : List String} {name : String} {log more : List Entry}
      (houter : LeavesOpen names log) (hinner : IsBalanced (names.length + 1) more) :
      LeavesOpen (names ++ [name]) (log ++ .opened name names.length :: more)

variable {depth : Nat} {names others : List String} {entry : Entry} {log more : List Entry}

theorem IsBalanced.append (h : IsBalanced depth log) (hmore : IsBalanced depth more) :
    IsBalanced depth (log ++ more) := by
  induction h with
  | nil => exact hmore
  | other hentry _ ih => exact .other hentry (ih hmore)
  | bracket hname hbetween _ _ ih =>
      rw [List.cons_append, List.append_assoc]
      exact .bracket hname hbetween (ih hmore)

namespace LeavesOpen

theorem append (h : LeavesOpen names log) (hmore : IsBalanced names.length more) :
    LeavesOpen names (log ++ more) := by
  cases h with
  | balanced h => exact .balanced (h.append hmore)
  | opened houter hinner =>
      rw [List.length_append, List.length_singleton] at hmore
      rw [List.append_assoc, List.cons_append]
      exact .opened houter (hinner.append hmore)

/-- What is closed is the last that was opened and is still open. -/
theorem close {name other : String} (h : LeavesOpen (names ++ [name]) log)
    (hname : Text.sameUpToCase other name = true) :
    LeavesOpen names (log ++ [.closed other names.length]) := by
  generalize hnames : names ++ [name] = all at h
  cases h with
  | balanced => simp at hnames
  | opened houter hinner =>
      obtain ⟨rfl, hlast⟩ := List.append_inj' hnames rfl
      obtain rfl := List.singleton_inj.mp hlast
      rw [List.append_assoc, List.cons_append]
      exact houter.append (.bracket hname hinner .nil)

end LeavesOpen

/-! ## Reading with a stack -/

/-- The names that are open after one more entry, the innermost first, if the entry fits. -/
def Entry.replay? (names : List String) : Entry → Option (List String)
  | .opened name depth => if depth = names.length then some (name :: names) else none
  | .closed other depth =>
      match names with
      | [] => none
      | name :: rest =>
          if Text.sameUpToCase other name ∧ depth = rest.length then some rest else none
  | .compiled _ _ | .typeFixed _ | .added _ | .finished _ _ | .abandoned _ => some names

def replay? (names : List String) (log : List Entry) : Option (List String) :=
  log.foldlM Entry.replay? names

theorem replay?_cons (names : List String) (entry : Entry) (log : List Entry) :
    replay? names (entry :: log) = (entry.replay? names).bind (replay? · log) :=
  List.foldlM_cons

theorem replay?_append (names : List String) (log more : List Entry) :
    replay? names (log ++ more) = (replay? names log).bind (replay? · more) :=
  List.foldlM_append

theorem replay?_singleton (names : List String) (entry : Entry) :
    replay? names [entry] = entry.replay? names := by
  rw [replay?_cons]
  exact Option.bind_fun_some _

theorem Entry.replay?_of_not_isNesting (h : entry.isNesting = false) (names : List String) :
    entry.replay? names = some names := by
  cases entry with
  | opened | closed => cases h
  | compiled | typeFixed | added | finished | abandoned => rfl

/-- What an entry that fits can do to the open names. -/
theorem Entry.replay?_cases (h : entry.replay? names = some others) :
    (entry.isNesting = false ∧ others = names) ∨
    (∃ name, entry = .opened name names.length ∧ others = name :: names) ∨
    ∃ name other, entry = .closed other others.length ∧ names = name :: others ∧
      Text.sameUpToCase other name = true := by
  cases entry with
  | opened name depth =>
      simp only [replay?, Option.ite_none_right_eq_some, Option.some.injEq] at h
      obtain ⟨rfl, rfl⟩ := h
      exact .inr (.inl ⟨name, rfl, rfl⟩)
  | closed other depth =>
      cases names with
      | nil => cases h
      | cons name rest =>
          simp only [replay?, Option.ite_none_right_eq_some, Option.some.injEq] at h
          obtain ⟨⟨hname, rfl⟩, rfl⟩ := h
          exact .inr (.inr ⟨name, other, rfl, rfl, hname⟩)
  | compiled | typeFixed | added | finished | abandoned =>
      cases h
      exact .inl ⟨rfl, rfl⟩

theorem IsBalanced.replay?_eq (h : IsBalanced depth log) (hnames : names.length = depth) :
    replay? names log = some names := by
  -- along the balance itself: what a bracket opens, its other half takes off again
  induction h generalizing names with
  | nil => rfl
  | other hentry _ ih =>
      rw [replay?_cons, Entry.replay?_of_not_isNesting hentry]
      exact ih hnames
  | @bracket depth name other between rest hname _ _ ihbetween ihrest =>
      have hopened : (Entry.opened name depth).replay? names = some (name :: names) :=
        if_pos hnames.symm
      have hclosed : (Entry.closed other depth).replay? (name :: names) = some names :=
        if_pos ⟨hname, hnames.symm⟩
      rw [replay?_cons, hopened, Option.bind_some, replay?_append,
        ihbetween (by rw [List.length_cons, hnames]), Option.bind_some, replay?_cons, hclosed]
      exact ihrest hnames

theorem LeavesOpen.replay?_eq (h : LeavesOpen names log) : replay? [] log = some names.reverse := by
  induction h with
  | balanced h => exact h.replay?_eq rfl
  | @opened names name log more _ hinner ih =>
      have hopened : (Entry.opened name names.length).replay? names.reverse =
          some (name :: names.reverse) := if_pos List.length_reverse.symm
      rw [replay?_append, ih, Option.bind_some, replay?_cons, hopened, Option.bind_some,
        hinner.replay?_eq (by simp), List.reverse_append]
      rfl

theorem leavesOpen_of_replay? (h : replay? [] log = some names) :
    LeavesOpen names.reverse log := by
  -- from the last entry back to the first, since it is the last that changes what is open
  induction log using List.reverseRecOn generalizing names with
  | nil =>
      cases h
      exact .balanced .nil
  | append_singleton log entry ih =>
      rw [replay?_append, Option.bind_eq_some_iff] at h
      obtain ⟨before, hbefore, h⟩ := h
      rw [replay?_singleton] at h
      have hopen := ih hbefore
      rcases Entry.replay?_cases h with ⟨hentry, rfl⟩ | ⟨name, rfl, rfl⟩ |
        ⟨name, other, rfl, rfl, hname⟩
      · exact hopen.append (.other hentry .nil)
      · rw [List.reverse_cons, ← List.length_reverse]
        exact .opened hopen .nil
      · rw [List.reverse_cons] at hopen
        rw [← List.length_reverse]
        exact hopen.close hname

/-- The reader accepts just the logs whose brackets match, and ends with the names that stay
open. -/
theorem leavesOpen_iff_replay? : LeavesOpen names log ↔ replay? [] log = some names.reverse := by
  refine ⟨LeavesOpen.replay?_eq, fun h => ?_⟩
  have hopen := leavesOpen_of_replay? h
  rwa [List.reverse_reverse] at hopen

/-- What is not about opened and closed elements can be left out of a log, or put into it. -/
theorem replay?_filter {p : Entry → Bool}
    (hp : ∀ entry, p entry = false → entry.isNesting = false)
    (names : List String) (log : List Entry) :
    replay? names (log.filter p) = replay? names log := by
  induction log generalizing names with
  | nil => rfl
  | cons entry log ih =>
      cases hentry : p entry with
      | false =>
          rw [List.filter_cons_of_neg (by simp [hentry]), ih, replay?_cons,
            Entry.replay?_of_not_isNesting (hp entry hentry), Option.bind_some]
      | true =>
          rw [List.filter_cons_of_pos hentry, replay?_cons, replay?_cons]
          exact congrArg (Option.bind _) (funext ih)

theorem leavesOpen_filter_iff {p : Entry → Bool}
    (hp : ∀ entry, p entry = false → entry.isNesting = false) :
    LeavesOpen names (log.filter p) ↔ LeavesOpen names log := by
  rw [leavesOpen_iff_replay?, leavesOpen_iff_replay?, replay?_filter hp]

theorem LeavesOpen.unique (h : LeavesOpen names log) (hothers : LeavesOpen others log) :
    others = names := by
  have hsame := hothers.replay?_eq.symm.trans h.replay?_eq
  rwa [Option.some.injEq, List.reverse_inj] at hsame

/-! ## Messages -/

theorem isDigit_of_mem_toString {number : Nat} {c : Char} (h : c ∈ (toString number).toList) :
    c.isDigit = true := by
  rw [Nat.toString_eq_repr, Nat.toList_repr] at h
  exact Nat.isDigit_of_mem_toDigits (by decide) (by decide) h

theorem toList_toString_injective {first second : Nat}
    (h : (toString first).toList = (toString second).toList) : first = second := by
  have hread : ∀ number : Nat, Nat.ofDigitChars 10 (toString number).toList 0 = number := by
    intro number
    rw [Nat.toString_eq_repr, Nat.toList_repr, Nat.ofDigitChars_ten_toDigits]
  rw [← hread first, h, hread second]

/-- The name in a message ends at the last angle bracket, whatever it holds itself. -/
theorem place_inj {front name other : String} {depth depth' : Nat}
    (h : front ++ name ++ "> at depth " ++ toString depth =
      front ++ other ++ "> at depth " ++ toString depth') : name = other ∧ depth = depth' := by
  have hplain : ∀ depth : Nat, ∀ c ∈ (" at depth ".toList ++ (toString depth).toList).reverse,
      c ≠ '>' := by
    rintro depth c hc rfl
    rcases List.mem_append.mp (List.mem_reverse.mp hc) with hc | hc
    · exact absurd hc (by decide)
    · cases isDigit_of_mem_toString hc
  -- read backwards, the name begins after the first angle bracket
  have hlists : (" at depth ".toList ++ (toString depth).toList).reverse ++
        '>' :: name.toList.reverse =
      (" at depth ".toList ++ (toString depth').toList).reverse ++ '>' :: other.toList.reverse := by
    rw [String.append_assoc, String.append_assoc, String.append_assoc, String.append_assoc,
      String.append_right_inj] at h
    have hreverse := congrArg (fun text => text.toList.reverse) h
    simpa [String.toList_append] using hreverse
  obtain ⟨hplace, hname⟩ := Text.append_inj_of_span (hplain depth) (hplain depth')
    (by simp) (by simp) hlists
  rw [List.reverse_inj, List.append_cancel_left_eq] at hplace
  rw [List.cons.injEq, List.reverse_inj] at hname
  exact ⟨String.toList_injective hname.2, toList_toString_injective hplace⟩

/-- A number in a message ends where no digit follows. -/
theorem counts_inj {front last : String} {first second first' second' : Nat}
    (h : front ++ toString first ++ " fragments, " ++ toString second ++ last =
      front ++ toString first' ++ " fragments, " ++ toString second' ++ last) :
    first = first' ∧ second = second' := by
  have hblank : ∀ rest : List Char, ∀ c ∈ (" fragments, ".toList ++ rest).head?,
      ¬c.isDigit = true := by
    intro rest c hc
    cases hc
    decide
  rw [String.append_left_inj, String.append_assoc, String.append_assoc, String.append_assoc,
    String.append_assoc, String.append_right_inj] at h
  have hlists := congrArg String.toList h
  simp only [String.toList_append] at hlists
  obtain ⟨hfirst, hrest⟩ := Text.append_inj_of_span (p := fun c => c.isDigit = true)
    (fun _ => isDigit_of_mem_toString) (fun _ => isDigit_of_mem_toString) (hblank _) (hblank _)
    hlists
  rw [List.append_cancel_left_eq] at hrest
  exact ⟨toList_toString_injective hfirst, toList_toString_injective hrest⟩

theorem isPrefix_append {letters : List Char} {front : String} (h : letters <+: front.toList)
    (rest : String) : letters <+: (front ++ rest).toList := by
  rw [String.toList_append]
  exact h.trans ⟨_, rfl⟩

namespace Entry

/-- The letters that a message begins with, by which the kinds of entries are told apart. -/
def lead : Entry → List Char
  | compiled _ _ => ['C', 'o']
  | typeFixed _ => ['<', 'i']
  | added _ => ['e', 'l']
  | opened _ _ => ['s', 't']
  | closed _ _ => ['e', 'n']
  | finished _ _ => ['f', 'i']
  | abandoned _ => ['m', 'a']

theorem isPrefix_lead (entry : Entry) : entry.lead <+: entry.message.toList := by
  cases entry with
  | added | abandoned => exact isPrefix_append ⟨_, rfl⟩ _
  | typeFixed => exact isPrefix_append (isPrefix_append ⟨_, rfl⟩ _) _
  | opened | closed => exact isPrefix_append (isPrefix_append (isPrefix_append ⟨_, rfl⟩ _) _) _
  | compiled | finished =>
      exact isPrefix_append (isPrefix_append (isPrefix_append (isPrefix_append ⟨_, rfl⟩ _) _) _) _

variable {other : Entry} {name : String} {fragments bytes : Nat}

theorem length_lead (entry : Entry) : entry.lead.length = 2 := by
  cases entry <;> rfl

theorem lead_eq_of_message_eq (h : entry.message = other.message) : entry.lead = other.lead := by
  have hlength : entry.lead.length = other.lead.length := by rw [length_lead, length_lead]
  have hother := other.isPrefix_lead
  rw [← h] at hother
  have hsame := List.prefix_of_prefix_length_le entry.isPrefix_lead hother (Nat.le_of_eq hlength)
  exact hsame.eq_of_length hlength

theorem says_opened_iff :
    entry.level = .trace ∧ entry.message = s!"start <{name}> at depth {depth}" ↔
      entry = .opened name depth := by
  constructor
  · rintro ⟨-, h⟩
    have hlead : entry.lead = (opened name depth).lead := lead_eq_of_message_eq h
    cases entry with
    | opened =>
        obtain ⟨rfl, rfl⟩ := place_inj h
        rfl
    | compiled | typeFixed | added | closed | finished | abandoned => simp [lead] at hlead
  · rintro rfl
    exact ⟨rfl, rfl⟩

theorem says_closed_iff :
    entry.level = .trace ∧ entry.message = s!"end </{name}> at depth {depth}" ↔
      entry = .closed name depth := by
  constructor
  · rintro ⟨-, h⟩
    have hlead : entry.lead = (closed name depth).lead := lead_eq_of_message_eq h
    cases entry with
    | closed =>
        obtain ⟨rfl, rfl⟩ := place_inj h
        rfl
    | compiled | typeFixed | added | opened | finished | abandoned => simp [lead] at hlead
  · rintro rfl
    exact ⟨rfl, rfl⟩

theorem says_finished_iff :
    entry.level = .debug ∧
        entry.message = s!"finished markup stream: {fragments} fragments, {bytes} bytes" ↔
      entry = .finished fragments bytes := by
  constructor
  · rintro ⟨-, h⟩
    have hlead : entry.lead = (finished fragments bytes).lead := lead_eq_of_message_eq h
    cases entry with
    | finished =>
        obtain ⟨rfl, rfl⟩ := counts_inj h
        rfl
    | compiled | typeFixed | added | opened | closed | abandoned => simp [lead] at hlead
  · rintro rfl
    exact ⟨rfl, rfl⟩

end Entry

end CheckedMarkup.Log
