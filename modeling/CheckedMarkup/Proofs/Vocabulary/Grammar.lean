import CheckedMarkup.Proofs.Vocabulary.Descriptors

/-! # The language of descriptors

A token is a descriptor in at most one way, as a name with markers behind it,
and reading finds this way if there is one. Otherwise reading stops behind the
longest descriptor that the token begins with, and reports what is left.
-/

namespace CheckedMarkup

open Text

/-! ## Tokens of descriptors -/

namespace Descriptor

/-- Whether a descriptor can be written: its name and all of its markers can. -/
structure IsProper (descriptor : Descriptor) : Prop where
  name : isName descriptor.name = true
  markers : ∀ marker ∈ descriptor.markers, marker.IsProper

/-- The token of a descriptor: its name, and its markers one after the other. -/
def text (descriptor : Descriptor) : String :=
  descriptor.name ++ String.ofList (descriptor.markers.flatMap Marker.text)

/-- Whether a token begins with the token of a descriptor. -/
def Begins (descriptor : Descriptor) (token : String) : Prop :=
  descriptor.IsProper ∧ ∃ rest, token = descriptor.text ++ rest

/-- Whether a descriptor is the longest one that a token begins with. -/
structure IsLongestIn (descriptor : Descriptor) (token : String) : Prop where
  begins : descriptor.Begins token
  longest : ∀ other : Descriptor, other.Begins token → other.text.length ≤ descriptor.text.length

end Descriptor

/-- What is wrong with a token that is no descriptor. -/
inductive TokenFault.Describes (token : String) : TokenFault → Prop
  | noName (hname : ∀ c ∈ token.toList.head?, isNameChar c = false) :
      Describes token (.noName token)
  | unreadMarkers {longest : Descriptor} {rest : String} (hlongest : longest.IsLongestIn token)
      (htoken : token = longest.text ++ rest) (hrest : rest ≠ "") :
      Describes token (.unreadMarkers rest)

/-! ## Markers are read as far as they go -/

namespace Marker

theorem head?_text (marker : Marker) (rest : List Char) :
    ∀ c ∈ (marker.text ++ rest).head?, isNameChar c = false := by
  cases marker <;> simp [text] <;> decide

theorem head?_flatMap_text (markers : List Marker) :
    ∀ c ∈ (markers.flatMap text).head?, isNameChar c = false := by
  cases markers with
  | nil => simp
  | cons marker rest =>
      rw [List.flatMap_cons]
      exact marker.head?_text _

theorem eq_text_append_of_read? {marker : Marker} {given rest : List Char}
    (h : read? given = some (marker, rest)) : given = marker.text ++ rest := by
  unfold read? at h
  split at h
  case h_7 inside =>
    split at h
    · cases h
    next c after hdrop =>
      obtain ⟨texts, hsplit, heq⟩ := Option.map_eq_some_iff.mp h
      cases heq
      obtain ⟨_, _, hinside⟩ := splitOptions?_eq_some_iff.mp hsplit
      have hround : c = ')' := by
        have hhead := List.head?_dropWhile_not (· != ')') inside
        simpa [hdrop] using hhead
      have hparts := List.takeWhile_append_dropWhile (p := (· != ')')) (l := inside)
      rw [hinside, hdrop, hround] at hparts
      simp [text, ← hparts]
  case h_8 => cases h
  all_goals
    cases h
    rfl

/-- Reading splits a text into the markers at its front and the rest. -/
theorem flatMap_text_readAll (given : List Char) :
    (readAll given).1.flatMap text ++ (readAll given).2 = given := by
  induction given using readAll.induct with
  | case1 given hnone => rw [readAll_of_read?_eq_none hnone, List.flatMap_nil, List.nil_append]
  | case2 given first rest hsome _ _ _ _ ih =>
      rw [readAll_of_read?_eq_some hsome, List.flatMap_cons, List.append_assoc, ih]
      exact (eq_text_append_of_read? hsome).symm

theorem length_readAll_le (given : List Char) : (readAll given).2.length ≤ given.length := by
  have hlength := congrArg List.length (flatMap_text_readAll given)
  rw [List.length_append] at hlength
  omega

/-- A marker at the front of a text is read, or else a longer one. -/
theorem exists_read?_text_append {marker : Marker} (h : marker.IsProper) (rest : List Char) :
    ∃ found after, read? (marker.text ++ rest) = some (found, after) ∧
      after.length ≤ rest.length := by
  by_cases hkeeps : marker = .uri → KeepsSlash rest
  · exact ⟨marker, rest, read?_text_append h hkeeps, Nat.le_refl _⟩
  · -- an address slash takes one of three letters in
    rw [Classical.not_imp] at hkeeps
    obtain ⟨rfl, hletter⟩ := hkeeps
    cases rest with
    | nil => simp [KeepsSlash] at hletter
    | cons c rest =>
        simp only [KeepsSlash, List.head?_cons, Option.mem_some_iff, forall_eq', not_and_or,
          not_not] at hletter
        rcases hletter with rfl | rfl | rfl
        · exact ⟨.contentType, rest, rfl, Nat.le_succ _⟩
        · exact ⟨.charset, rest, rfl, Nat.le_succ _⟩
        · exact ⟨.script, rest, rfl, Nat.le_succ _⟩

/-- Whatever markers a text begins with, no more is left of it than what follows them. -/
theorem length_readAll_append_le {markers : List Marker} (h : ∀ marker ∈ markers, marker.IsProper)
    (rest : List Char) : (readAll (markers.flatMap text ++ rest)).2.length ≤ rest.length := by
  induction markers with
  | nil => exact length_readAll_le rest
  | cons marker others ih =>
      obtain ⟨hmarker, hothers⟩ := List.forall_mem_cons.mp h
      rw [List.flatMap_cons, List.append_assoc]
      cases others with
      | nil =>
          obtain ⟨found, after, hread, hafter⟩ := exists_read?_text_append hmarker rest
          rw [List.flatMap_nil, List.nil_append, readAll_of_read?_eq_some hread]
          exact Nat.le_trans (length_readAll_le after) hafter
      | cons next more =>
          have hkeeps : KeepsSlash ((next :: more).flatMap text ++ rest) := by
            rw [List.flatMap_cons, List.append_assoc]
            exact keepsSlash_text next _
          rw [readAll_of_read?_eq_some (read?_text_append hmarker fun _ => hkeeps)]
          exact ih hothers

end Marker

/-! ## Reading a token -/

namespace Descriptor

variable {descriptor : Descriptor} {token : String}

theorem toList_text (descriptor : Descriptor) :
    descriptor.text.toList =
      descriptor.name.toList ++ descriptor.markers.flatMap Marker.text := by
  simp [text]

theorem IsProper.isNameChar_of_mem (h : descriptor.IsProper) :
    ∀ c ∈ descriptor.name.toList, isNameChar c = true := by
  have hname := h.name
  simp only [isName, Bool.and_eq_true, List.all_eq_true] at hname
  exact hname.2

theorem IsProper.exists_cons (h : descriptor.IsProper) :
    ∃ c rest, descriptor.name.toList = c :: rest ∧ isNameChar c = true := by
  cases hname : descriptor.name.toList with
  | nil =>
      have hempty : descriptor.name = "" := by simpa using hname
      have hproper := h.name
      simp [isName, hempty] at hproper
  | cons c rest => exact ⟨c, rest, rfl, h.isNameChar_of_mem c (hname ▸ List.mem_cons_self)⟩

/-- A descriptor is read back from its token. -/
theorem IsProper.read_text (h : descriptor.IsProper) :
    Descriptor.read descriptor.text = .ok descriptor := by
  obtain ⟨htake, hdrop⟩ := takeWhile_dropWhile_append h.isNameChar_of_mem
    (Marker.head?_flatMap_text descriptor.markers)
  rw [Descriptor.read_eq_ok_iff, toList_text, htake, hdrop]
  refine ⟨rfl, ?_, Marker.readAll_flatMap_text h.markers⟩
  intro hempty
  obtain ⟨c, rest, hcons, _⟩ := h.exists_cons
  simp [hempty] at hcons

/-- What reading finds at the front of a token, which may not begin with a name. -/
def front (token : String) : Descriptor :=
  ⟨String.ofList (token.toList.takeWhile isNameChar),
    (Marker.readAll (token.toList.dropWhile isNameChar)).1⟩

/-- What reading leaves of a token. -/
def unread (token : String) : String :=
  String.ofList (Marker.readAll (token.toList.dropWhile isNameChar)).2

theorem text_front_append_unread (token : String) :
    (front token).text ++ unread token = token := by
  rw [← String.toList_inj, String.toList_append, toList_text, front, unread, String.toList_ofList,
    String.toList_ofList, List.append_assoc, Marker.flatMap_text_readAll,
    List.takeWhile_append_dropWhile]

theorem isProper_front (h : token.toList.takeWhile isNameChar ≠ []) : (front token).IsProper := by
  refine ⟨?_, fun marker hmarker => Marker.isProper_of_mem_readAll hmarker⟩
  simp only [front, isName, Bool.and_eq_true, Bool.not_eq_true', String.isEmpty_eq_false_iff,
    String.toList_ofList]
  exact ⟨by simpa using h, List.all_takeWhile⟩

/-- Reading finds a descriptor just where its token stands. -/
theorem read_eq_ok_iff_text :
    Descriptor.read token = .ok descriptor ↔ descriptor.IsProper ∧ descriptor.text = token := by
  constructor
  · intro h
    obtain ⟨hname, hne, hall⟩ := Descriptor.read_eq_ok_iff.mp h
    have hfront : front token = descriptor := by rw [front, hall, ← hname, String.ofList_toList]
    have hunread : unread token = "" := by rw [unread, hall, String.ofList_nil]
    have htext := text_front_append_unread token
    rw [hfront, hunread, String.append_empty] at htext
    refine ⟨hfront ▸ isProper_front ?_, htext⟩
    rw [← hname]
    simpa using hne
  · rintro ⟨hproper, rfl⟩
    exact hproper.read_text

/-! ## Where reading stops -/

/-- However a token begins with a descriptor, no more is left unread than what follows there. -/
theorem length_unread_le {rest : String} (h : descriptor.IsProper)
    (htoken : token = descriptor.text ++ rest) : (unread token).length ≤ rest.length := by
  subst htoken
  rw [unread, String.length_ofList, String.toList_append, toList_text, List.append_assoc]
  cases hmarkers : descriptor.markers with
  | nil =>
      -- the name may go on behind the one of the descriptor
      rw [List.flatMap_nil, List.nil_append, List.dropWhile_append_of_pos h.isNameChar_of_mem]
      have hdrop := (List.dropWhile_sublist isNameChar (l := rest.toList)).length_le
      exact Nat.le_trans (Marker.length_readAll_le _) hdrop
  | cons marker others =>
      have hhead : ∀ c ∈ ((marker :: others).flatMap Marker.text ++ rest.toList).head?,
          isNameChar c = false := by
        rw [List.flatMap_cons, List.append_assoc]
        exact marker.head?_text _
      rw [(takeWhile_dropWhile_append h.isNameChar_of_mem hhead).2]
      exact Marker.length_readAll_append_le (hmarkers ▸ h.markers) rest.toList

theorem isLongestIn_front (h : token.toList.takeWhile isNameChar ≠ []) :
    (front token).IsLongestIn token := by
  have htoken := text_front_append_unread token
  refine ⟨⟨isProper_front h, _, htoken.symm⟩, ?_⟩
  rintro other ⟨hother, rest, hrest⟩
  have hunread := length_unread_le hother hrest
  have hlength := congrArg String.length (htoken.trans hrest)
  rw [String.length_append, String.length_append] at hlength
  omega

theorem takeWhile_eq_nil_iff :
    token.toList.takeWhile isNameChar = [] ↔ ∀ c ∈ token.toList.head?, isNameChar c = false := by
  cases token.toList with
  | nil => simp
  | cons c rest => cases hc : isNameChar c <;> simp [hc]

/-- A fault that is reported is what is wrong with the token. -/
theorem describes_of_read_eq_error {fault : TokenFault} (h : Descriptor.read token = .error fault) :
    fault.Describes token := by
  simp only [Descriptor.read, List.isEmpty_iff] at h
  split at h
  next hname =>
    cases h
    exact .noName (takeWhile_eq_nil_iff.mp hname)
  next hname =>
    split at h
    · cases h
    next hrest =>
      cases h
      exact .unreadMarkers (isLongestIn_front hname) (text_front_append_unread token).symm
        (by simpa [unread] using hrest)

theorem Begins.takeWhile_ne_nil (h : descriptor.Begins token) :
    token.toList.takeWhile isNameChar ≠ [] := by
  obtain ⟨hproper, rest, rfl⟩ := h
  obtain ⟨c, others, hcons, hc⟩ := hproper.exists_cons
  simp [toList_text, hcons, hc]

end Descriptor

/-- A token has at most one fault. -/
theorem TokenFault.Describes.unique {token : String} {fault other : TokenFault}
    (hfault : fault.Describes token) (hother : other.Describes token) : fault = other := by
  cases hfault with
  | noName hname =>
      cases hother with
      | noName => rfl
      | unreadMarkers hlongest =>
          exact absurd (Descriptor.takeWhile_eq_nil_iff.mpr hname) hlongest.begins.takeWhile_ne_nil
  | unreadMarkers hlongest htoken =>
      cases hother with
      | noName hname =>
          exact absurd (Descriptor.takeWhile_eq_nil_iff.mpr hname) hlongest.begins.takeWhile_ne_nil
      | unreadMarkers hagain htokenAgain =>
          -- two longest beginnings have one length, so what follows them is the same
          have hle := hlongest.longest _ hagain.begins
          have hge := hagain.longest _ hlongest.begins
          have hparts := congrArg String.toList (htoken.symm.trans htokenAgain)
          rw [String.toList_append, String.toList_append] at hparts
          have hrest := (List.append_inj hparts (Nat.le_antisymm hge hle)).2
          rw [String.toList_inj.mp hrest]

theorem Descriptor.read_eq_error_iff {token : String} {fault : TokenFault} :
    Descriptor.read token = .error fault ↔ fault.Describes token := by
  refine ⟨describes_of_read_eq_error, fun h => ?_⟩
  cases hread : Descriptor.read token with
  | error other => rw [(describes_of_read_eq_error hread).unique h]
  | ok descriptor =>
      obtain ⟨hproper, htext⟩ := read_eq_ok_iff_text.mp hread
      have hbegins : descriptor.Begins token := ⟨hproper, "", by rw [String.append_empty, htext]⟩
      cases h with
      | noName hname => exact absurd (takeWhile_eq_nil_iff.mpr hname) hbegins.takeWhile_ne_nil
      | unreadMarkers hlongest htoken hrest =>
          -- the whole token is a descriptor, and no part of it is longer
          have hlength := congrArg String.length (htext.trans htoken)
          rw [String.length_append] at hlength
          have hle := hlongest.longest descriptor hbegins
          exact absurd (String.length_eq_zero_iff.mp (by omega)) hrest

/-! ## The whole language -/

/-- A token is read just if it is a name with markers behind it, which it is in one way only. Any
other token is malformed, and the report says from where on it is no descriptor: from its start if
that starts no name, and otherwise from the end of the longest descriptor that it begins with. -/
theorem AttributeDecl.read_follows_grammar (element token : String) :
    ((∀ other text fault,
        AttributeDecl.read element token ≠ .error (.malformedToken other text fault)) ↔
      ∃ descriptor : Descriptor, descriptor.IsProper ∧ descriptor.text = token) ∧
    (∀ descriptor, Descriptor.read token = .ok descriptor ↔
      descriptor.IsProper ∧ descriptor.text = token) ∧
    (∀ first second : Descriptor, first.IsProper → first.text = token →
      second.IsProper → second.text = token → first = second) ∧
    ∀ other text fault,
      AttributeDecl.read element token = .error (.malformedToken other text fault) ↔
        other = element ∧ text = token ∧ fault.Describes token := by
  have hmalformed : ∀ other text fault,
      AttributeDecl.read element token = .error (.malformedToken other text fault) ↔
        other = element ∧ text = token ∧ fault.Describes token := by
    intro other text fault
    rw [← Descriptor.read_eq_error_iff, AttributeDecl.read]
    cases Descriptor.read token with
    | error found => simp [eq_comm]
    | ok descriptor => cases hresolve : descriptor.resolve <;> simp [hresolve]
  refine ⟨?_, fun descriptor => Descriptor.read_eq_ok_iff_text, ?_, hmalformed⟩
  · simp only [ne_eq, hmalformed, ← Descriptor.read_eq_ok_iff_text, ← Descriptor.read_eq_error_iff]
    cases Descriptor.read token <;> simp
  · rintro first second hfirst rfl hsecond hsame
    have hread := hsecond.read_text
    rw [hsame, hfirst.read_text] at hread
    exact Except.ok.inj hread

-- a broken list of options is left as it stands, from its round bracket on
example : Descriptor.read "href/t(a|)*" = .error (.unreadMarkers "(a|)*") := by decide +kernel

end CheckedMarkup
