import CheckedMarkup.Proofs.Markup.Escaping
import CheckedMarkup.Proofs.Text.Words
import CheckedMarkup.Proofs.Tree.Basic

/-! # Reading markup back

The markup of a normal form determines it. What ends a part never begins
another one: a name ends where no character of names follows, a value at its
quote, a text at the next tag, and the content of an element at its closing tag.
-/

namespace CheckedMarkup

/-! ## Markup of normal forms -/

def Label.pairs (label : Label) : List (String × String) :=
  label.attributes.map fun (name, raw) => (name, Escaper.xml.value raw)

def Label.markup (vocabulary : Vocabulary) (label : Label) (content : String) : String :=
  match vocabulary.find? label.name with
  | none => ""
  | some element => element.markup .whole label.pairs content

def Forest.markup (vocabulary : Vocabulary) : Forest Label → String
  | .nil => ""
  | .text raw rest => Escaper.xml.text raw ++ rest.markup vocabulary
  | .node label content rest =>
      label.markup vocabulary (content.markup vocabulary) ++ rest.markup vocabulary

def Forest.startsWithText {α : Type} : Forest α → Bool
  | .text _ _ => true
  | .nil | .node _ _ _ => false

/-- A label that names an element by its declared name, with content only if it can have some. -/
structure Label.IsNormal (vocabulary : Vocabulary) (label : Label) (content : Forest Label) :
    Prop where
  found : ∃ element, vocabulary.find? label.name = some element ∧ element.name = label.name ∧
    (element.isEmpty = true → content = .nil)
  name : IsLowerName label.name
  attributes : ∀ given ∈ label.attributes, IsLowerName given.1

/-- Texts are not empty and do not follow one another. -/
def Forest.IsNormal (vocabulary : Vocabulary) : Forest Label → Prop
  | .nil => True
  | .text raw rest => raw ≠ "" ∧ rest.startsWithText = false ∧ rest.IsNormal vocabulary
  | .node label content rest =>
      label.IsNormal vocabulary content ∧ content.IsNormal vocabulary ∧ rest.IsNormal vocabulary

/-! ## Where parts end -/

theorem IsLowerName.append_inj {name other : String} (hname : IsLowerName name)
    (hother : IsLowerName other) {tail rest : List Char}
    (htail : ∀ c ∈ tail.head?, isNameChar c = false)
    (hrest : ∀ c ∈ rest.head?, isNameChar c = false)
    (h : name.toList ++ tail = other.toList ++ rest) : name = other ∧ tail = rest := by
  obtain ⟨hlists, htails⟩ := Text.append_inj_of_span (p := fun c => isNameChar c = true)
    (fun c hc => hname.isNameChar_of_mem hc) (fun c hc => hother.isNameChar_of_mem hc)
    (fun c hc => Bool.eq_false_iff.mp (htail c hc))
    (fun c hc => Bool.eq_false_iff.mp (hrest c hc)) h
  exact ⟨String.toList_injective hlists, htails⟩

theorem xml_value_append_inj {raw other : String} {tail rest : List Char}
    (h : (Escaper.xml.value raw).toList ++ '"' :: tail =
      (Escaper.xml.value other).toList ++ '"' :: rest) : raw = other ∧ tail = rest := by
  have hquote : ∀ (text : String), ∀ c ∈ (Escaper.xml.value text).toList, c ≠ '"' := by
    intro text c hc
    exact (Escaper.ne_of_mem_xml_value hc).1
  obtain ⟨hlists, htails⟩ := Text.append_inj_of_span (p := fun c => c ≠ '"')
    (hquote raw) (hquote other) (by simp) (by simp) h
  exact ⟨Escaper.xml_value_injective (String.toList_injective hlists), (List.cons.inj htails).2⟩

theorem xml_text_append_inj {raw other : String} {tail rest : List Char}
    (htail : ∀ c ∈ tail.head?, c = '<') (hrest : ∀ c ∈ rest.head?, c = '<')
    (h : (Escaper.xml.text raw).toList ++ tail = (Escaper.xml.text other).toList ++ rest) :
    raw = other ∧ tail = rest := by
  have hless : ∀ (text : String), ∀ c ∈ (Escaper.xml.text text).toList, c ≠ '<' := by
    intro text c hc
    exact (Escaper.ne_of_mem_xml_text hc).1
  obtain ⟨hlists, htails⟩ := Text.append_inj_of_span (p := fun c => c ≠ '<')
    (hless raw) (hless other) (fun c hc => not_not_intro (htail c hc))
    (fun c hc => not_not_intro (hrest c hc)) h
  exact ⟨Escaper.xml_text_injective (String.toList_injective hlists), htails⟩

theorem IsLowerName.exists_cons {name : String} (h : IsLowerName name) :
    ∃ c rest, name.toList = c :: rest ∧ isNameChar c = true := by
  have hne : name ≠ "" := by
    have hproper := h.proper
    simp only [isName, Bool.and_eq_true, Bool.not_eq_true', String.isEmpty_eq_false_iff] at hproper
    exact hproper.1
  cases hlist : name.toList with
  | nil => exact absurd (String.toList_eq_nil_iff.mp hlist) hne
  | cons c rest =>
      have hmem : c ∈ name.toList := by
        rw [hlist]
        exact List.mem_cons_self
      exact ⟨c, rest, rfl, h.isNameChar_of_mem hmem⟩

/-! ## Attributes -/

theorem toList_attributesText_cons (name value : String) (rest : List (String × String)) :
    (attributesText ((name, value) :: rest)).toList =
      ' ' :: (name.toList ++ '=' :: '"' ::
        (value.toList ++ '"' :: (attributesText rest).toList)) := by
  simp [attributesText]

/-- Whether a text does not begin with an attribute. -/
def NoAttribute (tail : List Char) : Prop :=
  ∀ c rest, tail = ' ' :: c :: rest → isNameChar c = false

theorem NoAttribute.ne_attribute {tail rest : List Char} (h : NoAttribute tail) {name : String}
    (hname : IsLowerName name) : tail ≠ ' ' :: (name.toList ++ rest) := by
  intro htail
  obtain ⟨c, more, hlist, hc⟩ := hname.exists_cons
  rw [hlist] at htail
  exact Bool.eq_false_iff.mp (h c _ htail) hc

theorem attributesText_append_inj {first second : List (String × String)}
    (hfirst : ∀ given ∈ first, IsLowerName given.1)
    (hsecond : ∀ given ∈ second, IsLowerName given.1) {tail other : List Char}
    (htail : NoAttribute tail) (hother : NoAttribute other)
    (h : (attributesText (first.map fun given => (given.1, Escaper.xml.value given.2))).toList ++
        tail =
      (attributesText (second.map fun given => (given.1, Escaper.xml.value given.2))).toList ++
        other) :
    first = second ∧ tail = other := by
  induction first generalizing second with
  | nil =>
      cases second with
      | nil => exact ⟨rfl, h⟩
      | cons given second =>
          rw [List.map_cons, toList_attributesText_cons, List.cons_append, List.append_assoc] at h
          exact absurd h (htail.ne_attribute (hsecond given List.mem_cons_self))
  | cons given first ih =>
      cases second with
      | nil =>
          rw [List.map_cons, toList_attributesText_cons, List.cons_append, List.append_assoc] at h
          exact absurd h.symm (hother.ne_attribute (hfirst given List.mem_cons_self))
      | cons more second =>
          rw [List.map_cons, List.map_cons, toList_attributesText_cons,
            toList_attributesText_cons] at h
          simp only [List.cons_append, List.append_assoc, List.cons.injEq, true_and] at h
          obtain ⟨hname, h⟩ := (hfirst given List.mem_cons_self).append_inj
            (hsecond more List.mem_cons_self) (by simp; decide) (by simp; decide) h
          simp only [List.cons.injEq, true_and] at h
          obtain ⟨hvalue, h⟩ := xml_value_append_inj h
          obtain ⟨rfl, htails⟩ := ih
            (fun other hmem => hfirst other (List.mem_cons_of_mem _ hmem))
            (fun other hmem => hsecond other (List.mem_cons_of_mem _ hmem)) h
          rw [Prod.ext hname hvalue]
          exact ⟨rfl, htails⟩

/-! ## Elements -/

/-- What stands behind the attributes of an element. -/
def ElementDecl.remainder (element : ElementDecl) (content : String) : List Char :=
  if element.isEmpty then [' ', '/', '>']
  else '>' :: (content.toList ++ '<' :: '/' :: (element.name.toList ++ ['>']))

theorem toList_markup_whole (element : ElementDecl) (attributes : List (String × String))
    (content : String) :
    (element.markup .whole attributes content).toList =
      '<' :: (element.name.toList ++ ((attributesText attributes).toList ++
        element.remainder content)) := by
  cases hempty : element.isEmpty with
  | true => simp [ElementDecl.markup, ElementDecl.emptyTag, ElementDecl.remainder, hempty]
  | false =>
      simp [ElementDecl.markup, ElementDecl.openingTag, ElementDecl.closingTag,
        ElementDecl.remainder, hempty]

theorem noAttribute_remainder (element : ElementDecl) (content : String) (rest : List Char) :
    NoAttribute (element.remainder content ++ rest) := by
  intro c more h
  unfold ElementDecl.remainder at h
  split at h
  · simp only [List.cons_append, List.cons.injEq, true_and] at h
    rw [← h.1]
    decide
  · simp at h

theorem head?_attributes_append (attributes : List (String × String)) (element : ElementDecl)
    (content : String) (rest : List Char) :
    ∀ c ∈ ((attributesText attributes).toList ++ (element.remainder content ++ rest)).head?,
      isNameChar c = false := by
  cases attributes with
  | nil =>
      have hnil : (attributesText []).toList = [] := rfl
      rw [hnil, List.nil_append]
      unfold ElementDecl.remainder
      split
      · simp
        decide
      · simp
        decide
  | cons given attributes =>
      rw [toList_attributesText_cons]
      simp
      decide

variable {vocabulary : Vocabulary}

namespace Label.IsNormal

theorem toList_markup {label : Label} {element : ElementDecl}
    (hfind : vocabulary.find? label.name = some element) (hname : element.name = label.name)
    (text : String) :
    (label.markup vocabulary text).toList =
      '<' :: (label.name.toList ++ ((attributesText label.pairs).toList ++
        element.remainder text)) := by
  rw [Label.markup, hfind]
  rw [toList_markup_whole, hname]

theorem exists_cons {label : Label} {content : Forest Label}
    (h : label.IsNormal vocabulary content) (text : String) :
    ∃ c rest, (label.markup vocabulary text).toList = '<' :: c :: rest ∧ isNameChar c = true := by
  obtain ⟨element, hfind, hname, _⟩ := h.found
  obtain ⟨c, rest, hlist, hc⟩ := h.name.exists_cons
  rw [toList_markup hfind hname, hlist]
  exact ⟨c, _, rfl, hc⟩

/-- The markup of an element determines its label, and where its content begins. -/
theorem append_inj {first second : Label} {content other : Forest Label}
    (hfirst : first.IsNormal vocabulary content) (hsecond : second.IsNormal vocabulary other)
    {text more : String} {tail rest : List Char}
    (h : (first.markup vocabulary text).toList ++ tail =
      (second.markup vocabulary more).toList ++ rest) :
    first = second ∧
      (content = .nil ∧ other = .nil ∧ tail = rest ∨
        text.toList ++ '<' :: '/' :: (first.name.toList ++ '>' :: tail) =
          more.toList ++ '<' :: '/' :: (first.name.toList ++ '>' :: rest)) := by
  obtain ⟨element, hfind, hname, hempty⟩ := hfirst.found
  obtain ⟨element', hfind', hname', hempty'⟩ := hsecond.found
  rw [toList_markup hfind hname, toList_markup hfind' hname'] at h
  simp only [List.cons_append, List.append_assoc, List.cons.injEq, true_and] at h
  obtain ⟨hnames, h⟩ := hfirst.name.append_inj hsecond.name
    (head?_attributes_append _ _ _ _) (head?_attributes_append _ _ _ _) h
  rw [hnames, hfind', Option.some.injEq] at hfind
  subst hfind
  obtain ⟨hattributes, h⟩ := attributesText_append_inj hfirst.attributes hsecond.attributes
    (noAttribute_remainder _ _ _) (noAttribute_remainder _ _ _) h
  refine ⟨?_, ?_⟩
  · cases first
    cases second
    cases hnames
    cases hattributes
    rfl
  · unfold ElementDecl.remainder at h
    split at h
    next htrue => exact .inl ⟨hempty htrue, hempty' htrue, by simpa using h⟩
    · exact .inr (by simpa [hname] using h)

end Label.IsNormal

/-! ## Forests -/

/-- Whether a text ends here, or goes on with a closing tag. -/
def IsEnd (tail : List Char) : Prop := tail = [] ∨ ∃ rest, tail = '<' :: '/' :: rest

theorem exists_cons_xml_text {raw : String} (h : raw ≠ "") :
    ∃ c rest, (Escaper.xml.text raw).toList = c :: rest ∧ c ≠ '<' := by
  cases hlist : (Escaper.xml.text raw).toList with
  | nil =>
      have hempty : Escaper.xml.text raw = Escaper.xml.text "" := String.toList_eq_nil_iff.mp hlist
      exact absurd (Escaper.xml_text_injective hempty) h
  | cons c rest =>
      have hmem : c ∈ (Escaper.xml.text raw).toList := by
        rw [hlist]
        exact List.mem_cons_self
      exact ⟨c, rest, rfl, (Escaper.ne_of_mem_xml_text hmem).1⟩

theorem IsEnd.ne_text {tail rest : List Char} (h : IsEnd tail) {raw : String} (hraw : raw ≠ "") :
    tail ≠ (Escaper.xml.text raw).toList ++ rest := by
  obtain ⟨c, more, hlist, hc⟩ := exists_cons_xml_text hraw
  rw [hlist]
  rcases h with rfl | ⟨tail, rfl⟩
  · simp
  · intro heq
    exact hc (List.cons.inj heq).1.symm

theorem IsEnd.ne_node {tail rest : List Char} (h : IsEnd tail) {label : Label}
    {content : Forest Label} (hlabel : label.IsNormal vocabulary content) (text : String) :
    tail ≠ (label.markup vocabulary text).toList ++ rest := by
  obtain ⟨c, more, hlist, hc⟩ := hlabel.exists_cons text
  rw [hlist]
  rcases h with rfl | ⟨tail, rfl⟩
  · simp
  · intro heq
    rw [← (List.cons.inj (List.cons.inj heq).2).1] at hc
    exact absurd hc (by decide)

theorem text_append_ne_node {raw : String} (hraw : raw ≠ "") {label : Label}
    {content : Forest Label} (hlabel : label.IsNormal vocabulary content) (text : String)
    (tail rest : List Char) :
    (Escaper.xml.text raw).toList ++ tail ≠ (label.markup vocabulary text).toList ++ rest := by
  obtain ⟨c, more, hlist, hc⟩ := exists_cons_xml_text hraw
  obtain ⟨d, others, hmarkup, _⟩ := hlabel.exists_cons text
  rw [hlist, hmarkup]
  exact fun heq => hc (List.cons.inj heq).1

theorem Forest.head?_markup_append {forest : Forest Label} (h : forest.IsNormal vocabulary)
    (htext : forest.startsWithText = false) {tail : List Char} (htail : IsEnd tail) :
    ∀ c ∈ ((forest.markup vocabulary).toList ++ tail).head?, c = '<' := by
  cases forest with
  | nil =>
      rcases htail with rfl | ⟨rest, rfl⟩
      · simp [markup]
      · simp [markup]
  | text raw rest => cases htext
  | node label content rest =>
      obtain ⟨c, more, hlist, _⟩ := h.1.exists_cons (content.markup vocabulary)
      simp [markup, hlist]

/-- The markup of a normal form can be read back, also when an end comes after it. -/
theorem Forest.append_inj {first second : Forest Label} (hfirst : first.IsNormal vocabulary)
    (hsecond : second.IsNormal vocabulary) {tail other : List Char} (htail : IsEnd tail)
    (hother : IsEnd other)
    (h : (first.markup vocabulary).toList ++ tail = (second.markup vocabulary).toList ++ other) :
    first = second ∧ tail = other := by
  induction first generalizing second tail other with
  | nil =>
      cases second with
      | nil => exact ⟨rfl, h⟩
      | text raw rest =>
          simp only [markup, String.toList_append, List.append_assoc] at h
          exact absurd h (htail.ne_text hsecond.1)
      | node label content rest =>
          simp only [markup, String.toList_append, List.append_assoc] at h
          exact absurd h (htail.ne_node hsecond.1 _)
  | text raw rest ih =>
      simp only [markup, String.toList_append, List.append_assoc] at h
      cases second with
      | nil => exact absurd h.symm (hother.ne_text hfirst.1)
      | text raw' rest' =>
          simp only [markup, String.toList_append, List.append_assoc] at h
          obtain ⟨rfl, hrest⟩ := xml_text_append_inj
            (head?_markup_append hfirst.2.2 hfirst.2.1 htail)
            (head?_markup_append hsecond.2.2 hsecond.2.1 hother) h
          obtain ⟨rfl, htails⟩ := ih hfirst.2.2 hsecond.2.2 htail hother hrest
          exact ⟨rfl, htails⟩
      | node label content rest' =>
          simp only [markup, String.toList_append, List.append_assoc] at h
          exact absurd h (text_append_ne_node hfirst.1 hsecond.1 _ _ _)
  | node label content rest ihcontent ihrest =>
      simp only [markup, String.toList_append, List.append_assoc] at h
      cases second with
      | nil => exact absurd h.symm (hother.ne_node hfirst.1 _)
      | text raw' rest' =>
          simp only [markup, String.toList_append, List.append_assoc] at h
          exact absurd h.symm (text_append_ne_node hsecond.1 hfirst.1 _ _ _)
      | node label' content' rest' =>
          simp only [markup, String.toList_append, List.append_assoc] at h
          obtain ⟨rfl, hinside⟩ := hfirst.1.append_inj hsecond.1 h
          rcases hinside with ⟨rfl, rfl, hrest⟩ | hcontent
          · obtain ⟨rfl, htails⟩ := ihrest hfirst.2.2 hsecond.2.2 htail hother hrest
            exact ⟨rfl, htails⟩
          · obtain ⟨rfl, hrest⟩ :=
              ihcontent hfirst.2.1 hsecond.2.1 (.inr ⟨_, rfl⟩) (.inr ⟨_, rfl⟩) hcontent
            simp only [List.cons.injEq, List.append_cancel_left_eq, true_and] at hrest
            obtain ⟨rfl, htails⟩ := ihrest hfirst.2.2 hsecond.2.2 htail hother hrest
            exact ⟨rfl, htails⟩

theorem Forest.markup_injective {first second : Forest Label} (hfirst : first.IsNormal vocabulary)
    (hsecond : second.IsNormal vocabulary)
    (h : first.markup vocabulary = second.markup vocabulary) : first = second :=
  (append_inj hfirst hsecond (.inl rfl) (.inl rfl) (by rw [h])).1

end CheckedMarkup
