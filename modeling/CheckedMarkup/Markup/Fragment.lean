/-! # Trusted markup

A fragment is text that is markup already. It is inserted as it is and never
escaped again; plain text always is.
-/

namespace CheckedMarkup

structure Fragment where
  text : String
deriving Repr, DecidableEq

namespace Fragment

def empty : Fragment := ⟨""⟩

def isEmpty (fragment : Fragment) : Bool := fragment.text.isEmpty

def size (fragment : Fragment) : Nat := fragment.text.utf8ByteSize

def concat (fragments : List Fragment) : Fragment :=
  ⟨String.join (fragments.map text)⟩

@[simp] theorem concat_nil : concat [] = empty := rfl

theorem concat_append (first second : List Fragment) :
    (concat (first ++ second)).text = (concat first).text ++ (concat second).text := by
  simp [concat]

theorem concat_cons (fragment : Fragment) (rest : List Fragment) :
    (concat (fragment :: rest)).text = fragment.text ++ (concat rest).text := by
  simp [concat]

theorem text_concat_eq_empty_iff {fragments : List Fragment} :
    (concat fragments).text = "" ↔ ∀ fragment ∈ fragments, fragment.text = "" := by
  induction fragments with
  | nil => simp [empty]
  | cons fragment rest ih =>
      rw [concat_cons, String.append_eq_empty_iff, ih, List.forall_mem_cons]

@[simp] theorem concat_singleton (fragment : Fragment) : concat [fragment] = fragment := by
  simp [concat]

/-- No byte is added between fragments. -/
theorem size_concat_append (first second : List Fragment) :
    (concat (first ++ second)).size = (concat first).size + (concat second).size := by
  rw [size, concat_append, String.utf8ByteSize_append]
  rfl

end Fragment

end CheckedMarkup
