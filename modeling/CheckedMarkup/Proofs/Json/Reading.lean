import CheckedMarkup.Proofs.Json.Lexing

/-! # Every spelling is read back

A document that spells a value is read as that value: its tokens are found, and
they take the reader from where a value may come to where the value has been
put. So no document spells two values.
-/

namespace CheckedMarkup.Json

variable {rest : List Token} {stack : List Frame}

/-! ## Where a number ends -/

theorem isChain_cons_of_ne_number {token : Token} (htoken : ∀ numeral, token ≠ .number numeral)
    (hrest : rest.IsChain Token.MayPrecede) : (token :: rest).IsChain Token.MayPrecede :=
  List.isChain_cons.mpr
    ⟨fun _ _ hnumber => absurd hnumber.choose_spec (htoken _), hrest⟩

/-- Tokens that may stand after a value: none, or a comma or the end of a container first. -/
structure MayFollow (rest : List Token) : Prop where
  ends : ∀ token ∈ rest.head?, token ∈ [Token.comma, .endArray, .endObject]
  isChain : rest.IsChain Token.MayPrecede

theorem MayFollow.nil : MayFollow [] :=
  ⟨fun _ h => absurd h (by simp), .nil⟩

theorem MayFollow.cons {token : Token} (h : token ∈ [Token.comma, .endArray, .endObject])
    (hrest : rest.IsChain Token.MayPrecede) : MayFollow (token :: rest) := by
  refine ⟨?_, isChain_cons_of_ne_number ?_ hrest⟩
  · rintro _ ⟨⟩
    exact h
  · rintro numeral rfl
    simp at h

theorem mayFollow_itemsTokens {items : List (Value Spelled)}
    (hitems : ∀ item ∈ items, ∀ rest, MayFollow rest →
      (item.tokens ++ rest).IsChain Token.MayPrecede)
    (hrest : MayFollow rest) : MayFollow (itemsTokens items ++ rest) := by
  induction items with
  | nil => exact hrest
  | cons item others ih =>
      rw [List.forall_mem_cons] at hitems
      rw [itemsTokens, List.cons_append, List.append_assoc]
      exact .cons (by simp) (hitems.1 _ (ih hitems.2))

/-- A key and its value, inside an object. -/
theorem isChain_member {key : Spelled} (h : rest.IsChain Token.MayPrecede) :
    (.text key :: .colon :: rest : List Token).IsChain Token.MayPrecede :=
  isChain_cons_of_ne_number (by simp) (isChain_cons_of_ne_number (by simp) h)

theorem mayFollow_membersTokens {members : List (Spelled × Value Spelled)}
    (hmembers : ∀ member ∈ members, ∀ rest, MayFollow rest →
      (member.2.tokens ++ rest).IsChain Token.MayPrecede)
    (hrest : MayFollow rest) : MayFollow (membersTokens members ++ rest) := by
  induction members with
  | nil => exact hrest
  | cons member others ih =>
      rw [List.forall_mem_cons] at hmembers
      rw [membersTokens, List.cons_append, List.cons_append, List.cons_append, List.append_assoc]
      exact .cons (by simp) (isChain_member (hmembers.1 _ (ih hmembers.2)))

theorem Value.isChain_tokens (value : Value Spelled) :
    ∀ rest, MayFollow rest → (value.tokens ++ rest).IsChain Token.MayPrecede := by
  induction value using Value.induction with
  | null => exact fun rest hrest => isChain_cons_of_ne_number (by simp) hrest.isChain
  | bool truth => exact fun rest hrest => isChain_cons_of_ne_number (by simp) hrest.isChain
  | number numeral =>
      intro rest hrest
      exact List.isChain_cons.mpr ⟨fun token htoken _ => hrest.ends token htoken, hrest.isChain⟩
  | text content => exact fun rest hrest => isChain_cons_of_ne_number (by simp) hrest.isChain
  | array items ih =>
      intro rest hrest
      have hclose : MayFollow (.endArray :: rest) := .cons (by simp) hrest.isChain
      cases items with
      | nil => exact isChain_cons_of_ne_number (by simp) hclose.isChain
      | cons item others =>
          rw [List.forall_mem_cons] at ih
          rw [tokens, List.cons_append, List.append_assoc, List.append_assoc]
          exact isChain_cons_of_ne_number (by simp)
            (ih.1 _ (mayFollow_itemsTokens ih.2 hclose))
  | object members ih =>
      intro rest hrest
      have hclose : MayFollow (.endObject :: rest) := .cons (by simp) hrest.isChain
      rcases members with _ | ⟨⟨key, value⟩, others⟩
      · exact isChain_cons_of_ne_number (by simp) hclose.isChain
      · rw [List.forall_mem_cons] at ih
        rw [tokens, List.cons_append, List.cons_append, List.cons_append, List.append_assoc,
          List.append_assoc]
        exact isChain_cons_of_ne_number (by simp)
          (isChain_member (ih.1 _ (mayFollow_membersTokens ih.2 hclose)))

/-! ## The reader -/

namespace Reader

theorem run_cons {reader next : Reader} {token : Token} (h : reader.step token = some next)
    (tokens : List Token) : reader.run (token :: tokens) = next.run tokens := by
  rw [run, h]
  rfl

theorem run_append_of_run {reader next : Reader} {tokens : List Token}
    (h : reader.run tokens = some next) (others : List Token) :
    reader.run (tokens ++ others) = next.run others := by
  rw [run_append, h]
  rfl

/-- After an opening bracket a value is read as any other item is. -/
theorem run_firstItem (item : Value Spelled) (rest : List Token) :
    (firstItem stack).run (item.tokens ++ rest) =
      (value (.array [] :: stack)).run (item.tokens ++ rest) := by
  cases item with
  | null => rfl
  | bool truth => rfl
  | number numeral => rfl
  | text content => rfl
  | array items => cases items <;> rfl
  | object members => rcases members with _ | ⟨⟨key, first⟩, others⟩ <;> rfl

theorem run_itemsTokens {items : List (Value Spelled)}
    (hitems : ∀ item ∈ items, ∀ stack, (value stack).run item.tokens = some (put item stack))
    (before : List (Value Spelled)) :
    (nextItem before stack).run (itemsTokens items ++ [.endArray]) =
      some (put (.array (before.reverse ++ items)) stack) := by
  induction items generalizing before with
  | nil =>
      rw [List.append_nil]
      rfl
  | cons item others ih =>
      rw [List.forall_mem_cons] at hitems
      have hcomma : (nextItem before stack).step .comma = some (.value (.array before :: stack)) :=
        rfl
      rw [itemsTokens, List.cons_append, run_cons hcomma, List.append_assoc,
        run_append_of_run (hitems.1 _), put, ih hitems.2, List.reverse_cons, List.append_assoc,
        List.singleton_append]

theorem run_membersTokens {members : List (Spelled × Value Spelled)}
    (hmembers : ∀ member ∈ members, ∀ stack,
      (value stack).run member.2.tokens = some (put member.2 stack))
    (before : List (Spelled × Value Spelled)) :
    (nextMember before stack).run (membersTokens members ++ [.endObject]) =
      some (put (.object (before.reverse ++ members)) stack) := by
  induction members generalizing before with
  | nil =>
      rw [List.append_nil]
      rfl
  | cons member others ih =>
      rw [List.forall_mem_cons] at hmembers
      have hcomma : (nextMember before stack).step .comma = some (.nextKey before stack) := rfl
      have hkey : (nextKey before stack).step (.text member.1) =
          some (.colon before member.1 stack) := rfl
      have hcolon : (colon before member.1 stack).step .colon =
          some (.value (.object before member.1 :: stack)) := rfl
      rw [membersTokens, List.cons_append, List.cons_append, List.cons_append, run_cons hcomma,
        run_cons hkey, run_cons hcolon, List.append_assoc, run_append_of_run (hmembers.1 _), put,
        ih hmembers.2, List.reverse_cons, List.append_assoc, List.singleton_append]

/-- The tokens of a value have it put where a value may come. -/
theorem run_tokens (item : Value Spelled) :
    ∀ stack, (value stack).run item.tokens = some (put item stack) := by
  induction item using Value.induction with
  | null => exact fun _ => rfl
  | bool truth => exact fun _ => rfl
  | number numeral => exact fun _ => rfl
  | text content => exact fun _ => rfl
  | array items ih =>
      intro stack
      have hopen : (value stack).step .beginArray = some (.firstItem stack) := rfl
      cases items with
      | nil => rfl
      | cons item others =>
          rw [List.forall_mem_cons] at ih
          rw [Value.tokens, run_cons hopen, run_firstItem, run_append_of_run (ih.1 _), put,
            run_itemsTokens ih.2]
          rfl
  | object members ih =>
      intro stack
      have hopen : (value stack).step .beginObject = some (.firstKey stack) := rfl
      rcases members with _ | ⟨⟨key, first⟩, others⟩
      · rfl
      · rw [List.forall_mem_cons] at ih
        have hkey : (firstKey stack).step (.text key) = some (.colon [] key stack) := rfl
        have hcolon : (colon [] key stack).step .colon =
            some (.value (.object [] key :: stack)) := rfl
        rw [Value.tokens, run_cons hopen, run_cons hkey, run_cons hcolon,
          run_append_of_run (ih.1 _), put, run_membersTokens ih.2]
        rfl

end Reader

/-! ## Documents -/

theorem read_of_isSpelledBy {value : Value Spelled} {document : String}
    (h : value.IsSpelledBy document) : read document = some value := by
  have hchain := value.isChain_tokens [] .nil
  rw [List.append_nil] at hchain
  have htokens : tokens document = some value.tokens := Scan.tokens_of_spelling h hchain
  rw [read, htokens, Option.bind_eq_bind, Option.bind_some, Reader.run_tokens]
  rfl

end CheckedMarkup.Json
