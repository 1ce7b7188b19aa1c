import DocumentQuery.Proofs.Sql.Items

/-!
# Where a part of the items ends

A part of a text is cut off where the parser looks for its end: at a blank, word or parenthesis that
ends it, outside all parentheses. Parts in which no such place comes early are inert, and they are
put together from inert pieces with blanks between them and from calls of functions.
-/

namespace DocumentQuery.Sql

theorem skip_blank (rest : List Item) : skip (Token.blank.items ++ rest) = skip rest := by
  have h : Item.isBlank (.lexeme (.mark ' ')) = true := by decide
  simp [skip, Token.items, Token.lexemes, h]

theorem skip_cons {i : Item} (h : i.isBlank = false) (rest : List Item) :
    skip (i :: rest) = i :: rest := by
  simp [skip, h]

theorem take?_blank (wanted : Item → Bool) (rest : List Item) :
    take? wanted (Token.blank.items ++ rest) = take? wanted rest := by
  rw [take?, take?, skip_blank]

theorem take?_cons {i : Item} (h : i.isBlank = false) (wanted : Item → Bool) (rest : List Item) :
    take? wanted (i :: rest) = if wanted i then some rest else none := by
  rw [take?, skip_cons h]

theorem endsAt_blank (stop : Item → Bool) (rest : List Item) :
    endsAt stop (Token.blank.items ++ rest) = endsAt stop rest := by
  rw [endsAt, endsAt, skip_blank]

theorem endsAt_cons {i : Item} (h : i.isBlank = false) (stop : Item → Bool) (rest : List Item) :
    endsAt stop (i :: rest) = stop i := by
  rw [endsAt, skip_cons h]

/-- What is not at its end is not at its end with more behind it. -/
theorem endsAt_append {stop : Item → Bool} {xs : List Item} (h : endsAt stop xs = false)
    (ys : List Item) : endsAt stop (xs ++ ys) = false := by
  unfold endsAt skip at h ⊢
  rw [List.dropWhile_append]
  cases hx : xs.dropWhile Item.isBlank with
  | nil => simp [hx] at h
  | cons i rest =>
    rw [hx] at h
    simpa using h

theorem endsAt_mono {p q : Item → Bool} (h : ∀ i, p i = true → q i = true) {xs : List Item}
    (hx : endsAt p xs = true) : endsAt q xs = true := by
  unfold endsAt at hx ⊢
  cases hs : skip xs with
  | nil => rfl
  | cons i rest =>
    rw [hs] at hx
    exact h i hx

/-- What is at its end does not go on with what does not end it. -/
theorem take?_none {stop wanted : Item → Bool} (h : ∀ i, stop i = true → wanted i = false)
    {xs : List Item} (hx : endsAt stop xs = true) : take? wanted xs = none := by
  unfold endsAt at hx
  unfold take?
  cases hs : skip xs with
  | nil => rfl
  | cons i rest =>
    rw [hs] at hx
    simp [h i hx]

/-- Whether the items come back out of their parentheses and end nowhere before. -/
def isInert (stop : Item → Bool) : Nat → List Item → Bool
  | depth, [] => depth == 0
  | depth, i :: rest =>
    (depth != 0 || !endsAt stop (i :: rest)) && isInert stop (depthAfter depth i) rest

theorem chunk_append {stop : Item → Bool} {depth : Nat} {xs rest : List Item}
    (h : isInert stop depth xs = true) (hr : endsAt stop rest = true) :
    chunk stop depth (xs ++ rest) = (xs, rest) := by
  induction xs generalizing depth with
  | nil =>
    have hd : depth = 0 := by simpa [isInert] using h
    cases rest with
    | nil => rfl
    | cons i rest => simp [chunk, hd, hr]
  | cons i xs ih =>
    simp only [isInert, Bool.and_eq_true, Bool.or_eq_true, Bool.not_eq_true', bne_iff_ne] at h
    have hgo : ¬(depth = 0 ∧ endsAt stop (i :: (xs ++ rest)) = true) := by
      rintro ⟨hd, he⟩
      rcases h.1 with h | h
      · exact h hd
      · rw [← List.cons_append, endsAt_append h] at he
        cases he
    rw [List.cons_append, chunk, if_neg hgo, ih h.2]

theorem isInert_append {stop : Item → Bool} {depth : Nat} {xs ys : List Item}
    (hx : isInert stop depth xs = true) (hy : isInert stop 0 ys = true) :
    isInert stop depth (xs ++ ys) = true := by
  induction xs generalizing depth with
  | nil =>
    have hd : depth = 0 := by simpa [isInert] using hx
    exact hd ▸ hy
  | cons i xs ih =>
    simp only [isInert, Bool.and_eq_true, Bool.or_eq_true, Bool.not_eq_true', bne_iff_ne] at hx
    simp only [List.cons_append, isInert, Bool.and_eq_true, Bool.or_eq_true, Bool.not_eq_true',
      bne_iff_ne]
    refine ⟨hx.1.imp_right fun h => ?_, ih hx.2⟩
    rw [← List.cons_append]
    exact endsAt_append h ys

theorem isInert_blank {stop : Item → Bool} {xs : List Item} (hne : xs ≠ [])
    (h : isInert stop 0 xs = true) : isInert stop 0 (Token.blank.items ++ xs) = true := by
  cases xs with
  | nil => exact absurd rfl hne
  | cons i rest =>
    have hi : endsAt stop (i :: rest) = false := by
      simp only [isInert, bne_self_eq_false, Bool.false_or, Bool.and_eq_true,
        Bool.not_eq_true'] at h
      exact h.1
    have hb : Token.blank.items ++ i :: rest = .lexeme (.mark ' ') :: i :: rest := rfl
    have hdepth : depthAfter 0 (.lexeme (.mark ' ')) = 0 := by decide
    rw [hb, isInert, hdepth, h, ← hb, endsAt_blank, hi]
    rfl

/-- Whether the item leaves the depth as it is. -/
def Item.isLevel (i : Item) : Bool := !i.isMark '(' && !i.isMark ')'

theorem depthAfter_isLevel {i : Item} (h : i.isLevel = true) (depth : Nat) :
    depthAfter depth i = depth := by
  simp only [Item.isLevel, Bool.and_eq_true, Bool.not_eq_true'] at h
  simp [depthAfter, h.1, h.2]

theorem isInert_level {stop : Item → Bool} {xs : List Item}
    (h : ∀ i ∈ xs, i.isLevel = true ∧ i.isBlank = false ∧ stop i = false) :
    isInert stop 0 xs = true := by
  induction xs with
  | nil => rfl
  | cons i xs ih =>
    simp only [List.mem_cons, forall_eq_or_imp] at h
    obtain ⟨⟨hl, hb, hs⟩, hxs⟩ := h
    rw [isInert, depthAfter_isLevel hl, endsAt_cons hb, hs, ih hxs]
    rfl

theorem isInert_enclosed {stop : Item → Bool} {xs : List Item} (h : ∀ i ∈ xs, i.isLevel = true)
    (hopen : stop (.lexeme (.mark '(')) = false) :
    isInert stop 0 (.lexeme (.mark '(') :: (xs ++ [.lexeme (.mark ')')])) = true := by
  have hinner : isInert stop 1 (xs ++ [.lexeme (.mark ')')]) = true := by
    induction xs with
    | nil => rfl
    | cons i xs ih =>
      simp only [List.mem_cons, forall_eq_or_imp] at h
      rw [List.cons_append, isInert, depthAfter_isLevel h.1, ih h.2]
      rfl
  have hb : Item.isBlank (.lexeme (.mark '(')) = false := by decide
  rw [isInert, endsAt_cons hb, hopen]
  exact hinner

def Token.isLevel : Token → Bool
  | .symbol .opening => false
  | .symbol .closing => false
  | _ => true

theorem Token.isLevel_items {t : Token} (h : t.isLevel = true) :
    ∀ i ∈ t.items, i.isLevel = true := by
  cases t with
  | symbol s => cases s <;> first | decide | cases h
  | blank => decide
  | param p => exact List.forall_mem_singleton.mpr rfl
  | keyword | function | number | body | generated | element | elementColumn |
      string | identifier =>
    exact List.forall_mem_singleton.mpr rfl

theorem mem_separated {sep : List Token} {pieces : List (List Token)} {t : Token}
    (h : t ∈ separated sep pieces) : t ∈ sep ∨ ∃ piece ∈ pieces, t ∈ piece := by
  induction pieces with
  | nil => simp [separated] at h
  | cons piece rest ih =>
    cases rest with
    | nil => exact .inr ⟨piece, List.mem_cons_self, h⟩
    | cons next rest =>
      rw [separated, List.mem_append, List.mem_append] at h
      rcases h with (h | h) | h
      · exact .inr ⟨piece, List.mem_cons_self, h⟩
      · exact .inl h
      · rcases ih h with h | ⟨p, hp, ht⟩
        · exact .inl h
        · exact .inr ⟨p, List.mem_cons_of_mem piece hp, ht⟩

/-- Tokens that are cut off whole where an end of the given kind comes. -/
structure Inert (stop : Item → Bool) (ts : List Token) : Prop where
  nonempty : items ts ≠ []
  whole : isInert stop 0 (items ts) = true

namespace Inert

variable {stop : Item → Bool}

theorem append {ts us : List Token} (ht : Inert stop ts) (hu : Inert stop us) :
    Inert stop (ts ++ us) :=
  ⟨by simp [ht.nonempty], by rw [items_append, isInert_append ht.whole hu.whole]⟩

theorem blank_cons {ts : List Token} (h : Inert stop ts) : Inert stop (.blank :: ts) :=
  ⟨by simp [h.nonempty], by rw [items_cons, isInert_blank h.nonempty h.whole]⟩

theorem spaced {pieces : List (List Token)} (hne : pieces ≠ [])
    (h : ∀ piece ∈ pieces, Inert stop piece) : Inert stop (spaced pieces) := by
  induction pieces with
  | nil => exact absurd rfl hne
  | cons piece rest ih =>
    simp only [List.mem_cons, forall_eq_or_imp] at h
    cases rest with
    | nil => exact h.1
    | cons next rest =>
      have hrest : Inert stop (Sql.spaced (next :: rest)) := ih (List.cons_ne_nil _ _) h.2
      have hall := h.1.append hrest.blank_cons
      rwa [← List.singleton_append, ← List.append_assoc] at hall

theorem level {ts : List Token} (hne : items ts ≠ [])
    (h : ∀ i ∈ items ts, i.isLevel = true ∧ i.isBlank = false ∧ stop i = false) : Inert stop ts :=
  ⟨hne, isInert_level h⟩

theorem parenthesized {ts : List Token} (h : ∀ t ∈ ts, t.isLevel = true)
    (hopen : stop (.lexeme (.mark '(')) = false) : Inert stop (parenthesized ts) := by
  have hitems : items (Sql.parenthesized ts) =
      .lexeme (.mark '(') :: (items ts ++ [.lexeme (.mark ')')]) := by
    rw [Sql.parenthesized, items_cons, items_append]
    rfl
  refine ⟨by simp [hitems], ?_⟩
  rw [hitems]
  refine isInert_enclosed (fun i hi => ?_) hopen
  obtain ⟨t, ht, hi⟩ := List.mem_flatMap.mp hi
  exact Token.isLevel_items (h t ht) i hi

theorem call {f : Function} {arguments : List (List Token)}
    (h : ∀ a ∈ arguments, ∀ t ∈ a, t.isLevel = true)
    (hf : stop (.lexeme (.word f.text.toList)) = false)
    (hopen : stop (.lexeme (.mark '(')) = false) :
    Inert stop (call f arguments) := by
  have hname : Inert stop [.function f] :=
    level (by simp [Token.items, Token.lexemes]) fun i hi => by
    have hi : i = .lexeme (.word f.text.toList) := List.mem_singleton.mp hi
    exact hi ▸ ⟨rfl, rfl, hf⟩
  have hargs : ∀ t ∈ listed arguments, t.isLevel = true := fun t ht => by
    rcases mem_separated ht with ht | ⟨a, ha, ht⟩
    · simp only [List.mem_cons, List.not_mem_nil, or_false] at ht
      rcases ht with rfl | rfl <;> rfl
    · exact h a ha t ht
  exact hname.append (parenthesized hargs hopen)

end Inert

end DocumentQuery.Sql
