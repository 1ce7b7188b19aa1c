import DocumentQuery.Proofs.Sql.Chunk

/-!
# Tokens that are read as an expression

Tokens are read as an expression of a level if the parser takes them for it in every place where
such an expression may stand, that is, in front of everything that ends one. Parentheses, negations,
subqueries and lists of operands are read as what they are made of.
-/

namespace DocumentQuery.Sql

/-- How many calls deeper than its operands an expression of the level is parsed. -/
def Level.rank : Level → Nat
  | .operand => 0
  | .conjunction => 1
  | .disjunction => 2

/-- The tokens are parsed as the expression wherever one of the level may stand. -/
def Reads (l : Level) (ts : List Token) (e : Expr) : Prop :=
  ∀ fuel rest, 3 * (items ts).length + l.rank ≤ fuel → endsAt l.ends rest = true →
    expression fuel l (items ts ++ rest) = some (e, rest)

theorem expression_blank (fuel : Nat) (l : Level) (rest : List Item) :
    expression fuel l (Token.blank.items ++ rest) = expression fuel l rest := by
  induction fuel generalizing l with
  | zero => cases l <;> rfl
  | succ fuel ih =>
    cases l with
    | operand => simp only [expression, word?, mark?, take?_blank, skip_blank]
    | conjunction => simp only [expression, ih]
    | disjunction => simp only [expression, ih]

theorem word?_blank (w : String) (rest : List Item) :
    word? w (Token.blank.items ++ rest) = word? w rest :=
  take?_blank _ rest

theorem mark?_blank (c : Char) (rest : List Item) :
    mark? c (Token.blank.items ++ rest) = mark? c rest :=
  take?_blank _ rest

theorem isWord_keyword (k : Keyword) :
    Item.isWord k.text (.lexeme (.word (Token.keyword k).chars)) = true := by
  cases k <;> decide

theorem word?_keyword (k : Keyword) (rest : List Item) :
    word? k.text ((Token.keyword k).items ++ rest) = some rest :=
  (take?_cons rfl _ rest).trans (if_pos (isWord_keyword k))

theorem mark?_opening (rest : List Item) :
    mark? '(' ((Token.symbol .opening).items ++ rest) = some rest := rfl

theorem mark?_closing (rest : List Item) :
    mark? ')' ((Token.symbol .closing).items ++ rest) = some rest := rfl

theorem endsAt_closing (l : Level) (rest : List Item) :
    endsAt l.ends ((Token.symbol .closing).items ++ rest) = true := by
  cases l <;> rfl

/-- What begins like an atomic predicate, with a word that opens nothing else. -/
def BeginsPredicate (ts : List Token) : Prop :=
  ∃ w rest, items ts = .lexeme (.word w) :: rest ∧
    Item.isWord "NOT" (.lexeme (.word w)) = false ∧ Item.isWord "EXISTS" (.lexeme (.word w)) = false

theorem reads_predicate {ts : List Token} (h : Inert Level.operand.ends ts)
    (hb : BeginsPredicate ts) :
    Reads .operand ts (predicate (items ts)) := by
  intro fuel rest hfuel hrest
  obtain ⟨w, more, hitems, hnot, hexists⟩ := hb
  have hchunk := chunk_append h.whole hrest
  have hword (v : String) (hv : Item.isWord v (.lexeme (.word w)) = false) :
      word? v (.lexeme (.word w) :: (more ++ rest)) = none := by
    rw [word?, take?_cons rfl, hv]
    rfl
  have hmark : mark? '(' (.lexeme (.word w) :: (more ++ rest)) = none := take?_cons rfl _ _
  rw [hitems] at hfuel hchunk ⊢
  cases fuel with
  | zero => simp at hfuel
  | succ fuel =>
    rw [List.cons_append] at hchunk ⊢
    simp only [expression, hword _ hnot, hword _ hexists, hmark,
      skip_cons (i := .lexeme (.word w)) rfl, hchunk]

theorem items_parenthesized (ts : List Token) (rest : List Item) :
    items (parenthesized ts) ++ rest =
      (Token.symbol .opening).items ++ (items ts ++ ((Token.symbol .closing).items ++ rest)) := by
  simp [parenthesized]

theorem reads_parenthesized {ts : List Token} {e : Expr} (h : Reads .disjunction ts e) :
    Reads .operand (parenthesized ts) e := by
  intro fuel rest hfuel _
  have hlength : (items (parenthesized ts)).length = (items ts).length + 2 := by
    simp [parenthesized, Token.items, Token.lexemes, Symbol.text]
  rw [hlength] at hfuel
  cases fuel with
  | zero => omega
  | succ fuel =>
    have hnot (xs : List Item) : word? "NOT" ((Token.symbol .opening).items ++ xs) = none := rfl
    have hexists (xs : List Item) : word? "EXISTS" ((Token.symbol .opening).items ++ xs) =
      none := rfl
    have hinner := h fuel ((Token.symbol .closing).items ++ rest)
      (by simp only [Level.rank] at hfuel ⊢; omega) (endsAt_closing .disjunction rest)
    rw [items_parenthesized]
    simp only [expression, hnot, hexists, mark?_opening, hinner, mark?_closing, Option.bind_eq_bind,
      Option.bind_some, Option.pure_def]

theorem reads_not {ts : List Token} {e : Expr} (h : Reads .operand ts e) :
    Reads .operand (spaced [[.keyword .NOT], ts]) (.not e) := by
  intro fuel rest hfuel hrest
  have hitems : items (spaced [[.keyword .NOT], ts]) ++ rest =
      (Token.keyword .NOT).items ++ (Token.blank.items ++ (items ts ++ rest)) := by
    simp [spaced, separated]
  have hlength : (items (spaced [[.keyword .NOT], ts])).length = (items ts).length + 2 := by
    simp [spaced, separated, Token.items, Token.lexemes]
  rw [hlength] at hfuel
  cases fuel with
  | zero => omega
  | succ fuel =>
    have hword (xs : List Item) : word? "NOT" ((Token.keyword .NOT).items ++ xs) = some xs :=
      word?_keyword .NOT xs
    have hinner := h fuel rest (by simp only [Level.rank] at hfuel ⊢; omega) hrest
    rw [hitems]
    simp only [expression, hword, expression_blank, hinner, Option.map_some]

/-- The level at which operands of a connective stand and the one at which they make an
expression. -/
structure Joins (k : Keyword) (inner outer : Level) (join : Expr → Expr → Expr) : Prop where
  step : ∀ fuel xs, expression (fuel + 1) outer xs =
    (expression fuel inner xs).bind fun p =>
      match word? k.text p.2 with
      | none => some p
      | some rest => (expression fuel outer rest).map fun q => (join p.1 q.1, q.2)
  rank : outer.rank = inner.rank + 1
  ends : ∀ i, inner.ends i = (i.isWord k.text || outer.ends i)
  other : ∀ i, outer.ends i = true → i.isWord k.text = false

theorem isWord_ne {v w : String} (h : v ≠ w) {i : Item} (hv : i.isWord v = true) :
    i.isWord w = false := by
  cases i with
  | bound v => rfl
  | lexeme l =>
    cases l with
    | quoted d s => rfl
    | mark c => rfl
    | word s =>
      simp only [Item.isWord, beq_iff_eq, beq_eq_false_iff_ne] at hv ⊢
      rw [hv]
      exact fun hw => h (String.toList_inj.mp hw)

theorem isWord_of_isMark {c : Char} {w : String} {i : Item} (h : i.isMark c = true) :
    i.isWord w = false := by
  cases i with
  | bound v => rfl
  | lexeme l => cases l <;> first | rfl | simp [Item.isMark] at h

theorem joins_and : Joins .AND .operand .conjunction .and where
  step := fun fuel xs => rfl
  rank := rfl
  ends := fun i => by simp [Level.ends, Keyword.text, Bool.or_assoc]
  other := fun i h => by
    simp only [Level.ends, Bool.or_eq_true] at h
    exact h.elim (isWord_ne (by decide)) isWord_of_isMark

theorem joins_or : Joins .OR .conjunction .disjunction .or where
  step := fun fuel xs => rfl
  rank := rfl
  ends := fun i => by simp [Level.ends, Keyword.text]
  other := fun i h => isWord_of_isMark h

/-- Expressions with a connective between each two of them. -/
def Expr.joined (join : Expr → Expr → Expr) : List Expr → Expr
  | [] => .constant true
  | [e] => e
  | e :: f :: rest => join e (joined join (f :: rest))

/-- Operands with the word of their connective between them are read as joined by it. -/
theorem reads_separated {α : Type} {k : Keyword} {inner outer : Level} {join : Expr → Expr → Expr}
    (hj : Joins k inner outer join) {f : α → List Token} {g : α → Expr} {xs : List α}
    (hne : xs ≠ []) (h : ∀ x ∈ xs, Reads inner (f x) (g x)) :
    Reads outer (separated [.blank, .keyword k, .blank] (xs.map f))
      (Expr.joined join (xs.map g)) := by
  induction xs with
  | nil => exact absurd rfl hne
  | cons x rest ih =>
    simp only [List.mem_cons, forall_eq_or_imp] at h
    intro fuel behind hfuel hbehind
    have hrank := hj.rank
    cases fuel with
    | zero => omega
    | succ fuel =>
      rw [hj.step]
      cases rest with
      | nil =>
        have hends : endsAt inner.ends behind = true :=
          endsAt_mono (fun i hi => by simp [hj.ends, hi]) hbehind
        simp only [List.map_cons, List.map_nil, separated, Expr.joined] at hfuel ⊢
        rw [h.1 fuel behind (by omega) hends, Option.bind_some]
        simp only [word?, take?_none hj.other hbehind]
      | cons y rest =>
        have hmore := ih (List.cons_ne_nil y rest) h.2
        simp only [List.map_cons, Expr.joined] at hfuel hmore ⊢
        generalize hm : separated [.blank, .keyword k, .blank] (f y :: rest.map f) = more at hmore
        have hitems : items (separated [.blank, .keyword k, .blank] (f x :: f y :: rest.map f)) ++
            behind = items (f x) ++ (Token.blank.items ++ ((Token.keyword k).items ++
              (Token.blank.items ++ (items more ++ behind)))) := by
          simp [separated, ← hm]
        have hlength : (items (separated [.blank, .keyword k, .blank]
            (f x :: f y :: rest.map f))).length = (items (f x)).length +
              (items more).length + 3 := by
          simp [separated, ← hm, Token.items, Token.lexemes]
          omega
        have hends : endsAt inner.ends (Token.blank.items ++ ((Token.keyword k).items ++
            (Token.blank.items ++ (items more ++ behind)))) = true := by
          rw [endsAt_blank]
          exact (endsAt_cons rfl _ _).trans (by rw [hj.ends, isWord_keyword, Bool.true_or])
        rw [hlength] at hfuel
        rw [hitems, h.1 fuel _ (by omega) hends, Option.bind_some]
        simp only [word?_blank, word?_keyword, expression_blank]
        rw [hmore fuel behind (by omega) hbehind, Option.map_some]

/-- An operand on its own is read as it is at every level. -/
theorem reads_outer {k : Keyword} {inner outer : Level} {join : Expr → Expr → Expr}
    (hj : Joins k inner outer join) {ts : List Token} {e : Expr} (h : Reads inner ts e) :
    Reads outer ts e := by
  have hone := reads_separated hj (f := fun _ : Unit => ts) (g := fun _ => e)
    (List.cons_ne_nil () []) (fun _ _ => h)
  exact hone

theorem reads_disjunction {ts : List Token} {e : Expr} (h : Reads .operand ts e) :
    Reads .disjunction ts e :=
  reads_outer joins_or (reads_outer joins_and h)

example : parse ⟨"NOT a = ? OR 1=0 AND (b OR c)", [.integer 7]⟩ =
    some (.or (.not (.atom "a = ?" [.integer 7]))
      (.and (.constant false) (.or (.atom "b" []) (.atom "c" [])))) := by
  rfl

/-- The tokens that say that some element of a table meets a condition. -/
def someTokens (table : List Token) (depth : Nat) (condition : List Token) : List Token :=
  spaced [[.keyword .EXISTS],
    parenthesized (spaced [[.keyword .SELECT], [.number 1], [.keyword .FROM],
    table, [.keyword .AS], [.element depth], [.keyword .WHERE], condition])]

theorem items_someTokens (table : List Token) (depth : Nat) (condition : List Token)
    (rest : List Item) :
    items (someTokens table depth condition) ++ rest =
      (Token.keyword .EXISTS).items ++ (Token.blank.items ++ ((Token.symbol .opening).items ++
      ((Token.keyword .SELECT).items ++ (Token.blank.items ++ ((Token.number 1).items ++
      (Token.blank.items ++ ((Token.keyword .FROM).items ++ (Token.blank.items ++ (items table ++
      (Token.blank.items ++ ((Token.keyword .AS).items ++ (Token.blank.items ++
      ((Token.element depth).items ++ (Token.blank.items ++ ((Token.keyword .WHERE).items ++
      (Token.blank.items ++ (items condition ++
      ((Token.symbol .closing).items ++ rest)))))))))))))))))) := by
  simp [someTokens, spaced, separated, parenthesized]

theorem word?_number_one (rest : List Item) :
    word? "1" ((Token.number 1).items ++ rest) = some rest := by
  have hw : Item.isWord "1" (.lexeme (.word (Token.number 1).chars)) = true := by decide
  exact (take?_cons rfl _ rest).trans (if_pos hw)

theorem name?_element (depth : Nat) (rest : List Item) :
    name? ((Token.element depth).items ++ rest) = some (elementAlias depth, rest) := by
  have h : name? ((Token.element depth).items ++ rest) =
      some (String.ofList (elementAlias depth).toList, rest) := rfl
  rw [h, String.ofList_toList]

theorem name?_blank (rest : List Item) : name? (Token.blank.items ++ rest) = name? rest := by
  rw [name?, name?, skip_blank]

theorem reads_some {table condition : List Token} {depth : Nat} {e : Expr}
    (ht : Inert (Item.isWord "AS") table) (hw : ∃ w more, items table = .lexeme (.word w) :: more)
    (hc : Reads .disjunction condition e) :
    Reads .operand (someTokens table depth condition)
      (.some (text table) ((params table).map Param.value) (elementAlias depth) e) := by
  intro fuel rest hfuel _
  have hlength :
      (items condition).length + 2 < (items (someTokens table depth condition)).length := by
    have hblank : Token.blank.items.length = 1 := rfl
    rw [← List.append_nil (items (someTokens table depth condition)), items_someTokens]
    simp only [List.length_append, hblank]
    omega
  cases fuel with
  | zero => omega
  | succ fuel =>
    have hnot (xs : List Item) : word? "NOT" ((Token.keyword .EXISTS).items ++ xs) = none := by
      have h : Item.isWord "NOT" (.lexeme (.word (Token.keyword .EXISTS).chars)) = false := by
        decide
      exact (take?_cons rfl _ xs).trans (by rw [h]; rfl)
    have hskip (xs : List Item) : skip (items table ++ xs) = items table ++ xs := by
      obtain ⟨w, more, hw⟩ := hw
      rw [hw]
      exact skip_cons rfl _
    have htable (xs : List Item) : chunk (Item.isWord "AS") 0
        (items table ++ (Token.blank.items ++ ((Token.keyword .AS).items ++ xs))) =
        (items table, Token.blank.items ++ ((Token.keyword .AS).items ++ xs)) := by
      refine chunk_append ht.whole ?_
      rw [endsAt_blank]
      exact (endsAt_cons rfl _ _).trans (isWord_keyword .AS)
    have hcondition := hc fuel ((Token.symbol .closing).items ++ rest)
      (by simp only [Level.rank] at hfuel ⊢; omega) (endsAt_closing .disjunction rest)
    have hexists := word?_keyword .EXISTS
    have hselect := word?_keyword .SELECT
    have hfrom := word?_keyword .FROM
    have has := word?_keyword .AS
    have hwhere := word?_keyword .WHERE
    simp only [Keyword.text] at hexists hselect hfrom has hwhere
    rw [items_someTokens]
    simp only [expression, hnot, hexists, mark?_blank, mark?_opening, hselect, word?_blank,
      word?_number_one, hfrom, skip_blank, hskip, htable, has, name?_blank, name?_element, hwhere,
      expression_blank, hcondition, mark?_closing, itemsText_items, itemsValues_items,
      Option.bind_eq_bind, Option.bind_some, Option.pure_def]

end DocumentQuery.Sql
