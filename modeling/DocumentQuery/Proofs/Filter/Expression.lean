import DocumentQuery.Proofs.Filter.Tokens
import DocumentQuery.Proofs.Sql.Readable

/-!
# The expression of a condition

Every condition is read back as one expression wherever an operand may stand: under a negation,
between operands of a connective, in parentheses and as the condition of a subquery.
-/

namespace DocumentQuery

open Sql

namespace Sql

theorem isWord_underscore {w : String} (h : w.toList.head? ≠ some '_') (s : List Char) :
    Item.isWord w (.lexeme (.word ('_' :: s))) = false := by
  rw [Item.isWord, beq_eq_false_iff_ne]
  intro hw
  rw [← hw] at h
  exact h rfl

theorem ends_underscore (s : List Char) :
    Level.operand.ends (.lexeme (.word ('_' :: s))) = false := by
  rw [Level.ends, isWord_underscore (by decide), isWord_underscore (by decide)]
  rfl

theorem Inert.single {stop : Item → Bool} {t : Token} {i : Item} (ht : t.items = [i])
    (hl : i.isLevel = true) (hb : i.isBlank = false) (hs : stop i = false) : Inert stop [t] := by
  have hi : items [t] = [i] := by rw [items_cons, ht, items_nil, List.append_nil]
  refine .level (by simp [hi]) fun j hj => ?_
  rw [hi, List.mem_singleton] at hj
  exact hj ▸ ⟨hl, hb, hs⟩

/-- Whether the word joins conditions. -/
def Keyword.isConnective : Keyword → Bool
  | .AND => true
  | .OR => true
  | _ => false

theorem inert_keyword {k : Keyword} (h : k.isConnective = false) :
    Inert Level.operand.ends [.keyword k] := by
  refine .single rfl rfl rfl ?_
  cases k <;> first | exact absurd h (by decide) | decide

theorem inert_param (p : Param) : Inert Level.operand.ends [.param p] := .single rfl rfl rfl rfl

theorem inert_comparison (c : Comparison) :
    Inert Level.operand.ends [.symbol (comparisonSymbol c)] := by
  refine .level (by cases c <;> exact List.cons_ne_nil _ _) ?_
  cases c <;> decide

theorem inert_placeholders (ps : List Param) :
    Inert Level.operand.ends (parenthesized (placeholders ps)) := by
  refine .parenthesized (fun t ht => ?_) rfl
  rcases mem_separated ht with ht | ⟨piece, hp, ht⟩
  · simp only [List.mem_cons, List.not_mem_nil, or_false] at ht
    rcases ht with rfl | rfl <;> rfl
  · obtain ⟨p, -, rfl⟩ := List.mem_map.mp hp
    rw [List.mem_singleton.mp ht]
    rfl

theorem function_isWord (f : Function) :
    Level.operand.ends (.lexeme (.word f.text.toList)) = false ∧
    Item.isWord "NOT" (.lexeme (.word f.text.toList)) = false ∧
    Item.isWord "EXISTS" (.lexeme (.word f.text.toList)) = false ∧
    Item.isWord "AS" (.lexeme (.word f.text.toList)) = false := by
  cases f <;> decide

end Sql

namespace Reference

theorem inert_elementColumn (depth : Nat) (c : ElementColumn) :
    Inert Level.operand.ends [.element depth, .symbol .dot, .elementColumn c] := by
  have he : Inert Level.operand.ends [.element depth] := by
    refine .single rfl rfl rfl ?_
    rw [Token.chars, elementAlias_toList]
    exact ends_underscore _
  have hd : Inert Level.operand.ends [.symbol .dot] := .single rfl rfl (by decide) rfl
  have hc : Inert Level.operand.ends [.elementColumn c] :=
    .single rfl rfl rfl (by cases c <;> decide)
  exact he.append (hd.append hc)

theorem inert_callOn_of (r : Reference) {f : Function} {stop : Item → Bool}
    (hf : stop (.lexeme (.word f.text.toList)) = false)
    (hopen : stop (.lexeme (.mark '(')) = false) :
    Inert stop (r.callOn f) := by
  have helement (depth : Nat) : ∀ t ∈ elementValue depth, t.isLevel = true := by
    simp [elementValue, Token.isLevel]
  rcases r with ⟨name, body, path⟩ | ⟨body | depth, path⟩ | depth
  · exact .call (by simp [Token.isLevel]) hf hopen
  · exact .call (by simp [Source.tokens, Token.isLevel]) hf hopen
  · exact .call (by simpa [Source.tokens, Token.isLevel] using helement depth) hf hopen
  · exact .call (by simpa using helement depth) hf hopen

theorem inert_callOn (r : Reference) (f : Function) : Inert Level.operand.ends (r.callOn f) :=
  r.inert_callOn_of (function_isWord f).1 rfl

theorem inert_each (r : Reference) : Inert (Item.isWord "AS") r.each :=
  r.inert_callOn_of (function_isWord .each).2.2.2 rfl

theorem inert_value {r : Reference} (h : r.isPlain = true) : Inert Level.operand.ends r.value := by
  match r with
  | .column name body path =>
    simp only [isPlain, Bool.and_eq_true] at h
    obtain ⟨rest, hn⟩ := cons_of_isColumnName h.1
    refine .single rfl rfl rfl ?_
    rw [Token.chars, hn]
    exact ends_underscore rest
  | .extract source path => exact inert_callOn (.extract source path) _
  | .element depth => exact inert_elementColumn depth .value

theorem inert_typeOf (r : Reference) : Inert Level.operand.ends r.typeOf := by
  match r with
  | .column name body path => exact inert_callOn (.column name body path) _
  | .extract source path => exact inert_callOn (.extract source path) _
  | .element depth => exact inert_elementColumn depth .type

theorem begins_callOn (r : Reference) (f : Function) : BeginsPredicate (r.callOn f) := by
  obtain ⟨-, hnot, hexists, -⟩ := function_isWord f
  rcases r with ⟨name, body, path⟩ | ⟨source, path⟩ | depth
  all_goals exact ⟨_, _, rfl, hnot, hexists⟩

theorem begins_element (depth : Nat) (ts : List Token) :
    BeginsPredicate (.element depth :: ts) := by
  refine ⟨_, items ts, rfl, ?_, ?_⟩
  all_goals
    rw [Token.chars, elementAlias_toList]
    exact isWord_underscore (by decide) _

theorem begins_value {r : Reference} (h : r.isPlain = true) : BeginsPredicate r.value := by
  match r with
  | .column name body path =>
    simp only [isPlain, Bool.and_eq_true] at h
    obtain ⟨rest, hn⟩ := cons_of_isColumnName h.1
    refine ⟨_, [], rfl, ?_, ?_⟩
    all_goals
      rw [Token.chars, hn]
      exact isWord_underscore (by decide) rest
  | .extract source path => exact begins_callOn (.extract source path) _
  | .element depth => exact begins_element depth _

theorem begins_typeOf (r : Reference) : BeginsPredicate r.typeOf := by
  match r with
  | .column name body path => exact begins_callOn (.column name body path) _
  | .extract source path => exact begins_callOn (.extract source path) _
  | .element depth => exact begins_element depth _

end Reference

namespace Sql

theorem BeginsPredicate.spaced {piece : List Token} (h : BeginsPredicate piece)
    (pieces : List (List Token)) : BeginsPredicate (spaced (piece :: pieces)) := by
  cases pieces with
  | nil => exact h
  | cons next rest =>
    obtain ⟨w, more, hitems, hw⟩ := h
    refine ⟨w, more ++ items ([.blank] ++ Sql.spaced (next :: rest)), ?_, hw⟩
    rw [Sql.spaced, separated, List.append_assoc, items_append, hitems, List.cons_append]
    rfl

theorem constant?_of_blank {xs : List Item} (h : .lexeme (.mark ' ') ∈ xs) :
    constant? xs = none := by
  unfold constant?
  split
  · simp at h
  · rfl

theorem reads_truthTokens (truth : Bool) :
    Reads .operand (truthTokens truth) (.constant truth) := by
  have hi : Inert Level.operand.ends (truthTokens truth) := by
    refine .level (by cases truth <;> exact List.cons_ne_nil _ _) ?_
    cases truth <;> decide
  have hb : BeginsPredicate (truthTokens truth) := by
    cases truth <;> exact ⟨_, _, rfl, by decide, by decide⟩
  have h := reads_predicate hi hb
  cases truth <;> exact h

namespace Condition

mutual

/-- The expression that the tokens of a condition are. -/
def expr : Condition → Expr
  | .constant truth => .constant truth
  | .someElement r depth inner => .some (text r.each) [] (elementAlias depth) inner.expr
  | .all operands => Expr.joined .and (exprs operands)
  | .any operands => Expr.joined .or (exprs operands)
  | .none [] => .constant true
  | .none operands => .not (Expr.joined .or (exprs operands))
  | .not operand => .not operand.expr
  | c => .atom (text c.tokens) (c.params.map Param.value)

def exprs : List Condition → List Expr
  | [] => []
  | c :: rest => c.expr :: exprs rest

end

theorem exprs_eq_map (cs : List Condition) : exprs cs = cs.map expr := by
  induction cs with
  | nil => rfl
  | cons c rest ih => rw [exprs, ih, List.map_cons]

/-- Operands in parentheses with a word between them, one alone as it is. -/
theorem reads_joined {k : Keyword} {join : Expr → Expr → Expr} {cs : List Condition}
    (h : ∀ c ∈ cs, Reads .operand c.tokens c.expr)
    (hsep : cs ≠ [] → Reads .disjunction (separated [.blank, .keyword k, .blank] (cs.map tokens))
      (Expr.joined join (cs.map expr))) :
    Reads .operand (joined k (cs.map tokens)) (Expr.joined join (cs.map expr)) := by
  match cs with
  | [] => exact reads_truthTokens true
  | [c] => exact h c (List.mem_singleton_self c)
  | c :: d :: rest => exact reads_parenthesized (hsep (List.cons_ne_nil _ _))

theorem reads_or {cs : List Condition} (hne : cs ≠ [])
    (h : ∀ c ∈ cs, Reads .operand c.tokens c.expr) :
    Reads .disjunction (separated [.blank, .keyword .OR, .blank] (cs.map tokens))
      (Expr.joined .or (cs.map expr)) :=
  reads_separated joins_or hne fun c hc => reads_outer joins_and (h c hc)

theorem reads_atom {c : Condition} {piece next : List Token} {rest : List (List Token)}
    (ht : c.tokens = spaced (piece :: next :: rest))
    (he : c.expr = .atom (text c.tokens) (c.params.map Param.value))
    (hi : ∀ p ∈ piece :: next :: rest, Inert Level.operand.ends p) (hb : BeginsPredicate piece) :
    Reads .operand c.tokens c.expr := by
  have hblank : .lexeme (.mark ' ') ∈ items (spaced (piece :: next :: rest)) := by
    simp [spaced, separated, Token.items, Token.lexemes]
  have h := reads_predicate (Inert.spaced (List.cons_ne_nil _ _) hi) (hb.spaced (next :: rest))
  rw [predicate, constant?_of_blank hblank, itemsText_items, itemsValues_items] at h
  rw [he, ← params_tokens, ht]
  exact h

mutual

/-- A condition is read as its expression wherever an operand may stand. -/
theorem reads_tokens {c : Condition} (h : c.isPlain = true) : Reads .operand c.tokens c.expr := by
  match c with
  | .constant truth => exact reads_truthTokens truth
  | .compare r cmp p =>
    refine reads_atom rfl rfl ?_ (Reference.begins_value h)
    simpa using ⟨Reference.inert_value h, inert_comparison cmp, inert_param p⟩
  | .among r true ps =>
    refine reads_atom rfl rfl ?_ (Reference.begins_value h)
    have hin : Inert Level.operand.ends (spaced [[.keyword .NOT], [.keyword .IN]]) :=
      .spaced (List.cons_ne_nil _ _)
        (by simpa using ⟨inert_keyword rfl, inert_keyword rfl⟩)
    simpa using ⟨Reference.inert_value h, hin, inert_placeholders ps⟩
  | .among r false ps =>
    refine reads_atom rfl rfl ?_ (Reference.begins_value h)
    have hin : Inert Level.operand.ends [.keyword .IN] := inert_keyword rfl
    simpa using ⟨Reference.inert_value h, hin, inert_placeholders ps⟩
  | .like r p true =>
    refine reads_atom rfl rfl ?_ (Reference.begins_value h)
    have hlike : Inert Level.operand.ends [.keyword .LIKE] := inert_keyword rfl
    have hcollate : Inert Level.operand.ends [.keyword .COLLATE] := inert_keyword rfl
    have hnocase : Inert Level.operand.ends [.keyword .NOCASE] := inert_keyword rfl
    simpa using ⟨Reference.inert_value h, hlike, inert_param p, hcollate, hnocase⟩
  | .like r p false =>
    refine reads_atom rfl rfl ?_ (Reference.begins_value h)
    have hlike : Inert Level.operand.ends [.keyword .LIKE] := inert_keyword rfl
    simpa using ⟨Reference.inert_value h, hlike, inert_param p⟩
  | .lengthIs r p =>
    refine reads_atom rfl rfl ?_ (r.begins_callOn .arrayLength)
    have hlength : Inert Level.operand.ends r.arrayLength := r.inert_callOn .arrayLength
    have hequal : Inert Level.operand.ends [.symbol .equal] := inert_comparison .eq
    simpa using ⟨hlength, hequal, inert_param p⟩
  | .present r expected =>
    have his : Inert Level.operand.ends [.keyword .IS] := inert_keyword rfl
    have hnot : Inert Level.operand.ends [.keyword .NOT] := inert_keyword rfl
    have hnull : Inert Level.operand.ends [.keyword .NULL] := inert_keyword rfl
    cases expected with
    | true =>
      refine reads_atom rfl rfl ?_ r.begins_typeOf
      simpa using ⟨r.inert_typeOf, his, hnot, hnull⟩
    | false =>
      refine reads_atom rfl rfl ?_ r.begins_typeOf
      simpa using ⟨r.inert_typeOf, his, hnull⟩
  | .all operands =>
    have hall := reads_tokensOfList h
    rw [expr, tokens, exprs_eq_map, tokensOfList_eq_map]
    refine reads_joined hall fun hne => ?_
    exact reads_outer joins_or (reads_separated joins_and hne hall)
  | .any operands =>
    have hall := reads_tokensOfList h
    rw [expr, tokens, exprs_eq_map, tokensOfList_eq_map]
    exact reads_joined hall fun hne => reads_or hne hall
  | .none [] => exact reads_truthTokens true
  | .none (c :: rest) =>
    have hall := reads_tokensOfList h
    have hne := List.cons_ne_nil c rest
    simp only [expr, tokens, exprs_eq_map, tokensOfList_eq_map]
    exact reads_not (reads_parenthesized (reads_or hne hall))
  | .not operand =>
    exact reads_not (reads_parenthesized (reads_disjunction (reads_tokens h)))
  | .someElement r depth inner =>
    simp only [isPlain, Bool.and_eq_true] at h
    obtain ⟨w, more, hw, -⟩ := r.begins_callOn .each
    have hread : Reads .operand (someTokens r.each depth inner.tokens) _ :=
      reads_some r.inert_each ⟨w, more, hw⟩ (reads_disjunction (reads_tokens h.2))
    rw [Reference.each, r.params_callOn] at hread
    exact hread

theorem reads_tokensOfList {cs : List Condition} (h : arePlain cs = true) :
    ∀ c ∈ cs, Reads .operand c.tokens c.expr := by
  match cs with
  | [] => simp
  | c :: rest =>
    simp only [arePlain, Bool.and_eq_true] at h
    simp only [List.mem_cons, forall_eq_or_imp]
    exact ⟨reads_tokens h.1, reads_tokensOfList h.2⟩

end

end Condition

end Sql

/-- The statement of a filter is parsed as the expression of its condition. -/
theorem Filter.parse_compile {d : Declaration} {s : Schema} (hs : d.build = .ok s) {f : Filter}
    {q : Statement} (hq : f.compile s = .ok q) :
    ∃ c, f.condition s .document = .ok c ∧ Sql.parse q = some c.expr := by
  unfold compile tokens at hq
  cases hc : f.condition s .document with
  | error e => simp [hc, Except.map] at hq
  | ok c =>
    simp only [hc, Except.map, Except.ok.injEq] at hq
    have hplain : c.isPlain = true := isPlain_condition (Schema.plain_bodyColumn hs) hc
    have hread := reads_disjunction (Condition.reads_tokens hplain)
      (3 * (items c.tokens).length + 2) [] (Nat.le_refl _) rfl
    rw [List.append_nil] at hread
    exact ⟨c, rfl, hq ▸ parse_ofTokens (Condition.tidy_tokens hplain) hread⟩

/-- What was computed from the statement of a filter shows that there is one. -/
theorem Filter.exists_of_compile {α : Type} {d : Declaration} {f : Filter}
    {g : Schema → Statement → α} {a : α}
    (h : d.build.toOption.bind (fun s => (f.compile s).toOption.map (g s)) = some a) :
    ∃ s q, d.build = .ok s ∧ f.compile s = .ok q ∧ g s q = a := by
  cases hs : d.build with
  | error e => simp [hs, Except.toOption] at h
  | ok s =>
    cases hq : f.compile s with
    | error e => simp [hs, hq, Except.toOption] at h
    | ok q => exact ⟨s, q, rfl, hq, by simpa [hs, hq, Except.toOption] using h⟩

end DocumentQuery
