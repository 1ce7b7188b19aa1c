import DocumentQuery.Proofs.Filter.Tokens
import DocumentQuery.Proofs.Sql.Parameters
import DocumentQuery.Select

/-!
# Whole queries as tokens

A query is put together from texts. Here it is one list of tokens, its clauses with blanks between
them, and the text and the values of the query are those of these tokens.
-/

namespace DocumentQuery

open Sql (Token Tidy Statement Param Keyword)

theorem Sql.separated_cons (sep piece : List Token) (rest : List (List Token)) :
    separated sep (piece :: rest) = piece ++ rest.flatMap fun c => sep ++ c := by
  induction rest generalizing piece with
  | nil => simp [separated]
  | cons c rest ih =>
    rw [separated, ih, List.flatMap_cons]
    simp only [List.append_assoc]

theorem Sql.chars_separated_cons (sep piece : List Token) (rest : List (List Token)) :
    chars (separated sep (piece :: rest)) = chars piece ++ rest.flatMap fun c =>
      chars sep ++ chars c := by
  simp only [separated_cons, chars, List.flatMap_append, List.flatMap_assoc]

theorem Sql.text_separated (sep : List Token) (pieces : List (List Token)) :
    text (separated sep pieces) = String.intercalate (text sep) (pieces.map text) := by
  induction pieces with
  | nil => rfl
  | cons piece rest ih =>
    cases rest with
    | nil => simp [separated]
    | cons next rest =>
      rw [List.map_cons] at ih
      rw [separated, List.map_cons, List.map_cons, String.intercalate_cons_cons, text_append,
        text_append, ih]

namespace Options

/-- The parameter of a count that fits a signed integer. -/
def countParam (count : UInt64) : Param := ⟨.paging, .integer (Int64.ofInt count.toNat)⟩

def countClause (word : Keyword) (count : UInt64) : List Token :=
  Sql.spaced [[.keyword word], [.param (countParam count)]]

theorem pagingClause_ok {option : PagingOption} {word : Keyword} {count : Option UInt64}
    {cs : List (List Token)} (h : pagingClause option word count = .ok cs) :
    cs = count.toList.map (countClause word) ∧ ∀ n ∈ count, n.toNat < 0x8000000000000000 := by
  cases count with
  | none =>
    simp only [pagingClause, Except.ok.injEq] at h
    exact ⟨h.symm, by simp⟩
  | some n =>
    by_cases hn : n.toNat < 0x8000000000000000
    · simp only [pagingClause, pagingParam, if_pos hn, Except.map, Except.ok.injEq] at h
      exact ⟨h.symm, by simpa using hn⟩
    · simp only [pagingClause, pagingParam, if_neg hn, Except.map, reduceCtorEq] at h

theorem pagingClause_of_lt (option : PagingOption) (word : Keyword) {count : Option UInt64}
    (h : ∀ n ∈ count, n.toNat < 0x8000000000000000) :
    ∃ cs, pagingClause option word count = .ok cs := by
  cases count with
  | none => exact ⟨_, rfl⟩
  | some n =>
    rw [pagingClause, pagingParam, if_pos (h n rfl)]
    exact ⟨_, rfl⟩

/-- The clauses are the order, the limit and the skip, each of them if there is one. -/
theorem clauses_ok {s : Schema} {o : Options} {cs : List (List Token)} (h : o.clauses s = .ok cs) :
    cs = orderClause s o.sort ++ o.limit.toList.map (countClause .LIMIT) ++
      o.skip.toList.map (countClause .OFFSET) ∧
    ∀ n ∈ o.limit.toList ++ o.skip.toList, n.toNat < 0x8000000000000000 := by
  unfold clauses at h
  cases hl : pagingClause .limit .LIMIT o.limit with
  | error e => simp [hl] at h
  | ok limit =>
    cases hk : pagingClause .skip .OFFSET o.skip with
    | error e => simp [hl, hk, Except.map] at h
    | ok skip =>
      simp only [hl, hk, Except.map, Except.ok.injEq] at h
      obtain ⟨rfl, hln⟩ := pagingClause_ok hl
      obtain ⟨rfl, hkn⟩ := pagingClause_ok hk
      refine ⟨h.symm, fun n hn => ?_⟩
      rw [List.mem_append, Option.mem_toList, Option.mem_toList] at hn
      exact hn.elim (hln n) (hkn n)

theorem exists_keyword_of_mem_clauses {s : Schema} {o : Options} {cs : List (List Token)}
    (h : o.clauses s = .ok cs) {c : List Token} (hc : c ∈ cs) :
    ∃ k rest, c = .keyword k :: rest := by
  obtain ⟨rfl, -⟩ := clauses_ok h
  simp only [List.mem_append, List.mem_map] at hc
  rcases hc with (hc | ⟨n, -, rfl⟩) | ⟨n, -, rfl⟩
  · cases ho : o.sort with
    | nil => simp [orderClause, ho] at hc
    | cons k rest =>
      simp only [orderClause, ho, List.mem_singleton] at hc
      exact ⟨.ORDER, _, hc⟩
  · exact ⟨.LIMIT, _, rfl⟩
  · exact ⟨.OFFSET, _, rfl⟩

theorem params_orderClause (s : Schema) (keys : List SortKey) :
    (orderClause s keys).flatMap Sql.params = [] := by
  cases keys with
  | nil => rfl
  | cons k rest =>
    have hk : ∀ k : SortKey, Sql.params (sortTokens s k) = [] := fun k => by
      simp [sortTokens, Sql.params_spaced, Reference.params_value, Token.param?]
    have hcomma : Sql.params [.symbol .comma, .blank] = [] := rfl
    simp only [orderClause, Sql.listed, List.flatMap_cons, List.flatMap_nil, Sql.params_spaced,
      Sql.params_separated hcomma, List.flatMap_map, hk]
    simp [Token.param?]

theorem params_clauses {s : Schema} {o : Options} {cs : List (List Token)}
    (h : o.clauses s = .ok cs) :
    cs.flatMap Sql.params = (o.limit.toList ++ o.skip.toList).map countParam := by
  have hc (word : Keyword) (n : UInt64) : Sql.params (countClause word n) = [countParam n] := rfl
  obtain ⟨rfl, -⟩ := clauses_ok h
  simp only [List.flatMap_append, List.flatMap_map, hc, params_orderClause, List.nil_append,
    List.map_append, ← List.map_eq_flatMap]

theorem params_projectionTokens (s : Schema) (o : Options) :
    Sql.params (o.projectionTokens s) = [] := by
  unfold projectionTokens
  split
  · rfl
  · rfl
  · rw [Sql.call, Sql.params_cons, Sql.params_parenthesized, Sql.listed,
      Sql.params_separated rfl, List.flatMap_assoc]
    simp [Reference.params_value, Token.param?]

end Options

namespace Schema

/-- The clauses of the query for the documents that a filter wants. -/
def selectClauses (s : Schema) (table : String) (f : Filter) (o : Options) :
    Except CompileError (List (List Token)) :=
  match f.tokens s with
  | .error e => .error e
  | .ok condition =>
    (o.clauses s).map ([[.keyword .SELECT], o.projectionTokens s, [.keyword .FROM],
      [.identifier table], [.keyword .WHERE], condition] ++ ·)

def selectTokens (s : Schema) (table : String) (f : Filter) (o : Options) :
    Except CompileError (List Token) :=
  (s.selectClauses table f o).map Sql.spaced

theorem selectTokens_ok {s : Schema} {table : String} {f : Filter} {o : Options} {ts : List Token}
    (h : s.selectTokens table f o = .ok ts) :
    ∃ c cs, f.condition s .document = .ok c ∧ o.clauses s = .ok cs ∧
      ts = Sql.spaced ([[.keyword .SELECT], o.projectionTokens s, [.keyword .FROM],
        [.identifier table], [.keyword .WHERE], c.tokens] ++ cs) := by
  unfold selectTokens selectClauses Filter.tokens at h
  cases hc : f.condition s .document with
  | error e => simp [hc, Except.map] at h
  | ok c =>
    cases hs : o.clauses s with
    | error e => simp [hc, hs, Except.map] at h
    | ok cs =>
      simp only [hc, hs, Except.map, Except.ok.injEq] at h
      exact ⟨c, cs, rfl, rfl, h.symm⟩

/-- The clauses of the options follow the condition after a blank each. -/
theorem toList_tail {cs : List (List Token)} (hcs : ∀ c ∈ cs, ∃ k rest, c = .keyword k :: rest) :
    (if (Statement.ofTokens (Sql.spaced cs)).isEmpty then ""
      else " " ++ (Statement.ofTokens (Sql.spaced cs)).sql).toList =
      cs.flatMap fun c => ' ' :: Sql.chars c := by
  cases cs with
  | nil => rfl
  | cons c rest =>
    obtain ⟨k, more, rfl⟩ := hcs c List.mem_cons_self
    have hne : Sql.chars (Sql.spaced ((.keyword k :: more) :: rest)) ≠ [] := by
      have hk : (Token.keyword k).chars ≠ [] := Token.chars_ne_nil rfl rfl
      rw [Sql.spaced, Sql.chars_separated_cons, Sql.chars_cons]
      simp [hk]
    rw [if_neg (by simpa [Statement.isEmpty, Statement.ofTokens, Sql.text] using hne)]
    simp [Statement.ofTokens, Sql.text, Sql.spaced, Sql.chars_separated_cons, Token.chars]

/-- The text of a query, which is put together from texts, is that of its tokens. -/
theorem text_select (proj condition : List Token) (table : String) {cs : List (List Token)}
    (hcs : ∀ c ∈ cs, ∃ k rest, c = .keyword k :: rest) :
    "SELECT " ++ Sql.text proj ++ " FROM " ++ Sql.quotedIdentifier table ++ " WHERE " ++
        Sql.text condition ++
        (if (Statement.ofTokens (Sql.spaced cs)).isEmpty then ""
          else " " ++ (Statement.ofTokens (Sql.spaced cs)).sql) =
      Sql.text (Sql.spaced ([[.keyword .SELECT], proj, [.keyword .FROM], [.identifier table],
        [.keyword .WHERE], condition] ++ cs)) := by
  apply String.toList_inj.mp
  rw [String.toList_append, toList_tail hcs]
  simp only [String.toList_append, Sql.text, String.toList_ofList, Sql.spaced,
    List.cons_append, List.nil_append, Sql.chars_separated_cons, List.flatMap_cons, Sql.chars_cons,
    Sql.chars_nil, Token.chars, Sql.quotedIdentifier, Keyword.text]
  simp

/-- A query is the statement of its tokens, or fails as they do. -/
theorem compileSelect_eq (s : Schema) (table : String) (f : Filter) (o : Options) :
    s.compileSelect table f o = (s.selectTokens table f o).map Statement.ofTokens := by
  unfold compileSelect selectTokens selectClauses Filter.compile
  cases f.tokens s with
  | error e => rfl
  | ok condition =>
    simp only [Except.map, assembleSelect, Options.compile, Options.tokens]
    cases hs : o.clauses s with
    | error e => rfl
    | ok cs =>
      have htext := text_select (o.projectionTokens s) condition table
        fun c hc => Options.exists_keyword_of_mem_clauses hs hc
      simp only [Except.ok.injEq]
      refine congrArg₂ Statement.mk htext ?_
      simp only [Statement.ofTokens, Sql.params_spaced, ← List.map_append]
      simp [Options.params_projectionTokens, Token.param?]

theorem compileSelect_ok {s : Schema} {table : String} {f : Filter} {o : Options} {q : Statement}
    (h : s.compileSelect table f o = .ok q) :
    ∃ ts, s.selectTokens table f o = .ok ts ∧ q = Statement.ofTokens ts := by
  rw [compileSelect_eq] at h
  cases hts : s.selectTokens table f o with
  | error e => simp [hts, Except.map] at h
  | ok ts =>
    simp only [hts, Except.map, Except.ok.injEq] at h
    exact ⟨ts, rfl, h.symm⟩

/-- The values of a query are those of its condition, then the limit and the skip. -/
theorem params_selectTokens {s : Schema} {table : String} {f : Filter} {o : Options}
    {ts : List Token} (h : s.selectTokens table f o = .ok ts) :
    ∃ c, f.condition s .document = .ok c ∧
      Sql.params ts = c.params ++ (o.limit.toList ++ o.skip.toList).map Options.countParam := by
  obtain ⟨c, cs, hc, hcs, rfl⟩ := selectTokens_ok h
  refine ⟨c, hc, ?_⟩
  rw [← Options.params_clauses hcs, Sql.params_spaced, List.flatMap_append]
  simp [Options.params_projectionTokens, Sql.Condition.params_tokens, Token.param?]

section Accepted

variable {s : Schema} (hb : Sql.isPlainIdentifier s.bodyColumn.toList = true)
include hb

theorem tidy_resolve (field : String) : Tidy (s.resolve field).value :=
  Reference.tidy_value (s.isPlain_resolveIn hb .document field)

theorem tidy_projectionTokens (o : Options) : Tidy (o.projectionTokens s) := by
  unfold Options.projectionTokens
  split
  · exact .single hb
  · exact .single hb
  · refine .call fun a ha => ?_
    simp only [List.mem_flatMap, List.mem_cons, List.not_mem_nil, or_false] at ha
    obtain ⟨field, -, rfl | rfl⟩ := ha
    · exact .single rfl
    · exact tidy_resolve hb field

theorem tidy_clauses {o : Options} {cs : List (List Token)} (h : o.clauses s = .ok cs) :
    ∀ c ∈ cs, Tidy c := by
  have hw (k : Keyword) : Tidy [.keyword k] := .single rfl
  have hcount (k : Keyword) (n : UInt64) : Tidy (Options.countClause k n) :=
    .spaced (by simpa using ⟨hw k, .single rfl⟩)
  have hsort (k : SortKey) : Tidy (Options.sortTokens s k) :=
    .spaced (by simpa using ⟨tidy_resolve hb k.field, hw k.direction.keyword⟩)
  obtain ⟨rfl, -⟩ := Options.clauses_ok h
  intro c hc
  simp only [List.mem_append, List.mem_map] at hc
  rcases hc with (hc | ⟨n, -, rfl⟩) | ⟨n, -, rfl⟩
  · cases ho : o.sort with
    | nil => simp [Options.orderClause, ho] at hc
    | cons k rest =>
      simp only [Options.orderClause, ho, List.mem_singleton] at hc
      have hkeys : Tidy (Sql.listed ((k :: rest).map (Options.sortTokens s))) := by
        refine .listed fun piece hm => ?_
        obtain ⟨k, -, rfl⟩ := List.mem_map.mp hm
        exact hsort k
      exact hc ▸ .spaced (by simpa using ⟨hw .ORDER, hw .BY, hkeys⟩)
  · exact hcount .LIMIT n
  · exact hcount .OFFSET n

/-- The tokens of a query do not run together if the body column is a plain identifier. -/
theorem tidy_selectTokens {table : String} {f : Filter} {o : Options} {ts : List Token}
    (h : s.selectTokens table f o = .ok ts) : Tidy ts := by
  have hw (k : Keyword) : Tidy [.keyword k] := .single rfl
  have htable : Tidy [.identifier table] := .single rfl
  obtain ⟨c, cs, hc, hcs, rfl⟩ := selectTokens_ok h
  refine .spaced fun piece hm => ?_
  rcases List.mem_append.mp hm with hm | hm
  · simp only [List.mem_cons, List.not_mem_nil, or_false] at hm
    rcases hm with rfl | rfl | rfl | rfl | rfl | rfl
    · exact hw .SELECT
    · exact tidy_projectionTokens hb o
    · exact hw .FROM
    · exact htable
    · exact hw .WHERE
    · exact Sql.Condition.tidy_tokens (Filter.isPlain_condition hb hc)
  · exact tidy_clauses hb hcs piece hm

end Accepted

end Schema

end DocumentQuery
