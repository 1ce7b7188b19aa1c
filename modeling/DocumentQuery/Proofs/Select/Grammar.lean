import DocumentQuery.Proofs.Select.Rewriting
import DocumentQuery.Proofs.Sql.Grammatical

/-!
# Queries and the grammar of SELECT

A query has the clauses of a SELECT in the order of the grammar, each at most once and with
everything that belongs to it, and what stands between its words is derived from the grammar. The
offset is the exception: it is written whenever documents are to be skipped, while the grammar has
it behind a limit only. So the whole query is a SELECT exactly if no offset stands without a limit.
-/

namespace DocumentQuery

open Sql (Token Keyword Lexeme Forms Derives lex isName countWord countOffsets)

namespace Sql

theorem spaced_append {pieces : List (List Token)} (hne : pieces ≠ []) (more : List (List Token)) :
    spaced (pieces ++ more) = spaced pieces ++ more.flatMap ([.blank] ++ ·) := by
  cases pieces with
  | nil => exact absurd rfl hne
  | cons piece rest =>
    simp only [spaced, List.cons_append, separated_cons, List.flatMap_append, List.append_assoc]

end Sql

section Named

variable {s : Schema} (hb : isName s.bodyColumn.toList = true)
include hb

theorem Schema.isNamed_resolveIn (root : Root) (name : String) :
    (s.resolveIn root name).isNamed = true := by
  have hcolumn (field : String) : isName (generatedColumn field).toList = true :=
    Sql.isName_of_isColumnName (isColumnName_generatedColumn field)
  cases root with
  | element depth =>
    simp only [resolveIn, resolveElement]
    split <;> rfl
  | document =>
    rw [resolveIn]
    obtain ⟨f, hr⟩ | ⟨path, hr⟩ := s.resolve_cases name
    · have hname : isName f.column.toList = true := hcolumn f.name
      rw [hr, Reference.isNamed, hname, hb, Bool.and_self]
    · rw [hr]
      exact hb

theorem Filter.forms_condition {f : Filter} {c : Sql.Condition}
    (h : f.condition s .document = .ok c) :
    Forms [.expression] c.tokens := by
  apply c.forms_tokens
  intro r hr
  rcases references_condition h r hr with ⟨p, -, rfl⟩ | ⟨depth, rfl⟩
  · exact s.isNamed_resolveIn hb p.1 p.2
  · rfl

namespace Options

theorem forms_value (name : String) : Forms [.expression] (s.resolve name).value :=
  Reference.forms_value (s.isNamed_resolveIn hb .document name)

theorem forms_projectionTokens (o : Options) : Forms [.expression] (o.projectionTokens s) := by
  have hbody : Forms [.name] [.body s.bodyColumn] := .single (.name hb)
  unfold projectionTokens
  cases o.projection with
  | none => exact hbody.column
  | some names =>
    cases names with
    | nil => exact hbody.column
    | cons name rest =>
      have harguments : ∀ a ∈ (name :: rest).flatMap fun f => [[.string f], (s.resolve f).value],
          Forms [.expression] a := by
        intro a ha
        simp only [List.mem_flatMap, List.mem_cons, List.not_mem_nil, or_false] at ha
        obtain ⟨field, -, rfl | rfl⟩ := ha
        · exact .string field
        · exact forms_value hb field
      have hcall := Forms.call (f := .object) (by simp) harguments
      exact .of_parts hcall

theorem forms_sortTokens (k : SortKey) : Forms [.ordering] (sortTokens s k) := by
  have hvalue := forms_value hb k.field
  unfold sortTokens
  cases k.direction with
  | ascending =>
    have hparts : Forms [.expression, .keyword .ASC] _ :=
      .spaced (.cons hvalue (.cons (.keyword .ASC) .nil))
    exact hparts.of_parts
  | descending =>
    have hparts : Forms [.expression, .keyword .DESC] _ :=
      .spaced (.cons hvalue (.cons (.keyword .DESC) .nil))
    exact hparts.of_parts

theorem forms_sortKeys {keys : List SortKey} (hne : keys ≠ []) :
    Forms [.orderings] (Sql.listed (keys.map (sortTokens s))) := by
  have hkeys : ∀ piece ∈ keys.map (sortTokens s), Forms [.ordering] piece := by
    intro piece hm
    obtain ⟨k, -, rfl⟩ := List.mem_map.mp hm
    exact forms_sortTokens hb k
  exact Forms.listed (by decide) (by decide) (by simpa using hne) hkeys

end Options

end Named

theorem Options.forms_countClause (word : Keyword) (n : UInt64) :
    Forms [.keyword word, .expression] (countClause word n) :=
  .spaced (.cons (.keyword word) (.cons (.param _) .nil))

namespace Sql

/-- The lexemes of a SELECT of a result from a table under a condition, in the order of the keys if
there are any, with a limit and an offset if they are wanted. -/
def selectLexemes (table : String) (result condition : List Lexeme) (keys : Option (List Lexeme))
    (limit offset : Bool) : List Lexeme :=
  [.word "SELECT".toList, .mark ' '] ++ result ++
    [.mark ' ', .word "FROM".toList, .mark ' ', .quoted doubleQuote table.toList,
      .mark ' ', .word "WHERE".toList, .mark ' '] ++ condition ++
    (match keys with
      | none => []
      | some
          keys => [.mark ' ', .word "ORDER".toList, .mark ' ', .word "BY".toList, .mark ' '] ++
            keys) ++
    (if limit then [.mark ' ', .word "LIMIT".toList, .mark ' ', .mark '?'] else []) ++
    (if offset then [.mark ' ', .word "OFFSET".toList, .mark ' ', .mark '?'] else [])

end Sql

namespace Schema

/-- The text of a query in front of its clauses. -/
def coreTokens (s : Schema) (table : String) (condition : List Token) (o : Options) : List Token :=
  Sql.spaced [[.keyword .SELECT], o.projectionTokens s, [.keyword .FROM], [.identifier table],
    [.keyword .WHERE], condition]

/-- The keys of the order of a query, if it has an order. -/
def keyTokens? (s : Schema) (o : Options) : Option (List Token) :=
  if o.sort.isEmpty then none else some (Sql.listed (o.sort.map (Options.sortTokens s)))

theorem selectTokens_append {s : Schema} {table : String} {f : Filter} {o : Options}
    {ts : List Token} (h : s.selectTokens table f o = .ok ts) :
    ∃ c, f.condition s .document = .ok c ∧
      ts = s.coreTokens table c.tokens o ++ (Options.orderClause s o.sort).flatMap
        ([.blank] ++ ·) ++
        (o.limit.toList.map (Options.countClause .LIMIT)).flatMap ([.blank] ++ ·) ++
        (o.skip.toList.map (Options.countClause .OFFSET)).flatMap ([.blank] ++ ·) := by
  obtain ⟨c, cs, hc, hcs, rfl⟩ := selectTokens_ok h
  obtain ⟨rfl, -⟩ := Options.clauses_ok hcs
  refine ⟨c, hc, ?_⟩
  rw [Sql.spaced_append (List.cons_ne_nil _ _), coreTokens]
  simp only [List.flatMap_append, List.append_assoc]

theorem lexemes_coreTokens (s : Schema) (table : String) (condition : List Token) (o : Options) :
    (s.coreTokens table condition o).flatMap Token.lexemes =
      [.word "SELECT".toList, .mark ' '] ++ (o.projectionTokens s).flatMap Token.lexemes ++
        [.mark ' ', .word "FROM".toList, .mark ' ', .quoted Sql.doubleQuote table.toList,
          .mark ' ', .word "WHERE".toList, .mark ' '] ++ condition.flatMap Token.lexemes := by
  simp only [coreTokens, Sql.spaced, Sql.separated, List.flatMap_append, List.flatMap_cons,
    List.flatMap_nil, List.append_nil, List.append_assoc]
  rfl

theorem lexemes_orderClause (s : Schema) (o : Options) :
    ((Options.orderClause s o.sort).flatMap ([.blank] ++ ·)).flatMap Token.lexemes =
      match (s.keyTokens? o).map (List.flatMap Token.lexemes) with
      | none => []
      | some
          keys => [.mark ' ', .word "ORDER".toList, .mark ' ', .word "BY".toList, .mark ' '] ++
            keys := by
  unfold keyTokens?
  cases o.sort with
  | nil => rfl
  | cons key rest =>
    simp only [Options.orderClause, Sql.spaced, Sql.separated, List.flatMap_append,
      List.flatMap_cons, List.flatMap_nil, List.append_nil, List.append_assoc]
    rfl

theorem lexemes_countClause (word : Keyword) (count : Option UInt64) :
    ((count.toList.map (Options.countClause word)).flatMap ([.blank] ++ ·)).flatMap Token.lexemes =
      if count.isSome then [.mark ' ', .word word.text.toList, .mark ' ', .mark '?'] else [] := by
  cases count <;> rfl

/-- The lexemes of a query are those of a SELECT of its parts. -/
theorem lexemes_selectTokens {s : Schema} {table : String} {f : Filter} {o : Options}
    {ts : List Token} (h : s.selectTokens table f o = .ok ts) :
    ∃ c, f.condition s .document = .ok c ∧
      ts.flatMap Token.lexemes =
        Sql.selectLexemes table ((o.projectionTokens s).flatMap Token.lexemes)
        (c.tokens.flatMap Token.lexemes) ((s.keyTokens? o).map (List.flatMap Token.lexemes))
        o.limit.isSome o.skip.isSome := by
  obtain ⟨c, hc, rfl⟩ := selectTokens_append h
  refine ⟨c, hc, ?_⟩
  rw [List.flatMap_append, List.flatMap_append, List.flatMap_append, lexemes_coreTokens,
    lexemes_orderClause, lexemes_countClause, lexemes_countClause]
  rfl

/-- A clause word that the options do not ask for is not in the text of the query. -/
theorem countWord_selectTokens {s : Schema} (hb : isName s.bodyColumn.toList = true)
    {table : String} {f : Filter} {o : Options} {ts : List Token}
    (h : s.selectTokens table f o = .ok ts) {k : Keyword} (hk : k.text ∈ Sql.reservedWords)
    (hc : k.isClause = true) (ho : k ∉ o.clauseWords) :
    countWord k (ts.flatMap Token.lexemes) = 0 := by
  have hname {w : List Char} (hw : isName w = true) : (Lexeme.word w).isWord k = false :=
    Sql.isWord_of_isName hw hk
  rw [countWord, List.countP_eq_zero]
  intro l hl
  obtain ⟨t, ht, hl⟩ := List.mem_flatMap.mp hl
  rw [Bool.not_eq_true]
  cases t with
  | blank | param | string | identifier =>
    obtain rfl := List.mem_singleton.mp hl
    rfl
  | symbol s =>
    rw [Token.lexemes, List.mem_map] at hl
    obtain ⟨c, -, rfl⟩ := hl
    rfl
  | function g =>
    obtain rfl := List.mem_singleton.mp hl
    exact hname g.isName_text
  | element depth =>
    obtain rfl := List.mem_singleton.mp hl
    exact hname (Sql.isName_elementAlias depth)
  | elementColumn c =>
    obtain rfl := List.mem_singleton.mp hl
    exact hname c.isName_text
  | number n =>
    obtain rfl := List.mem_singleton.mp hl
    apply Sql.isWord_of_digits
    apply List.all_eq_true.mpr
    intro c hc
    exact Nat.isDigit_of_mem_toDigits (by decide) (by decide) hc
  | keyword k' =>
    obtain rfl := List.mem_singleton.mp hl
    apply Sql.isWord_of_keyword k'.upper_text
    rintro rfl
    cases writes_of_selectTokens h _ ht with
    | fixed hf => simp [Token.isFixed, hc] at hf
    | word hw => exact ho hw
  | body column =>
    obtain rfl := List.mem_singleton.mp hl
    cases writes_of_selectTokens h _ ht with
    | fixed hf => cases hf
    | body => exact hname hb
  | generated column =>
    obtain rfl := List.mem_singleton.mp hl
    cases writes_of_selectTokens h _ ht with
    | fixed hf => cases hf
    | @column field hi hf hr =>
      apply hname
      have hnamed := s.isNamed_resolveIn hb .document field.name
      simp only [resolveIn, resolve, hf, referenceTo, hi, if_true, Reference.isNamed,
        Bool.and_eq_true]
        at hnamed
      exact hnamed.1

/-- If every offset comes with a limit then a query is a SELECT. -/
theorem forms_selectTokens {s : Schema} (hb : isName s.bodyColumn.toList = true) {table : String}
    {f : Filter} {o : Options} {ts : List Token} (h : s.selectTokens table f o = .ok ts)
    (ho : o.skip.isSome → o.limit.isSome) : Forms [.select] ts := by
  obtain ⟨c, hc, rfl⟩ := selectTokens_append h
  have hcore : Forms [.core] (s.coreTokens table c.tokens o) := by
    have hspelled : Forms [.table] [.identifier table] := .single (.table table.toList)
    have htable : Forms [.source] [.identifier table] := hspelled.of_parts
    have hresult : Forms [.expressions] (o.projectionTokens s) :=
      (Options.forms_projectionTokens hb o).of_parts
    have hcondition := Filter.forms_condition hb hc
    have hparts : Forms [.keyword .SELECT, .expressions, .keyword .FROM, .source, .keyword .WHERE,
        .expression] (s.coreTokens table c.tokens o) :=
      .spaced (.cons (.keyword .SELECT) (.cons hresult (.cons (.keyword .FROM) (.cons htable
        (.cons (.keyword .WHERE) (.cons hcondition .nil))))))
    exact hparts.of_parts
  have hordered : Forms [.ordered]
      (s.coreTokens table c.tokens o ++ (Options.orderClause s o.sort).flatMap
        ([.blank] ++ ·)) := by
    cases hs : o.sort with
    | nil =>
      rw [Options.orderClause, List.flatMap_nil, List.append_nil]
      exact hcore.of_parts
    | cons key rest =>
      have hne := List.cons_ne_nil key rest
      have hkeys := Options.forms_sortKeys hb hne
      have hclause : Forms [.keyword .ORDER, .keyword .BY, .orderings] _ :=
        .spaced (.cons (.keyword .ORDER) (.cons (.keyword .BY) (.cons hkeys .nil)))
      rw [Options.orderClause.eq_2 s _ hne, List.flatMap_singleton]
      exact (hcore.append hclause.blank_append).of_parts
  cases hl : o.limit with
  | none =>
    have hskip : o.skip = none := by
      cases hk : o.skip with
      | none => rfl
      | some n => simp [hk, hl] at ho
    rw [hskip]
    simp only [Option.toList_none, List.map_nil, List.flatMap_nil, List.append_nil]
    exact hordered.of_parts
  | some n =>
    have hlimit := hordered.append (Options.forms_countClause .LIMIT n).blank_append
    cases hk : o.skip with
    | none =>
      simp only [Option.toList_none, Option.toList_some, List.map_nil, List.map_cons,
        List.flatMap_nil, List.flatMap_singleton, List.append_nil]
      exact hlimit.of_parts
    | some m =>
      have hboth := hlimit.append (Options.forms_countClause .OFFSET m).blank_append
      simp only [Option.toList_some, List.map_nil, List.map_cons, List.flatMap_singleton]
      exact hboth.of_parts

/-- If a query is a SELECT then its offset comes with a limit. -/
theorem limit_of_derives {s : Schema} (hb : isName s.bodyColumn.toList = true) {table : String}
    {f : Filter} {o : Options} {ts : List Token} (h : s.selectTokens table f o = .ok ts)
    (hd : Derives [.select] (ts.flatMap Token.lexemes)) (hskip : o.skip.isSome) :
    o.limit.isSome := by
  have hle := hd.offsets_le_limits
  cases hl : o.limit with
  | some n => rfl
  | none =>
    have hzero : countWord .LIMIT (ts.flatMap Token.lexemes) = 0 := by
      apply countWord_selectTokens hb h (by decide) rfl
      simp [Options.clauseWords, hl]
    have hpos : 1 ≤ countOffsets (ts.flatMap Token.lexemes) := by
      obtain ⟨c, -, hlexemes⟩ := lexemes_selectTokens h
      rw [hlexemes, hskip]
      exact Sql.countOffsets_le_append _ [.mark ' ', .word "OFFSET".toList, .mark ' ', .mark '?']
    omega

/-- A query is a SELECT of an expression from its table under an expression, with at least one key
if it has an order, then with its limit and with its offset. The grammar derives it exactly if there
is a limit where there is an offset. -/
theorem derives_compileSelect {d : Declaration} {s : Schema} (hs : d.build = .ok s)
    (hb : Sql.isReserved s.bodyColumn.toList = false) {table : String} {f : Filter} {o : Options}
    {q : Sql.Statement} (hq : s.compileSelect table f o = .ok q) :
    ∃ result condition keys,
      lex q.sql.toList =
        some (Sql.selectLexemes table result condition keys o.limit.isSome o.skip.isSome) ∧
      Derives [.expression] result ∧ Derives [.expression] condition ∧
      (keys.isSome ↔ o.sort ≠ []) ∧ (∀ ks ∈ keys, Derives [.orderings] ks) ∧
      (Derives [.select] (Sql.selectLexemes table result condition keys o.limit.isSome
        o.skip.isSome) ↔
        (o.skip.isSome → o.limit.isSome)) := by
  have hplain := plain_bodyColumn hs
  have hname : isName s.bodyColumn.toList = true := by
    rw [isName, hplain, hb]
    rfl
  obtain ⟨ts, hts, rfl⟩ := compileSelect_ok hq
  obtain ⟨c, hc, hlexemes⟩ := lexemes_selectTokens hts
  have hlex := Sql.lex_ofTokens (tidy_selectTokens hplain hts)
  rw [hlexemes] at hlex
  refine ⟨_, _, _, hlex, Options.forms_projectionTokens hname o, Filter.forms_condition hname hc,
    ?_, ?_, ?_⟩
  · cases ho : o.sort <;> simp [keyTokens?, ho]
  · intro ks hks
    cases ho : o.sort with
    | nil => simp [keyTokens?, ho] at hks
    | cons key rest =>
      have hkeys := Options.forms_sortKeys hname (List.cons_ne_nil key rest)
      simp only [keyTokens?, ho, List.isEmpty_cons, Bool.false_eq_true, if_false, Option.map_some,
        Option.mem_def, Option.some.injEq] at hks
      exact hks ▸ hkeys
  · rw [← hlexemes]
    exact ⟨limit_of_derives hname hts, forms_selectTokens hname hts⟩

/-- Notes in a body column of the given name. -/
def notes (body : String) : Declaration where
  collection := "notes"
  bodyColumn := body

/-- The text of a query for notes. -/
def notesText (body : String) (f : Filter) (o : Options) : Option String :=
  (notes body).build.toOption.bind fun s =>
    (s.compileSelect "notes" f o).toOption.map Sql.Statement.sql

theorem notesText_eq_some {body : String} {f : Filter} {o : Options} {text : String}
    (h : notesText body f o = some text) :
    ∃ s q, (notes body).build = .ok s ∧ s.compileSelect "notes" f o = .ok q ∧ q.sql = text := by
  unfold notesText at h
  cases hs : (notes body).build with
  | error e => simp [hs, Except.toOption] at h
  | ok s =>
    cases hq : s.compileSelect "notes" f o with
    | error e => simp [hs, hq, Except.toOption] at h
    | ok q => exact ⟨s, q, rfl, hq, by simpa [hs, hq, Except.toOption] using h⟩

/-- The third page of the notes with a title, in the order of their titles. -/
def titledNotes : Filter := .test "title" (.present true)

def thirdPage : Options where
  sort := [⟨"title", .descending⟩]
  limit := some 10
  skip := some 20

theorem derives_compileSelect_notes :
    ∃ s q ls, (notes "data").build = .ok s ∧ Sql.isReserved s.bodyColumn.toList = false ∧
      s.compileSelect "notes" titledNotes thirdPage = .ok q ∧
      q.sql = "SELECT data FROM \"notes\" WHERE json_type(data, '$.title') IS NOT NULL " ++
        "ORDER BY json_extract(data, '$.title') DESC LIMIT ? OFFSET ?" ∧
      lex q.sql.toList = some ls ∧ Derives [.select] ls := by
  have htext : notesText "data" titledNotes thirdPage =
      some ("SELECT data FROM \"notes\" WHERE json_type(data, '$.title') IS NOT NULL " ++
        "ORDER BY json_extract(data, '$.title') DESC LIMIT ? OFFSET ?") := by decide +kernel
  obtain ⟨s, q, hs, hq, hsql⟩ := notesText_eq_some htext
  have hb : Sql.isReserved s.bodyColumn.toList = false := by
    obtain ⟨-, -, -, -, -, hbody, -⟩ := Declaration.build_ok hs
    rw [hbody]
    decide +kernel
  obtain ⟨result, condition, keys, hlex, -, -, -, -, hiff⟩ := derives_compileSelect hs hb hq
  have hpage : thirdPage.skip.isSome → thirdPage.limit.isSome := fun _ => rfl
  exact ⟨s, q, _, hs, hb, hq, hsql, hlex, hiff.mpr hpage⟩

/-- Without a limit the offset is out of place, and so is a body column that is a reserved word. -/
theorem not_derives_compileSelect :
    (∃ s q ls, (notes "data").build = .ok s ∧
      s.compileSelect "notes" .everything { skip := some 5 } = .ok q ∧
      q.sql = "SELECT data FROM \"notes\" WHERE 1=1 OFFSET ?" ∧
      lex q.sql.toList = some ls ∧ ¬Derives [.select] ls) ∧
    ∃ s q ls, (notes "select").build = .ok s ∧ s.compileSelect "notes" .everything {} = .ok q ∧
      q.sql = "SELECT select FROM \"notes\" WHERE 1=1" ∧
      lex q.sql.toList = some ls ∧ ¬Derives [.select] ls := by
  have hskip : notesText "data" .everything { skip := some 5 } =
      some "SELECT data FROM \"notes\" WHERE 1=1 OFFSET ?" := by decide +kernel
  have hkeyword : notesText "select" .everything {} =
      some "SELECT select FROM \"notes\" WHERE 1=1" := by
    decide +kernel
  constructor
  · obtain ⟨s, q, hs, hq, hsql⟩ := notesText_eq_some hskip
    have hcounts : (lex "SELECT data FROM \"notes\" WHERE 1=1 OFFSET ?".toList).map
        (fun ls => (countOffsets ls, countWord .LIMIT ls)) = some (1, 0) := by decide +kernel
    obtain ⟨ls, hlex, hcount⟩ := Option.map_eq_some_iff.mp hcounts
    rw [Prod.mk.injEq] at hcount
    refine ⟨s, q, ls, hs, hq, hsql, hsql ▸ hlex, ?_⟩
    intro hderives
    have hle := hderives.offsets_le_limits
    omega
  · obtain ⟨s, q, hs, hq, hsql⟩ := notesText_eq_some hkeyword
    have hcounts : (lex "SELECT select FROM \"notes\" WHERE 1=1".toList).map
        (fun ls => (countWord .SELECT ls, countWord .FROM ls)) = some (2, 1) := by decide +kernel
    obtain ⟨ls, hlex, hcount⟩ := Option.map_eq_some_iff.mp hcounts
    rw [Prod.mk.injEq] at hcount
    refine ⟨s, q, ls, hs, hq, hsql, hsql ▸ hlex, ?_⟩
    intro hderives
    have hle := hderives.selects_le_froms
    omega

end Schema

end DocumentQuery
