import DocumentQuery.Proofs.Filter.Predicates
import DocumentQuery.Proofs.Filter.Values

/-!
# Placeholders and values of whole queries

In the text of a query the scan finds exactly the placeholders that were written, whatever the names
and paths contain, and they stand in the order of the values: those of the tests of the filter from
left to right, then the limit, then the skip.
-/

namespace DocumentQuery

open Sql (Token Condition Statement Holds placeholderOffsets)

namespace Filter

mutual

/-- The tests of a filter from left to right, those on elements at the place of the array. -/
def tests : Filter → List Test
  | .everything => []
  | .logical _ operands => testsOfList operands
  | .test _ t => [t]
  | .elemMatch _ inner => inner.tests

/-- The tests of several filters, one filter after the other. -/
def testsOfList : List Filter → List Test
  | [] => []
  | f :: rest => f.tests ++ testsOfList rest

end

theorem params_of_condition {s : Schema} {root : Root} {f : Filter} {c : Condition}
    (h : f.condition s root = .ok c) : c.params = f.tests.flatMap Test.params := by
  have step : Inductive s (fun _ f c => c.params = f.tests.flatMap Test.params)
      (fun _ fs cs => Condition.paramsOfList cs = (testsOfList fs).flatMap Test.params) := {
    everything := fun _ => rfl
    logical := fun _ k fs cs c hcs hj => by rw [tests, ← hcs, Connective.params_of_join? hj]
    test := fun _ path t _ => by
      rw [tests, List.flatMap_singleton]
      exact t.params_condition _ _
    elemMatch := fun _ path inner c hc => by rw [tests, ← hc, Condition.params]
    nil := fun _ => rfl
    cons := fun _ f fs c cs hc hcs => by
      rw [testsOfList, List.flatMap_append, ← hc, ← hcs, Condition.paramsOfList] }
  exact step.holds root f h

end Filter

/-- What the limit and the skip write of their own. -/
def Options.pagingPredicates (o : Options) : List Statement :=
  (o.limit.toList.map fun n => ⟨"LIMIT ?", [.integer (Int64.ofInt n.toNat)]⟩) ++
    o.skip.toList.map fun n => ⟨"OFFSET ?", [.integer (Int64.ofInt n.toNat)]⟩

namespace Options

theorem toInt_count {n : UInt64} (h : n.toNat < 0x8000000000000000) :
    (Int64.ofInt n.toNat).toInt = n.toNat := by
  apply Int64.toInt_ofInt_of_le
  · omega
  · omega

theorem ofTokens_countClause (word : Sql.Keyword) (n : UInt64) :
    Statement.ofTokens (countClause word n) =
      ⟨word.text ++ " ?", [.integer (Int64.ofInt n.toNat)]⟩ := by
  refine Statement.ofTokens_eq ?_ rfl
  simp [countClause, Sql.spaced, Sql.separated, Token.chars]

theorem forall₂_holds_orderClause (s : Schema) (keys : List SortKey) :
    List.Forall₂ Holds (orderClause s keys) ((orderClause s keys).map fun _ => []) := by
  rw [List.forall₂_map_right_iff, List.forall₂_same]
  exact fun c hc => .of_params (List.flatMap_eq_nil_iff.mp (params_orderClause s keys) c hc)

theorem exists_holds_clauses {s : Schema} {o : Options} {cs : List (List Token)}
    (h : o.clauses s = .ok cs) :
    ∃ pss, List.Forall₂ Holds cs pss ∧ pss.flatten = o.pagingPredicates := by
  obtain ⟨rfl, -⟩ := clauses_ok h
  have hcounts (word : Sql.Keyword) (counts : List UInt64) :=
    Holds.forall₂_singles (ofTokens_countClause word) counts
  have hclauses := List.rel_append (List.rel_append (forall₂_holds_orderClause s o.sort)
    (hcounts .LIMIT o.limit.toList)) (hcounts .OFFSET o.skip.toList)
  refine ⟨_, hclauses, ?_⟩
  have horder : ((orderClause s o.sort).map fun _ => ([] : List Statement)).flatten = [] := by simp
  simp only [List.flatten_append, horder, List.nil_append, ← List.flatMap_def,
    ← List.map_eq_flatMap]
  rfl

end Options

namespace Schema

/-- A query holds what the parts of its filter write, then the limit and the skip. -/
theorem holds_selectTokens {s : Schema} {table : String} {f : Filter} {o : Options}
    {ts : List Token} (h : s.selectTokens table f o = .ok ts) :
    Holds ts ((f.visits 0).flatMap (Filter.predicatesAt s) ++ o.pagingPredicates) := by
  obtain ⟨c, cs, hc, hcs, rfl⟩ := selectTokens_ok h
  obtain ⟨pss, hpss, hflatten⟩ := Options.exists_holds_clauses hcs
  have hword (t : Token) (ht : t.param? = none) : Holds [t] [] := .other ht .nil
  have hprojection : Holds (o.projectionTokens s) [] :=
    .of_params (Options.params_projectionTokens s o)
  have hpieces : List.Forall₂ Holds ([[.keyword .SELECT], o.projectionTokens s, [.keyword .FROM],
      [.identifier table], [.keyword .WHERE], c.tokens] ++ cs)
      ([] :: [] :: [] :: [] :: [] :: (f.visits 0).flatMap (Filter.predicatesAt s) :: pss) :=
    .cons (hword _ rfl) (.cons hprojection (.cons (hword _ rfl) (.cons (hword _ rfl)
      (.cons (hword _ rfl) (.cons (Filter.holds_condition hc) hpss)))))
  rw [← hflatten]
  exact Holds.spaced hpieces

/-- The tests of a filter, and then the limit and the skip, stand in a query one after the other,
each with its own text. The placeholders of the query are those in these texts, and each is bound to
a value of the test, or to the count, whose text it stands in. -/
theorem placeholders_aligned {d : Declaration} {s : Schema} (hs : d.build = .ok s) {table : String}
    {f : Filter} {o : Options} {q : Statement} (hq : s.compileSelect table f o = .ok q) :
    (∃ places : List (Nat × Statement),
      places.map Prod.snd = (f.visits 0).flatMap (Filter.predicatesAt s) ++ o.pagingPredicates ∧
      q.Aligned places) ∧
    q.params = (f.tests.flatMap fun t => t.params.map Sql.Param.value) ++
      (o.limit.toList ++ o.skip.toList).map (fun n => .integer (Int64.ofInt n.toNat)) ∧
    ∀ n ∈ o.limit.toList ++ o.skip.toList, (Int64.ofInt n.toNat).toInt = n.toNat := by
  obtain ⟨ts, hts, rfl⟩ := compileSelect_ok hq
  obtain ⟨c, hc, hparams⟩ := params_selectTokens hts
  obtain ⟨-, cs, -, hcs, -⟩ := selectTokens_ok hts
  refine ⟨(holds_selectTokens hts).exists_aligned
    (tidy_selectTokens (plain_bodyColumn hs) hts).plain, ?_, fun n hn =>
      Options.toInt_count ((Options.clauses_ok hcs).2 n hn)⟩
  rw [Statement.ofTokens, hparams, Filter.params_of_condition hc, List.map_append, List.map_flatMap,
    List.map_map]
  rfl

/-- A collection whose paths hold quotes and question marks. -/
def reports : Declaration where
  collection := "reports"
  fields := [{ name := "what?", type := .text, path := some "$.o'b\"?" }]

/-- Reports that have two tags, or have a part that is one of two values, or begin with a text. -/
def wantedReports : Filter :=
  .logical .or [.test "t?" (.member .all [.text "x?", .text "y'"]),
    .elemMatch "part" (.test "" (.member .oneOf [.text "?", .null])),
    .test "what?" (.pattern .startsWith "a")]

def firstReports : Options where
  limit := some 10
  skip := some 5

/-- The text of the query for such reports. -/
def reportsText : String :=
  "SELECT data FROM \"re\"\"po?rts\" WHERE (" ++
    "(EXISTS (SELECT 1 FROM json_each(data, '$.\"t?\"') AS _e1 WHERE _e1.value = ?) AND " ++
    "EXISTS (SELECT 1 FROM json_each(data, '$.\"t?\"') AS _e1 WHERE _e1.value = ?)) OR " ++
    "EXISTS (SELECT 1 FROM json_each(data, '$.part') AS _e1 WHERE _e1.value IN (?, ?)) OR " ++
    "json_extract(data, '$.o''b\"?') LIKE ?) LIMIT ? OFFSET ?"

/-- The predicates in it, with their values. -/
def reportsPredicates : List (String × List String) := [
  ("EXISTS (SELECT 1 FROM json_each(data, '$.\"t?\"') AS _e1 WHERE _e1.value = ?)", ["\"x?\""]),
  ("EXISTS (SELECT 1 FROM json_each(data, '$.\"t?\"') AS _e1 WHERE _e1.value = ?)", ["\"y'\""]),
  ("EXISTS (SELECT 1 FROM json_each(data, '$.part') AS _e1 WHERE ", []),
  ("_e1.value IN (?, ?)", ["\"?\"", "NULL"]),
  ("json_extract(data, '$.o''b\"?') LIKE ?", ["\"a%\""]),
  ("LIMIT ?", ["10"]),
  ("OFFSET ?", ["5"])]

/-- A predicate and its values for people. -/
def shown (p : Statement) : String × List String := (p.sql, p.params.map Value.display)

theorem placeholders_aligned_reports :
    ∃ s q, reports.build = .ok s ∧
      s.compileSelect "re\"po?rts" wantedReports firstReports = .ok q ∧
      shown q = (reportsText, ["\"x?\"", "\"y'\"", "\"?\"", "NULL", "\"a%\"", "10", "5"]) ∧
      ∃ places, (places.map fun x : Nat × Statement => shown x.2) = reportsPredicates ∧
        q.Aligned places := by
  have hok : (reports.build.toOption.bind fun s =>
      (s.compileSelect "re\"po?rts" wantedReports firstReports).toOption.map fun q : Statement =>
        (shown q, ((wantedReports.visits 0).flatMap (Filter.predicatesAt s) ++
          firstReports.pagingPredicates).map shown)) =
      some ((reportsText, ["\"x?\"", "\"y'\"", "\"?\"", "NULL", "\"a%\"", "10", "5"]),
        reportsPredicates) := by decide +kernel
  cases hs : reports.build with
  | error e => simp [hs, Except.toOption] at hok
  | ok s =>
    cases hq : s.compileSelect "re\"po?rts" wantedReports firstReports with
    | error e => simp [hs, hq, Except.toOption] at hok
    | ok q =>
      simp only [hs, hq, Except.toOption, Option.bind_some, Option.map_some, Option.some.injEq,
        Prod.mk.injEq] at hok
      obtain ⟨places, hplaces, haligned⟩ := (placeholders_aligned hs hq).1
      refine ⟨s, q, rfl, hq, hok.1, places, ?_, haligned⟩
      rw [← hok.2, ← hplaces, List.map_map]
      rfl

end Schema

end DocumentQuery
