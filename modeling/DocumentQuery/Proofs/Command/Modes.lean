import DocumentQuery.Command.Run
import DocumentQuery.Proofs.Cache.Transparency
import DocumentQuery.Proofs.Select.Tokens

/-!
# The two forms of a compiled query

A query is reported as one statement, or as its condition and its options apart. The first form
looks at the text of the options to see whether there are any, the second one at the options
themselves, and each may find the condition in the cache or compile it. `modes_agree` says that both
forms are about one query, or fail for one reason, whatever was asked of the cache before.
-/

namespace DocumentQuery

open Sql (Statement)

namespace Options

variable {s : Schema} {o : Options}

/-- There are no clauses exactly if there are no options but a projection. -/
theorem clauses_eq_nil_iff : o.clauses s = .ok [] ↔ o.isEmpty = true := by
  simp only [isEmpty, Bool.and_eq_true, List.isEmpty_iff, Option.isNone_iff_eq_none]
  constructor
  · intro h
    obtain ⟨hcs, -⟩ := clauses_ok h
    rw [eq_comm, List.append_eq_nil_iff, List.append_eq_nil_iff] at hcs
    obtain ⟨⟨hsort, hlimit⟩, hskip⟩ := hcs
    refine ⟨⟨?_, ?_⟩, ?_⟩
    · cases ho : o.sort with
      | nil => rfl
      | cons k rest => simp [orderClause, ho] at hsort
    · cases ho : o.limit with
      | none => rfl
      | some n => simp [ho] at hlimit
    · cases ho : o.skip with
      | none => rfl
      | some n => simp [ho] at hskip
  · rintro ⟨⟨hsort, hlimit⟩, hskip⟩
    simp only [clauses, hsort, hlimit, hskip, pagingClause, orderClause, Except.map,
      List.append_nil]

theorem sql_eq_empty_iff {tail : Statement} (h : o.compile s = .ok tail) :
    tail.sql = "" ↔ o.isEmpty = true := by
  rw [← clauses_eq_nil_iff (s := s)]
  cases hcs : o.clauses s with
  | error e => simp [compile, tokens, hcs, Except.map] at h
  | ok cs =>
    simp only [compile, tokens, hcs, Except.map, Except.ok.injEq] at h
    subst h
    constructor
    · intro hsql
      -- without text there is no clause, since a clause begins with a word
      have htail := Schema.toList_tail fun c hc => exists_keyword_of_mem_clauses hcs hc
      rw [if_pos (by rw [Statement.isEmpty, hsql]; rfl)] at htail
      cases cs with
      | nil => rfl
      | cons c rest => simp at htail
    · intro hnil
      rw [Except.ok.inj hnil]
      rfl

theorem compile_of_isEmpty (h : o.isEmpty = true) : o.compile s = .ok .empty := by
  simp only [compile, tokens, clauses_eq_nil_iff.mpr h, Except.map]
  rfl

end Options

namespace Command

/-- The one query that a condition and the clauses of options make. -/
def joined (s : Schema) (o : Options) (condition : Statement) (tail : Option Statement) :
    Statement where
  sql := "SELECT " ++ Sql.text (o.projectionTokens s) ++ " FROM " ++
    Sql.quotedIdentifier s.collection ++
    " WHERE " ++ condition.sql ++ (match tail with
      | none => ""
      | some t => " " ++ t.sql)
  params := condition.params ++ (match tail with
    | none => []
    | some t => t.params)

/-- The clauses of options, if there is any text to them. -/
def clauses? (tail : Statement) : Option Statement := if tail.sql = "" then none else some tail

variable {s : Schema} {f : Filter} {o : Options}

/-- A query is put together from its condition and what the options have of clauses. -/
theorem assembleSelect_eq (condition : Statement) {tail : Statement} (h : o.compile s = .ok tail) :
    s.assembleSelect s.collection condition o = .ok (joined s o condition (clauses? tail)) := by
  by_cases hsql : tail.sql = ""
  · have hempty := Options.compile_of_isEmpty (s := s) ((Options.sql_eq_empty_iff h).mp hsql)
    obtain rfl : Statement.empty = tail := Except.ok.inj (hempty.symm.trans h)
    simp [Schema.assembleSelect, h, Except.map, joined, clauses?, Statement.empty,
      Statement.isEmpty]
  · simp [Schema.assembleSelect, h, Except.map, joined, clauses?, hsql, Statement.isEmpty]

/-- The report with one query, if its condition comes from the cache as it is compiled. -/
theorem selectReport_fst {c : Cache} (hc : (c.compile s f).1 = f.compile s) :
    (compileReport c s f o true).1 =
      (s.compileSelect s.collection f o).map fun q => ⟨s.collection, [⟨.select, q⟩]⟩ := by
  simp only [compileReport, if_true, selectReport, c.select_fst s s.collection f o hc]

theorem partsReport_fst {c : Cache} (hc : (c.compile s f).1 = f.compile s) :
    (compileReport c s f o false).1 =
      match f.compile s, o.compile s with
      | .error e, _ => .error e
      | .ok _, .error e => .error e
      | .ok condition, .ok tail => .ok ⟨s.collection,
          ⟨.where, condition⟩ :: (clauses? tail).toList.map (Fragment.mk .options)⟩ := by
  simp only [compileReport, Bool.false_eq_true, if_false, partsReport, hc]
  cases f.compile s with
  | error e => rfl
  | ok condition =>
    cases ho : o.compile s with
    | error e =>
      have hsome : o.isEmpty = false := by
        by_contra hempty
        rw [Options.compile_of_isEmpty (by simpa using hempty)] at ho
        cases ho
      simp [hsome, Except.map]
    | ok tail =>
      have hempty := Options.sql_eq_empty_iff ho
      by_cases hsql : tail.sql = ""
      · simp [hempty.mp hsql, clauses?, hsql]
      · have hsome : o.isEmpty = false := by simpa [hempty] using hsql
        simp [hsome, clauses?, hsql, Except.map]

theorem fails_alike {x y : Except CompileError CompileReport}
    (h : ∀ e, x = .error e ↔ y = .error e) (e : Error) :
    (x.mapError Error.compile).map Report.compile = .error e ↔
      (y.mapError Error.compile).map Report.compile = .error e := by
  cases x with
  | error a => rw [(h a).mp rfl]
  | ok r =>
    cases y with
    | error b => exact absurd ((h b).mpr rfl) (by simp)
    | ok t => simp [Except.mapError, Except.map]

/-- Reported as one statement or in parts, a query is the same or fails for the same reason,
whatever was asked of the two caches before and whichever files it is read from. The options are
reported exactly if they have text, and the one statement is put together from the parts. -/
theorem modes_agree (config config' : Cache.Config) {qs qs' : List DocumentQuery.Request}
    (hi : ∀ q ∈ qs ++ qs', q.isInsert = false)
    (hw : ∀ q ∈ qs ++ qs' ++ [DocumentQuery.Request.compile s f], q.fitsWords = true)
    (hn : NoCollision ((qs ++ qs' ++ [DocumentQuery.Request.compile s f]).flatMap
      DocumentQuery.Request.streams)) :
    let c := (Cache.ofConfig config).after qs
    let c' := (Cache.ofConfig config').after qs'
    (∀ e, (compileReport c s f o true).1 = .error e ↔ (compileReport c' s f o false).1 = .error e) ∧
    (∀ parts, (compileReport c' s f o false).1 = .ok parts →
      ∃ condition tail, o.compile s = .ok tail ∧
      parts = ⟨s.collection, ⟨.where, condition⟩ :: (clauses? tail).toList.map
        (Fragment.mk .options)⟩ ∧
      (compileReport c s f o true).1 =
        .ok ⟨s.collection, [⟨.select, joined s o condition (clauses? tail)⟩]⟩) ∧
    ∀ files schema filter options,
      (∀ read, readCompile files schema filter options = .ok read → read = (s, f, o)) →
      ∀ e, (run c files (.compile schema filter options true)).1 = .error e ↔
        (run c' files (.compile schema filter options false)).1 = .error e := by
  intro c c'
  have hlast :
      DocumentQuery.Request.compile s f ∈ qs ++ qs' ++ [DocumentQuery.Request.compile s f] :=
    List.mem_append_right _ (List.mem_singleton_self _)
  have hsub : qs ⊆ qs ++ qs' ++ [DocumentQuery.Request.compile s f] := by simp
  have hsub' : qs' ⊆ qs ++ qs' ++ [DocumentQuery.Request.compile s f] := by simp
  have hc : (c.compile s f).1 = f.compile s :=
    Cache.compile_fst_session config hsub (fun q hq => hi q (List.mem_append_left _ hq)) hw hn hlast
  have hc' : (c'.compile s f).1 = f.compile s :=
    Cache.compile_fst_session config' hsub' (fun q hq => hi q (List.mem_append_right _ hq))
      hw hn hlast
  have hone := selectReport_fst (o := o) hc
  have hparts := partsReport_fst (o := o) hc'
  have herrors : ∀ e, (compileReport c s f o true).1 = .error e ↔
      (compileReport c' s f o false).1 = .error e := by
    intro e
    rw [hone, hparts]
    cases hf : f.compile s with
    | error e => simp [Schema.compileSelect, hf, Except.map]
    | ok condition =>
      cases ho : o.compile s with
      | error e => simp [Schema.compileSelect, hf, Schema.assembleSelect, ho, Except.map]
      | ok tail => simp [Schema.compileSelect, hf, assembleSelect_eq condition ho, Except.map]
  refine ⟨herrors, fun parts hok => ?_, fun files schema filter options hread e => ?_⟩
  · rw [hparts] at hok
    cases hf : f.compile s with
    | error e => simp [hf] at hok
    | ok condition =>
      cases ho : o.compile s with
      | error e => simp [hf, ho] at hok
      | ok tail =>
        simp only [hf, ho, Except.ok.injEq] at hok
        refine ⟨condition, tail, rfl, hok.symm, ?_⟩
        simp only [hone, Schema.compileSelect, hf, assembleSelect_eq condition ho, Except.map]
  · simp only [run]
    cases hr : readCompile files schema filter options with
    | error e => rfl
    | ok read =>
      rw [hread read hr]
      exact fails_alike herrors e

/-- A question for users of an age. -/
def usersFrom (age : Int64) : DocumentQuery.Request :=
  .compile (Cache.people "users") (.test "age" (.compare .gte (.integer age)))

def oldestTen : Options where
  sort := [⟨"age", .descending⟩]
  limit := some 10

/-- One cache holds a template of the question and the other one has forgotten it. -/
theorem modes_agree_people :
    (∀ q ∈ [usersFrom 18] ++ [usersFrom 21, .clear], q.isInsert = false) ∧
    (∀ q ∈ [usersFrom 18] ++ [usersFrom 21, .clear] ++ [usersFrom 40], q.fitsWords = true) ∧
    NoCollision (([usersFrom 18] ++ [usersFrom 21, .clear] ++ [usersFrom 40]).flatMap
      DocumentQuery.Request.streams) ∧
    ∃ q, (compileReport ((Cache.ofConfig {}).after [usersFrom 18]) (Cache.people "users")
        (.test "age" (.compare .gte (.integer 40))) oldestTen true).1 =
          .ok ⟨"users", [⟨.select, q⟩]⟩ ∧
      q.sql = "SELECT data FROM \"users\" WHERE _idx_age >= ? ORDER BY _idx_age DESC LIMIT ?" := by
  have hi : ∀ q ∈ [usersFrom 18] ++ [usersFrom 21, .clear], q.isInsert = false := by decide
  have hw : ∀ q ∈ [usersFrom 18] ++ [usersFrom 21, .clear] ++ [usersFrom 40],
      q.fitsWords = true := by
    decide +kernel
  have hn : NoCollision (([usersFrom 18] ++ [usersFrom 21, .clear] ++ [usersFrom 40]).flatMap
      DocumentQuery.Request.streams) := by decide +kernel
  have hshown :
    ((compileReport ((Cache.ofConfig {}).after [usersFrom 21, .clear]) (Cache.people "users")
      (.test "age" (.compare .gte (.integer 40))) oldestTen false).1.toOption.map fun r =>
        r.fragments.map fun p => p.statement.sql) =
      some ["_idx_age >= ?", "ORDER BY _idx_age DESC LIMIT ?"] := by decide +kernel
  obtain ⟨-, hparts, -⟩ := modes_agree (o := oldestTen) {} {} hi hw hn
  cases hok : (compileReport ((Cache.ofConfig {}).after [usersFrom 21, .clear])
    (Cache.people "users")
      (.test "age" (.compare .gte (.integer 40))) oldestTen false).1 with
  | error e => simp only [hok, Except.toOption, Option.map_none, reduceCtorEq] at hshown
  | ok parts =>
    obtain ⟨condition, tail, -, rfl, hone⟩ := hparts parts hok
    refine ⟨hi, hw, hn, _, hone, ?_⟩
    cases hclauses : clauses? tail with
    | none =>
      rw [hok, hclauses] at hshown
      simp [Except.toOption] at hshown
    | some t =>
      simp only [hok, hclauses, Except.toOption, Option.map_some, List.map_cons, List.map_nil,
        Option.toList_some, Option.some.injEq, List.cons.injEq, and_true] at hshown
      simp only [joined, hshown]
      decide +kernel

end Command

end DocumentQuery
