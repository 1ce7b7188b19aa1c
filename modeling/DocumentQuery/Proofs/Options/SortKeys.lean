import DocumentQuery.Proofs.Options.Mentions
import DocumentQuery.Proofs.Options.SortReading
import DocumentQuery.Proofs.Select.Tokens

/-!
# Sort keys from their mentions to the clause

The keys of options that are set one after the other, or read from JSON, are the ones that stand in
the text of the clause, in their order.
-/

namespace DocumentQuery.Options

open Sql (Keyword)

/-- A sort key as it stands in the clause. -/
def keyText (s : Schema) (k : SortKey) : String :=
  Sql.text (s.resolve k.field).value ++ " " ++ k.direction.keyword.text

/-- The clause with these sort keys; there is none without any. -/
def orderText (s : Schema) (keys : List SortKey) : Option String :=
  if keys = [] then none else some ("ORDER BY " ++ String.intercalate ", " (keys.map (keyText s)))

theorem text_sortTokens (s : Schema) (k : SortKey) : Sql.text (sortTokens s k) = keyText s k := by
  rw [sortTokens, Sql.spaced, Sql.text_separated, List.map_cons, List.map_singleton,
    String.intercalate_cons_cons, String.intercalate_singleton]
  simp [keyText, Sql.text, Sql.Token.chars]

theorem map_text_orderClause (s : Schema) (keys : List SortKey) :
    (orderClause s keys).map Sql.text = (orderText s keys).toList := by
  cases keys with
  | nil => rfl
  | cons k rest =>
    have hlisted : Sql.text (Sql.listed ((k :: rest).map (sortTokens s))) =
        String.intercalate ", " ((k :: rest).map (keyText s)) := by
      rw [Sql.listed, Sql.text_separated, List.map_map]
      exact congrArg₂ _ rfl (List.map_congr_left fun k _ => text_sortTokens s k)
    have hclause : orderClause s (k :: rest) = [Sql.spaced [[.keyword .ORDER], [.keyword .BY],
        Sql.listed ((k :: rest).map (sortTokens s))]] := rfl
    rw [hclause, orderText, if_neg (List.cons_ne_nil _ _), List.map_singleton, Sql.spaced,
      Sql.text_separated, List.map_cons, List.map_cons, List.map_singleton, hlisted]
    simp only [String.intercalate_cons_cons, String.intercalate_singleton, ← String.append_assoc]
    rfl

theorem text_countClause (word : Keyword) (n : UInt64) :
    Sql.text (countClause word n) = word.text ++ " ?" := by
  rw [countClause, Sql.spaced, Sql.text_separated, List.map_cons, List.map_singleton,
    String.intercalate_cons_cons, String.intercalate_singleton]
  simp only [Sql.text, Sql.chars_cons, Sql.chars_nil, List.append_nil, Sql.Token.chars,
    String.ofList_toList, String.append_assoc]
  rfl

/-- The clauses of options in order, each a piece of text. -/
def clauseTexts (s : Schema) (o : Options) : List String :=
  (orderText s o.sort).toList ++ o.limit.toList.map (fun _ => "LIMIT ?") ++
    o.skip.toList.map fun _ => "OFFSET ?"

theorem sql_compile {s : Schema} {o : Options} {q : Sql.Statement} (h : o.compile s = .ok q) :
    q.sql = String.intercalate " " (clauseTexts s o) := by
  cases hclauses : o.clauses s with
  | error e => simp [compile, tokens, hclauses, Except.map] at h
  | ok cs =>
    simp only [compile, tokens, hclauses, Except.map, Except.ok.injEq] at h
    obtain ⟨rfl, -⟩ := clauses_ok hclauses
    rw [← h, Sql.Statement.ofTokens, Sql.spaced, Sql.text_separated, List.map_append,
      List.map_append, map_text_orderClause, List.map_map, List.map_map]
    refine congrArg (String.intercalate " ") (congrArg₂ _ (congrArg _ ?_) ?_)
    · exact List.map_congr_left fun n _ => text_countClause .LIMIT n
    · exact List.map_congr_left fun n _ => text_countClause .OFFSET n

/-- Options have clauses exactly if their counts fit a signed integer. -/
theorem exists_compile_ok_iff {s : Schema} {o : Options} : (∃ q, o.compile s = .ok q) ↔
    ∀ n ∈ o.limit.toList ++ o.skip.toList, n.toNat < 0x8000000000000000 := by
  constructor
  · rintro ⟨q, hq⟩
    cases hclauses : o.clauses s with
    | error e => simp [compile, tokens, hclauses, Except.map] at hq
    | ok cs => exact (clauses_ok hclauses).2
  · intro h
    simp only [List.mem_append, Option.mem_toList] at h
    obtain ⟨limit, hlimit⟩ := pagingClause_of_lt .limit .LIMIT fun n hn => h n (.inl hn)
    obtain ⟨skip, hskip⟩ := pagingClause_of_lt .skip .OFFSET fun n hn => h n (.inr hn)
    simp [compile, tokens, clauses, hlimit, hskip, Except.map]

/-- The sort keys of options that are set one after the other are the last mentions of all fields,
each once, in the order of the first mentions. If the counts fit, these keys are what the result is
ordered by, in this order; and an object of sort keys is read as its members in their order, with
the directions that they state. -/
theorem lists_sort (settings : List Setting) (s : Schema) :
    let o := ofSettings settings
    (Lists (mentions settings) o.sort ∧ (o.sort.map SortKey.field).Nodup ∧
      ∀ field, field ∈ o.sort.map SortKey.field ↔ field ∈ (mentions settings).map SortKey.field) ∧
    ((∃ q, o.compile s = .ok q) ↔
      ∀ n ∈ o.limit.toList ++ o.skip.toList, n.toNat < 0x8000000000000000) ∧
    (∀ q, o.compile s = .ok q → q.sql = String.intercalate " " (clauseTexts s o)) ∧
    ∀ before keys after : List (String × Json), "sort" ∉ (before ++ after).map Prod.fst →
      (keys.map Prod.fst).Nodup → ∀ read : Options,
      (ofJson (.object (before ++ ("sort", .object keys) :: after)) = .ok read ↔
        ofJson (.object (before ++ after)) = .ok { read with sort := [] } ∧
          List.Forall₂ StatesKey keys read.sort) := by
  intro o
  have hnew : Lists [] ({} : Options).sort := .nil
  have hlists : Lists (mentions settings) o.sort := lists_foldl hnew settings
  exact ⟨⟨hlists, hlists.nodup, fun _ => hlists.mem_fields⟩, exists_compile_ok_iff,
    fun _ => sql_compile, fun _ _ _ h hn => ofJson_sort h hn⟩

/-- Players whose age has a column. -/
def players : Schema where
  collection := "players"
  bodyColumn := "data"
  fields := [⟨"age", "$.age", .integer, true, false, true, none⟩]
  indexes := []
  timestamps := false
  cacheable := true

/-- A field that is mentioned again behind another one. -/
def ageTwice : List Setting :=
  [.sortBy "age" .descending, .limit 10, .sortBy "name" .descending, .projection ["name"],
    .sortBy "age" .ascending,
    .skip 20]

def ageThenName : List (String × Json) :=
  [("age", .number (.integer (-1) (by decide))), ("name", .string "Asc")]

def limitFive : List (String × Json) := [("limit", .number (.integer 5 (by decide)))]

theorem lists_sort_players :
    (ofSettings ageTwice).sort = [⟨"age", .ascending⟩, ⟨"name", .descending⟩] ∧
    (∃ q, (ofSettings ageTwice).compile players = .ok q ∧
      q.sql = "ORDER BY _idx_age ASC, json_extract(data, '$.name') DESC LIMIT ? OFFSET ?") ∧
    ofJson (.object (limitFive ++ [("sort", .object ageThenName)])) =
      .ok { sort := [⟨"age", .descending⟩, ⟨"name", .ascending⟩], limit := some 5 } := by
  obtain ⟨-, hok, hsql, hjson⟩ := lists_sort ageTwice players
  have hcounts :
      (ofSettings ageTwice).limit.toList ++ (ofSettings ageTwice).skip.toList = [10, 20] := rfl
  obtain ⟨q, hq⟩ := hok.mpr (by simp [hcounts])
  have hstates : List.Forall₂ StatesKey ageThenName [⟨"age", .descending⟩, ⟨"name", .ascending⟩] :=
    .cons ⟨rfl, .minusOne _⟩ (.cons ⟨rfl, .asc (by decide)⟩ .nil)
  refine ⟨by decide, ⟨q, hq, (hsql q hq).trans (by decide +kernel)⟩, ?_⟩
  exact (hjson limitFive ageThenName [] (by decide) (by decide) _).mpr ⟨rfl, hstates⟩

end DocumentQuery.Options
