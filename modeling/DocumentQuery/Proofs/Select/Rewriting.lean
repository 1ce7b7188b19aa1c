import DocumentQuery.Proofs.Filter.Reads
import DocumentQuery.Proofs.Select.Tokens

/-!
# Rewriting the tokens of queries

If a rewriting makes of every name that a query reads what another schema makes of it, and keeps the
rest of the query, then it makes of the query what it is under the other schema. A rewriting that
only drops tokens drops none of those that queries are made of, which says what can stand in a
query.
-/

namespace DocumentQuery

open Sql (Token Keyword Keeps)

namespace Options

/-- The words of the clauses behind the condition. -/
def clauseWords (o : Options) : List Keyword :=
  (if o.sort.isEmpty then [] else [.ORDER, .BY, .ASC, .DESC]) ++
    o.limit.toList.map (fun _ => .LIMIT) ++ o.skip.toList.map (fun _ => .OFFSET)

/-- The fields that are sorted by, and those that are returned. -/
def fields (o : Options) : List String := o.sort.map SortKey.field ++ o.projection.getD []

end Options

/-- The names that a query reads, each with the root that it is read against. -/
def queryReads (f : Filter) (o : Options) : List (Root × String) :=
  f.reads .document ++ o.fields.map (Root.document, ·)

namespace Schema

/-- A rewriting that makes of what a query reads what the function does, and keeps the rest of the
query. -/
structure Carries (u : Token → List Token) (g : Reference → Reference) (s : Schema) (table : String)
    (f : Filter) (o : Options) : Prop where
  keeps : Keeps u id
  word : ∀ k ∈ o.clauseWords, u (.keyword k) = [.keyword k]
  table : u (.identifier table) = [.identifier table]
  body : u (.body s.bodyColumn) = [.body s.bodyColumn]
  projected : ∀ name ∈ o.projection.getD [], u (.string name) = [.string name]
  reads : ∀ p ∈ queryReads f o, (s.resolveIn p.1 p.2).Rewrites u (g (s.resolveIn p.1 p.2))

namespace Carries

variable {u : Token → List Token} {g : Reference → Reference} {s t : Schema} {table : String}
  {f : Filter} {o : Options}

theorem flatMap_word (h : Carries u g s table f o) {k : Keyword} (hk : k ∈ o.clauseWords) :
    [Token.keyword k].flatMap u = [.keyword k] := by
  rw [List.flatMap_singleton, h.word k hk]

theorem flatMap_value (h : Carries u g s table f o) (hg : Translates g s t) {name : String}
    (hn : name ∈ o.fields) : (s.resolve name).value.flatMap u = (t.resolve name).value := by
  have hread : (Root.document, name) ∈ queryReads f o :=
    List.mem_append_right _ (List.mem_map_of_mem hn)
  have hr : t.resolve name = g (s.resolve name) := hg.resolveIn .document name
  rw [hr]
  exact (h.reads _ hread).value

theorem flatMap_projectionTokens (h : Carries u g s table f o) (hg : Translates g s t) :
    (o.projectionTokens s).flatMap u = o.projectionTokens t := by
  have hbody : [Token.body s.bodyColumn].flatMap u = [.body t.bodyColumn] := by
    rw [List.flatMap_singleton, h.body, hg.bodyColumn]
  unfold Options.projectionTokens
  cases hp : o.projection with
  | none => exact hbody
  | some names =>
    cases names with
    | nil => exact hbody
    | cons name rest =>
      simp only [h.keeps.flatMap_call, List.map_flatMap]
      congr 1
      apply List.flatMap_congr
      intro name hn
      have hmem : name ∈ o.projection.getD [] := by rw [hp]; exact hn
      have hvalue := h.flatMap_value hg (List.mem_append_right _ hmem)
      rw [List.map_cons, List.map_cons, List.map_nil, List.flatMap_singleton,
        h.projected name hmem, hvalue]

theorem flatMap_sortTokens (h : Carries u g s table f o) (hg : Translates g s t) {k : SortKey}
    (hk : k ∈ o.sort) : (Options.sortTokens s k).flatMap u = Options.sortTokens t k := by
  have hvalue := h.flatMap_value hg (List.mem_append_left _ (List.mem_map_of_mem hk))
  have hword : [Token.keyword k.direction.keyword].flatMap u = [.keyword k.direction.keyword] := by
    apply h.flatMap_word
    have hne : o.sort.isEmpty = false := by
      cases ho : o.sort with
      | nil => simp [ho] at hk
      | cons _ _ => rfl
    cases k.direction <;> simp [Options.clauseWords, hne, Direction.keyword]
  rw [Options.sortTokens, h.keeps.flatMap_spaced, List.map_cons, List.map_cons, List.map_nil,
    hvalue, hword, Options.sortTokens]

theorem map_orderClause (h : Carries u g s table f o) (hg : Translates g s t) :
    (Options.orderClause s o.sort).map (List.flatMap u) = Options.orderClause t o.sort := by
  cases ho : o.sort with
  | nil => rfl
  | cons key rest =>
    have hwords : Keyword.ORDER ∈ o.clauseWords ∧ Keyword.BY ∈ o.clauseWords := by
      simp [Options.clauseWords, ho]
    have hkeys : (o.sort.map (Options.sortTokens s)).map (List.flatMap u) =
        o.sort.map (Options.sortTokens t) := by
      rw [List.map_map]
      apply List.map_congr_left
      intro k hk
      exact h.flatMap_sortTokens hg hk
    rw [ho] at hkeys
    simp only [Options.orderClause, List.map_cons, List.map_nil, h.keeps.flatMap_spaced,
      h.flatMap_word hwords.1, h.flatMap_word hwords.2, h.keeps.flatMap_listed]
    simp only [List.map_cons] at hkeys
    rw [hkeys]

theorem map_countClause (h : Carries u g s table f o) (word : Keyword) (count : Option UInt64)
    (hw : count.toList.map (fun _ => word) ⊆ o.clauseWords) :
    (count.toList.map (Options.countClause word)).map (List.flatMap u) =
      count.toList.map (Options.countClause word) := by
  cases count with
  | none => rfl
  | some n =>
    have hword : word ∈ o.clauseWords := hw (List.mem_singleton_self word)
    simp only [Option.toList_some, List.map_cons, List.map_nil, Options.countClause,
      h.keeps.flatMap_spaced, h.flatMap_word hword, h.keeps.flatMap_param, id]

theorem clauses_eq (h : Carries u g s table f o) (hg : Translates g s t) :
    o.clauses t = (o.clauses s).map (List.map (List.flatMap u)) := by
  unfold Options.clauses
  cases hl : Options.pagingClause .limit .LIMIT o.limit with
  | error e => rfl
  | ok limit =>
    cases hk : Options.pagingClause .skip .OFFSET o.skip with
    | error e => rfl
    | ok skip =>
      obtain ⟨rfl, -⟩ := Options.pagingClause_ok hl
      obtain ⟨rfl, -⟩ := Options.pagingClause_ok hk
      have hlimit := h.map_countClause .LIMIT o.limit (by simp [Options.clauseWords])
      have hskip := h.map_countClause .OFFSET o.skip (by simp [Options.clauseWords])
      simp only [Except.map, List.map_append, h.map_orderClause hg, hlimit, hskip]

/-- The query under the other schema is what the rewriting makes of it, or it fails alike. -/
theorem selectTokens_eq (h : Carries u g s table f o) (hg : Translates g s t) :
    t.selectTokens table f o = (s.selectTokens table f o).map (List.flatMap u) := by
  unfold selectTokens selectClauses Filter.tokens
  rw [hg.condition_eq, h.clauses_eq hg]
  cases hc : f.condition s .document with
  | error e => rfl
  | ok c =>
    cases hs : o.clauses s with
    | error e => rfl
    | ok cs =>
      have hword (k : Keyword) (hk : k.isClause = false) : [Token.keyword k].flatMap
          u = [.keyword k] :=
        h.keeps.flatMap_fixed (by simp [Token.isFixed, hk])
      have htable : [Token.identifier table].flatMap u = [.identifier table] := by
        rw [List.flatMap_singleton, h.table]
      have hcondition : c.tokens.flatMap u = (c.map g id).tokens := by
        apply Sql.Condition.flatMap_tokens h.keeps
        intro r hr
        rcases Filter.references_condition hc r hr with ⟨p, hp, rfl⟩ | ⟨depth, rfl⟩
        · exact h.reads p (List.mem_append_left _ hp)
        · rw [hg.element]
          exact Reference.rewrites_self h.keeps (by simp [Reference.names])
      simp only [Except.map, h.keeps.flatMap_spaced, List.map_append, List.map_cons, List.map_nil,
        hword .SELECT rfl, hword .FROM rfl, hword .WHERE rfl, htable, hcondition,
        h.flatMap_projectionTokens hg]

end Carries

theorem Translates.refl (s : Schema) : Translates id s s where
  bodyColumn := rfl
  objection? := fun _ _ _ => rfl
  resolveIn := fun _ _ => rfl
  element := fun _ => rfl

/-- What can stand in a query: fixed tokens and placeholders, the words of its clauses, the table,
the body column, the projected names, and the columns and the paths of the names that it reads. -/
inductive Writes (s : Schema) (table : String) (f : Filter) (o : Options) : Token → Prop
  | fixed {t : Token} (h : t.isFixed = true) : Writes s table f o t
  | placeholder (p : Sql.Param) : Writes s table f o (.param p)
  | word {k : Keyword} (h : k ∈ o.clauseWords) : Writes s table f o (.keyword k)
  | table : Writes s table f o (.identifier table)
  | body : Writes s table f o (.body s.bodyColumn)
  | projected {name : String} (h : name ∈ o.projection.getD []) : Writes s table f o (.string name)
  | column {field : Field} (hi : field.indexed = true) (hf : s.field? field.name = some field)
      (hr : (.document, field.name) ∈ queryReads f o) : Writes s table f o (.generated field.column)
  | declared {field : Field} (hf : s.field? field.name = some field)
      (hr : (.document, field.name) ∈ queryReads f o) : Writes s table f o (.string field.path)
  | undeclared {name : String} (hf : s.field? name = none)
      (hr : (.document, name) ∈ queryReads f o) :
      Writes s table f o (.string (Path.ofField name))
  | relative {depth : Nat} {name : String} (hr : (.element depth, name) ∈ queryReads f o) :
      Writes s table f o (.string (Path.ofField name))

/-- The names of a reference can stand in the queries that read it. -/
theorem writes_names {s : Schema} (table : String) {f : Filter} {o : Options} {root : Root}
    {name : String} (hr : (root, name) ∈ queryReads f o) :
    ∀ t ∈ (s.resolveIn root name).names, s.Writes table f o t := by
  intro t ht
  cases root with
  | document =>
    cases hf : s.field? name with
    | none =>
      simp only [resolveIn, resolve, hf, Reference.names, List.mem_cons, List.not_mem_nil,
        or_false] at ht
      rcases ht with rfl | rfl
      · exact .body
      · exact .undeclared hf hr
    | some field =>
      obtain ⟨-, rfl⟩ := field?_name hf
      cases hi : field.indexed with
      | true =>
        simp only [resolveIn, resolve, hf, referenceTo, hi, if_true, Reference.names, List.mem_cons,
          List.not_mem_nil, or_false] at ht
        rcases ht with rfl | rfl | rfl
        · exact .column hi hf hr
        · exact .body
        · exact .declared hf hr
      | false =>
        simp only [resolveIn, resolve, hf, referenceTo, hi, Bool.false_eq_true, if_false,
          Reference.names, List.mem_cons, List.not_mem_nil, or_false] at ht
        rcases ht with rfl | rfl
        · exact .body
        · exact .declared hf hr
  | element depth =>
    simp only [resolveIn, resolveElement] at ht
    split at ht
    · simp [Reference.names] at ht
    · simp only [Reference.names, List.mem_singleton] at ht
      exact ht ▸ .relative hr

open Classical in
theorem writes_of_selectTokens {s : Schema} {table : String} {f : Filter} {o : Options}
    {ts : List Token} (h : s.selectTokens table f o = .ok ts) : ∀ t ∈ ts, s.Writes table f o t := by
  -- the rewriting that drops whatever cannot stand in a query does not change it
  let u : Token → List Token := fun t => if s.Writes table f o t then [t] else []
  have hu {t : Token} (ht : s.Writes table f o t) : u t = [t] := if_pos ht
  have hkeeps : Keeps u id := ⟨fun t ht => hu (.fixed ht), fun p => hu (.placeholder p)⟩
  have hcarries : Carries u id s table f o := {
    keeps := hkeeps
    word := fun k hk => hu (.word hk)
    table := hu .table
    body := hu .body
    projected := fun name hn => hu (.projected hn)
    reads := fun p hp => Reference.rewrites_self hkeeps fun t ht =>
      hu (writes_names table hp t ht) }
  have heq := hcarries.selectTokens_eq (Translates.refl s)
  rw [h, Except.map, Except.ok.injEq] at heq
  intro t ht
  rw [heq, List.mem_flatMap] at ht
  obtain ⟨a, -, ha⟩ := ht
  by_cases hw : s.Writes table f o a
  · rw [hu hw, List.mem_singleton] at ha
    exact ha ▸ hw
  · simp [u, if_neg hw] at ha

end Schema

end DocumentQuery
