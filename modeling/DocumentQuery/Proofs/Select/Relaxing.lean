import DocumentQuery.Proofs.Filter.Reads
import DocumentQuery.Select

/-!
# Schemas that read alike

The options of a query and what it returns depend on a schema only through its body column and
through where it reads names. A filter depends on it also through the operators that the schema
refuses. So where one schema reads as another does and refuses no more, every query of the other is
a query of it, with the same text and values.
-/

namespace DocumentQuery

open Sql (Condition Statement)

namespace Schema

/-- The second schema reads every name as the first one does. -/
structure ReadsAlike (s t : Schema) : Prop where
  bodyColumn : t.bodyColumn = s.bodyColumn
  resolveIn : ∀ root name, t.resolveIn root name = s.resolveIn root name

namespace ReadsAlike

variable {s t : Schema}

theorem resolve_eq (h : ReadsAlike s t) (name : String) : t.resolve name = s.resolve name :=
  h.resolveIn .document name

theorem sortTokens_eq (h : ReadsAlike s t) : Options.sortTokens t = Options.sortTokens s := by
  funext k
  rw [Options.sortTokens, Options.sortTokens, h.resolve_eq]

theorem orderClause_eq (h : ReadsAlike s t) (keys : List SortKey) :
    Options.orderClause t keys = Options.orderClause s keys := by
  cases keys with
  | nil => rfl
  | cons k rest => rw [Options.orderClause.eq_2 t _ (List.cons_ne_nil k rest),
      Options.orderClause.eq_2 s _ (List.cons_ne_nil k rest), h.sortTokens_eq]

theorem options_eq (h : ReadsAlike s t) (o : Options) : o.compile t = o.compile s := by
  have hclauses : o.clauses t = o.clauses s := by
    simp only [Options.clauses, h.orderClause_eq]
  rw [Options.compile, Options.compile, Options.tokens, Options.tokens, hclauses]

theorem projectionTokens_eq (h : ReadsAlike s t) (o : Options) :
    o.projectionTokens t = o.projectionTokens s := by
  simp only [Options.projectionTokens, h.bodyColumn, h.resolve_eq]

theorem assembleSelect_eq (h : ReadsAlike s t) (table : String) (condition : Statement)
    (o : Options) :
    t.assembleSelect table condition o = s.assembleSelect table condition o := by
  rw [assembleSelect, assembleSelect, h.options_eq, h.projectionTokens_eq]

/-- If a filter has the same condition or the same violation under both, then so have the
queries. -/
theorem compileSelect_eq (h : ReadsAlike s t) {f : Filter} (hf : f.compile t = f.compile s)
    (table : String) (o : Options) : t.compileSelect table f o = s.compileSelect table f o := by
  simp only [compileSelect, hf, h.assembleSelect_eq]

end ReadsAlike

/-- The second schema reads as the first one does, and admits every operator that the first
admits. -/
structure Relaxes (s t : Schema) : Prop extends ReadsAlike s t where
  admits : ∀ root name op, s.objection? root name op = none → t.objection? root name op = none

namespace Relaxes

variable {s t : Schema}

theorem testObjection? (h : Relaxes s t) {root : Root} {name : String} {u : Test}
    (hu : u.objection? s root name = none) : u.objection? t root name = none := by
  unfold Test.objection? at hu ⊢
  cases hn : u.negativeLength? with
  | some n => simp [hn] at hu
  | none =>
    simp only [hn] at hu
    exact h.admits root name u.operator hu

mutual

theorem condition_ok (h : Relaxes s t) (root : Root) (f : Filter) {c : Condition}
    (hc : f.condition s root = .ok c) : f.condition t root = .ok c := by
  match f with
  | .everything => exact hc
  | .logical k operands =>
    obtain ⟨cs, hcs, hjoin⟩ := Filter.condition_logical_ok hc
    exact Filter.condition_logical_of_join (h.conditions_ok root operands hcs) hjoin
  | .test name u =>
    obtain ⟨hu, rfl⟩ := Filter.condition_test_ok hc
    simp only [Filter.condition, h.testObjection? hu, h.resolveIn]
  | .elemMatch name inner =>
    obtain ⟨ho, d, hd, rfl⟩ := Filter.condition_elemMatch_ok hc
    simp only [Filter.condition, h.admits root name .elemMatch ho,
      h.condition_ok (.element root.nextDepth) inner hd, h.resolveIn, Except.map]

theorem conditions_ok (h : Relaxes s t) (root : Root) (fs : List Filter) {cs : List Condition}
    (hcs : Filter.conditions s root fs = .ok cs) : Filter.conditions t root fs = .ok cs := by
  match fs with
  | [] => exact hcs
  | f :: rest =>
    obtain ⟨c, ds, hc, hds, rfl⟩ := Filter.conditions_cons_ok hcs
    simp only [Filter.conditions, h.condition_ok root f hc, h.conditions_ok root rest hds,
      Except.map]

end

theorem compileSelect_ok (h : Relaxes s t) {table : String} {f : Filter} {o : Options}
    {q : Statement} (hq : s.compileSelect table f o = .ok q) :
    t.compileSelect table f o = .ok q := by
  cases hc : f.condition s .document with
  | error e => simp [compileSelect, Filter.compile, Filter.tokens, hc, Except.map] at hq
  | ok c =>
    have hf : f.compile t = f.compile s := by
      simp only [Filter.compile, Filter.tokens, hc, h.condition_ok .document f hc]
    rw [h.compileSelect_eq hf, hq]

end Relaxes

end Schema

end DocumentQuery
