import DocumentQuery.Proofs.Filter.Expression
import DocumentQuery.Proofs.Filter.Values

/-!
# What filters mean

The truth value of a filter is computed on the filter itself, from the truth values of its tests and
from the elements of the arrays it looks into. The text that a filter becomes has the same value
when it is parsed and evaluated as SQL, whatever its tests stand for.
-/

namespace DocumentQuery

open Sql

universe u

variable {E : Type u} (I : Interpretation E)

/-- The truth value of several operands. A disjunction of none is true, against the rule. -/
def Connective.meaning : Connective → List Truth → Truth
  | .and, ts => .all ts
  | .or, [] => .yes
  | .or, ts => .any ts
  | .nor, ts => (Truth.any ts).not
  | .not, ts => (Truth.all ts).not

/-- The truth value of a test of a field. Only membership is not one atomic predicate: nothing is in
an empty list, and to have all of several values is that for each of them some element equals it. -/
def Test.meaning (r : Reference) (depth : Nat) (β : Binding E) : Test → Truth
  | .member .oneOf [] => .no
  | .member .noneOf [] => .yes
  | .member .all vs =>
    .all (vs.map fun v => .some (I.elements (text r.each) [] β) fun x =>
      I.atom (text ((Test.compare .eq v).condition (.element depth) depth).tokens) [v]
        (β.set (elementAlias depth) x))
  | t => I.atom (text (t.condition r depth).tokens) (t.params.map Param.value) β

namespace Filter

mutual

/-- The truth value of a filter of a root. -/
def meaning (s : Schema) : Filter → Root → Binding E → Truth
  | .everything, _, _ => .yes
  | .logical k operands, root, β => k.meaning (meanings s operands root β)
  | .test path t, root, β => t.meaning I (s.resolveIn root path) root.nextDepth β
  | .elemMatch path inner, root, β =>
    .some (I.elements (text (s.resolveIn root path).each) [] β) fun x =>
      meaning s inner (.element root.nextDepth) (β.set (elementAlias root.nextDepth) x)

def meanings (s : Schema) : List Filter → Root → Binding E → List Truth
  | [], _, _ => []
  | f :: rest, root, β => meaning s f root β :: meanings s rest root β

end

end Filter

namespace Sql

theorem eval_joined_and (es : List Expr) (β : Binding E) :
    (Expr.joined .and es).eval I β = .all (es.map fun e => e.eval I β) := by
  induction es with
  | nil => rfl
  | cons e rest ih =>
    cases rest with
    | nil => exact (Truth.and_yes _).symm
    | cons f rest =>
      rw [Expr.joined, Expr.eval, ih]
      rfl

theorem eval_joined_or {es : List Expr} (hne : es ≠ []) (β : Binding E) :
    (Expr.joined .or es).eval I β = .any (es.map fun e => e.eval I β) := by
  induction es with
  | nil => exact absurd rfl hne
  | cons e rest ih =>
    cases rest with
    | nil => exact (Truth.or_no _).symm
    | cons f rest =>
      rw [Expr.joined, Expr.eval, ih (List.cons_ne_nil f rest)]
      rfl

end Sql

theorem Test.eval_condition (t : Test) (r : Reference) (depth : Nat) (β : Binding E) :
    (t.condition r depth).expr.eval I β = t.meaning I r depth β := by
  match t with
  | .compare c v => rfl
  | .member .oneOf [] | .member .oneOf (_ :: _) => rfl
  | .member .noneOf [] | .member .noneOf (_ :: _) => rfl
  | .member .all vs =>
    rw [condition, Condition.expr, eval_joined_and, Condition.exprs_eq_map, List.map_map,
      List.map_map]
    rfl
  | .pattern p s => rfl
  | .size n => rfl
  | .present expected => rfl

theorem Connective.eval_join? {k : Connective} {cs : List Condition} {c : Condition}
    (h : k.join? cs = some c) (β : Binding E) :
    c.expr.eval I β = k.meaning ((Condition.exprs cs).map fun e => e.eval I β) := by
  match k, cs with
  | .and, cs =>
    obtain rfl := Option.some.inj h
    exact eval_joined_and I _ β
  | .or, [] =>
    obtain rfl := Option.some.inj h
    rfl
  | .or, d :: ds =>
    obtain rfl := Option.some.inj h
    exact eval_joined_or I (List.cons_ne_nil _ _) β
  | .nor, [] =>
    obtain rfl := Option.some.inj h
    rfl
  | .nor, d :: ds =>
    obtain rfl := Option.some.inj h
    exact congrArg Truth.not (eval_joined_or I (List.cons_ne_nil _ _) β)
  | .not, [d] =>
    obtain rfl := Option.some.inj h
    exact congrArg Truth.not (Truth.and_yes _).symm

namespace Filter

/-- The condition that a filter makes has the value of the filter. -/
theorem eval_condition {s : Schema} {root : Root} {f : Filter} {c : Condition}
    (h : f.condition s root = .ok c) (β : Binding E) : c.expr.eval I β = f.meaning I s root β := by
  have step : Inductive s
      (fun root f c => ∀ β : Binding E, c.expr.eval I β = f.meaning I s root β)
      (fun root fs cs => ∀ β : Binding E,
        (Condition.exprs cs).map (fun e => e.eval I β) = meanings I s fs root β) := {
    everything := fun _ _ => rfl
    logical := fun root k fs cs c hcs hj β => by
      rw [meaning, ← hcs, Connective.eval_join? I hj]
    test := fun root path t _ β => by rw [meaning, t.eval_condition]
    elemMatch := fun root path inner c hc β => by
      simp only [meaning, ← hc]
      rfl
    nil := fun _ _ => rfl
    cons := fun root f fs c cs hc hcs β => by
      rw [meanings, ← hc, ← hcs, Condition.exprs, List.map_cons] }
  exact step.holds root f h β

/-- The statement of a filter is parsed as an expression that has the value of the filter under
every interpretation. -/
theorem eval_parse_compile {d : Declaration} {s : Schema} (hs : d.build = .ok s) {f : Filter}
    {q : Statement} (hq : f.compile s = .ok q) :
    ∃ e, Sql.parse q = some e ∧ ∀ {E : Type u} (I : Interpretation E) (β : Binding E),
      e.eval I β = f.meaning I s .document β := by
  obtain ⟨c, hc, hparse⟩ := parse_compile hs hq
  exact ⟨c.expr, hparse, fun I β => eval_condition I hc β⟩

/-- A collection with one generated column, and a body column that is a word of SQL. -/
def staff : Declaration where
  collection := "staff"
  bodyColumn := "or"
  fields := [{ name := "age", type := .integer, indexed := true }]

/-- Every connective, one of them with a single operand, an array in an array and an empty list. -/
def seniorStaff : Filter :=
  .logical .not [.logical .or [.test "age" (.compare .lt (.integer 18)),
    .logical .and [
      .elemMatch "jobs" (.logical .or [.test "title" (.pattern .contains "AND"),
        .test "tags" (.member .all [.text "a", .text "b"])]),
      .logical .nor [.test "name" (.member .oneOf [])]]]]

def seniorStaffText : String :=
  "NOT ((_idx_age < ? OR (EXISTS (SELECT 1 FROM json_each(or, '$.jobs') AS _e1 WHERE " ++
    "(json_extract(_e1.value, '$.title') LIKE ? OR " ++
    "(EXISTS (SELECT 1 FROM json_each(_e1.value, '$.tags') AS _e2 WHERE _e2.value = ?) AND " ++
    "EXISTS (SELECT 1 FROM json_each(_e1.value, '$.tags') AS _e2 WHERE _e2.value = ?)))) AND " ++
    "NOT (0=1))))"

theorem eval_parse_compile_seniorStaff :
    ∃ s q e, staff.build = .ok s ∧ seniorStaff.compile s = .ok q ∧ q.sql = seniorStaffText ∧
      Sql.parse q = some e ∧ ∀ (I : Interpretation Nat) (β : Binding Nat),
        e.eval I β = seniorStaff.meaning I s .document β := by
  have hok : staff.build.toOption.bind
    (fun s => (seniorStaff.compile s).toOption.map Statement.sql) =
      some seniorStaffText := by decide +kernel
  obtain ⟨s, q, hs, hq, htext⟩ := exists_of_compile hok
  obtain ⟨e, he, heval⟩ := eval_parse_compile hs hq
  exact ⟨s, q, e, hs, hq, htext, he, fun I β => heval I β⟩

end Filter

end DocumentQuery
