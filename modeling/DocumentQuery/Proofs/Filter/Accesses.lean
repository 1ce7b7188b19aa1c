import DocumentQuery.Proofs.Filter.Expression
import DocumentQuery.Proofs.Filter.Visits
import DocumentQuery.Proofs.Sql.ColumnUse

/-!
# What the statement of a filter reads

The statement of a filter is gone through text by text: the atomic predicates and the sources that
subqueries iterate over, each with the aliases of the subqueries around it and the columns that it
reads. These are the accesses of the parts of the filter in their order. A part of the filter on
documents reads columns of the row, and a part of a filter on array elements reads the elements.
-/

namespace DocumentQuery

open Sql

namespace Sql

/-- A text of an expression with the columns that it reads, which are unknown if it has an open
quote. -/
structure Access where
  /-- The aliases of the subqueries around the text, from the outermost one on. -/
  scope : List String
  /-- The alias of the elements if the text is the source of a subquery. -/
  introduces : Option String := none
  uses : Option (List ColumnUse)
  deriving DecidableEq, Repr

/-- The aliases of nested subqueries, down to the one that iterates over the text. -/
def Access.chain (x : Access) : List String := x.scope ++ x.introduces.toList

/-- The predicates and sources of an expression, from left to right. -/
def Expr.accesses (scope : List String) : Expr → List Access
  | .constant _ => []
  | .atom text _ => [{ scope, uses := columnUses text }]
  | .not e => e.accesses scope
  | .and e f => e.accesses scope ++ f.accesses scope
  | .or e f => e.accesses scope ++ f.accesses scope
  | .some table _ name condition =>
    { scope, introduces := name, uses := columnUses table } :: condition.accesses (scope ++ [name])

/-- The aliases of so many nested subqueries. -/
def aliases (depth : Nat) : List String := (List.range depth).map fun i => elementAlias (i + 1)

theorem aliases_succ (depth : Nat) :
    aliases (depth + 1) = aliases depth ++ [elementAlias (depth + 1)] := by
  simp [aliases, List.range_succ]

theorem accesses_joined {join : Expr → Expr → Expr} (scope : List String)
    (h : ∀ e f, (join e f).accesses scope = e.accesses scope ++ f.accesses scope) (es : List Expr) :
    (Expr.joined join es).accesses scope = es.flatMap (Expr.accesses scope) := by
  induction es with
  | nil => rfl
  | cons e rest ih =>
    cases rest with
    | nil => exact (List.flatMap_singleton ..).symm
    | cons f rest =>
      rw [Expr.joined, h, ih]
      rfl

end Sql

namespace Reference

/-- The column that the path of the field is followed from. -/
def placeUse : Reference → ColumnUse
  | .column _ body _ => .bare body
  | .extract (.body name) _ => .bare name
  | .extract (.element depth) _ => .qualified (elementAlias depth) "value"
  | .element depth => .qualified (elementAlias depth) "value"

def valueUse : Reference → ColumnUse
  | .column name _ _ => .bare name
  | r => r.placeUse

def typeUse : Reference → ColumnUse
  | .element depth => .qualified (elementAlias depth) "type"
  | r => r.placeUse

/-- The columns that a text about the field may read. -/
def columnUses (r : Reference) : List ColumnUse := [r.placeUse, r.valueUse, r.typeUse]

variable {r : Reference}

theorem placeUse_mem : r.placeUse ∈ r.columnUses := by simp [columnUses]

theorem valueUse_mem : r.valueUse ∈ r.columnUses := by simp [columnUses]

theorem typeUse_mem : r.typeUse ∈ r.columnUses := by simp [columnUses]

theorem isOperand_body {name : String} (h : isPlainIdentifier name.toList = true) :
    IsOperand [.body name] [.bare name] := by
  have hword := IsOperand.word (t := .body name) rfl h
  rwa [Token.chars, String.ofList_toList] at hword

theorem isOperand_callOn (h : r.isPlain = true) (f : Sql.Function) :
    IsOperand (r.callOn f) [r.placeUse] := by
  match r with
  | .column name body path =>
    simp only [isPlain, Bool.and_eq_true] at h
    exact (isOperand_body h.2).callPath f path
  | .extract (.body name) path => exact (isOperand_body h).callPath f path
  | .extract (.element depth) path => exact (IsOperand.elementColumn depth .value).callPath f path
  | .element depth => exact (IsOperand.elementColumn depth .value).call f

theorem isOperand_value (h : r.isPlain = true) : IsOperand r.value [r.valueUse] := by
  match r with
  | .column name body path =>
    simp only [isPlain, Bool.and_eq_true] at h
    have hname := isPlainIdentifier_of_isName (isName_of_isColumnName h.1)
    have hword := IsOperand.word (t := .generated name) rfl hname
    rwa [Token.chars, String.ofList_toList] at hword
  | .extract source path => exact isOperand_callOn (r := .extract source path) h .extract
  | .element depth => exact IsOperand.elementColumn depth .value

theorem isOperand_typeOf (h : r.isPlain = true) : IsOperand r.typeOf [r.typeUse] := by
  match r with
  | .column name body path => exact isOperand_callOn (r := .column name body path) h .typeOf
  | .extract source path => exact isOperand_callOn (r := .extract source path) h .typeOf
  | .element depth => exact IsOperand.elementColumn depth .type

/-- The source of a subquery reads the column that the array is found in. -/
theorem columnUses_each (h : r.isPlain = true) :
    Sql.columnUses (text r.each) = some [r.placeUse] := by
  have htail : IsTail [] := ⟨rfl, rfl⟩
  have hread := columnUses_text (isOperand_callOn h .each) htail
  rw [List.append_nil] at hread
  exact hread (tidy_callOn h .each)

end Reference

/-- How a predicate at a depth reads a column. -/
def readOf (depth : Nat) (u : ColumnUse) : Access := { scope := aliases depth, uses := some [u] }

/-- How a subquery at a depth reads the array that it goes through. -/
def sourceOf (depth : Nat) (r : Reference) : Access :=
  { scope := aliases depth, introduces := elementAlias (depth + 1), uses := some [r.placeUse] }

/-- How the items of an array are compared inside the subquery at a depth that goes through them. -/
def probe (depth : Nat) : Access :=
  readOf (depth + 1) (.qualified (elementAlias (depth + 1)) "value")

/-- The accesses of a test of a field at a depth. -/
def Test.accesses (r : Reference) (depth : Nat) : Test → List Access
  | .member .oneOf [] => []
  | .member .noneOf [] => []
  | .member .all vs => vs.flatMap fun _ => [sourceOf depth r, probe depth]
  | .size _ => [readOf depth r.placeUse]
  | .present _ => [readOf depth r.typeUse]
  | _ => [readOf depth r.valueUse]

/-- The accesses of a part of a filter at a depth, without those of the parts that it is made of. -/
def accessesAt (s : Schema) : Nat × Filter → List Access
  | (_, .everything) => []
  | (_, .logical _ _) => []
  | (depth, .test path t) => t.accesses (s.resolveIn (.ofDepth depth) path) depth
  | (depth, .elemMatch path _) => [sourceOf depth (s.resolveIn (.ofDepth depth) path)]

/-- Whether the part itself goes through the items of an array. -/
def Filter.iterates : Filter → Bool
  | .elemMatch _ _ => true
  | .test _ (.member .all (_ :: _)) => true
  | _ => false

theorem accesses_atom (c : Condition) {operand tail : List Token} {u : ColumnUse}
    (he : c.expr = .atom (text c.tokens) (c.params.map Param.value))
    (ht : c.tokens = operand ++ [.blank] ++ tail) (hc : c.isPlain = true)
    (hoperand : IsOperand operand [u]) (htail : IsTail (.blank :: tail)) (scope : List String) :
    c.expr.accesses scope = [{ scope, uses := some [u] }] := by
  have htidy := Condition.tidy_tokens hc
  rw [List.append_assoc, List.singleton_append] at ht
  rw [ht] at htidy
  rw [he, Expr.accesses, ht, columnUses_text hoperand htail htidy]

theorem Test.accesses_condition {r : Reference} (h : r.isPlain = true) (t : Test) (depth : Nat) :
    (t.condition r (depth + 1)).expr.accesses (aliases depth) = t.accesses r depth := by
  have hvalue := Reference.isOperand_value h
  match t with
  | .compare c v => exact accesses_atom (.compare r c _) rfl rfl h hvalue (.comparison c _) _
  | .member .oneOf [] | .member .noneOf [] => rfl
  | .member .oneOf (v :: vs) =>
    exact accesses_atom (.among r false _) rfl rfl h hvalue (.among false _) _
  | .member .noneOf (v :: vs) =>
    exact accesses_atom (.among r true _) rfl rfl h hvalue (.among true _) _
  | .member .all vs =>
    have hprobe (v : Value) :
      (Condition.compare (.element (depth + 1)) .eq (literalParam v)).expr.accesses
        (aliases (depth + 1)) = [probe depth] :=
      accesses_atom _ rfl rfl rfl (IsOperand.elementColumn (depth + 1) .value) (.comparison .eq _) _
    rw [condition, Condition.expr, accesses_joined _ fun _ _ => rfl, Condition.exprs_eq_map,
      List.map_map, List.flatMap_map, accesses]
    refine congrArg (List.flatMap · vs) (funext fun v => ?_)
    rw [Function.comp_apply, Condition.expr, Expr.accesses, ← aliases_succ, hprobe,
      Reference.columnUses_each h]
    rfl
  | .pattern p s => exact accesses_atom (.like r _ _) rfl rfl h hvalue (.like _ _) _
  | .size n =>
    exact accesses_atom (.lengthIs r _) rfl rfl h (Reference.isOperand_callOn h .arrayLength)
      (.comparison .eq _) _
  | .present expected =>
    exact accesses_atom (.present r _) rfl rfl h (Reference.isOperand_typeOf h) (.isNull expected) _

theorem Connective.accesses_join? {k : Connective} {cs : List Condition} {c : Condition}
    (h : k.join? cs = some c) (scope : List String) :
    c.expr.accesses scope = (Condition.exprs cs).flatMap (Expr.accesses scope) := by
  have hand (cs : List Condition) : (Expr.joined .and (Condition.exprs cs)).accesses scope = _ :=
    accesses_joined scope (fun _ _ => rfl) _
  have hor (cs : List Condition) : (Expr.joined .or (Condition.exprs cs)).accesses scope = _ :=
    accesses_joined scope (fun _ _ => rfl) _
  have hnone (cs : List Condition) : (Condition.none cs).expr.accesses scope =
      (Condition.exprs cs).flatMap (Expr.accesses scope) := by
    cases cs with
    | nil => rfl
    | cons d ds => exact hor (d :: ds)
  have hnot (d : Condition) : (Condition.not d).expr.accesses scope =
      (Condition.exprs [d]).flatMap (Expr.accesses scope) :=
    (List.flatMap_singleton ..).symm
  exact eq_of_join? (g := fun c => c.expr.accesses scope) hand hor hnone hnot h

namespace Filter

variable {s : Schema}

/-- The condition of a filter has the accesses of its parts in their order. -/
theorem accesses_condition (hb : isPlainIdentifier s.bodyColumn.toList = true) (depth : Nat)
    {f : Filter} {c : Condition} (h : f.condition s (.ofDepth depth) = .ok c) :
    c.expr.accesses (aliases depth) = (f.visits depth).flatMap (accessesAt s) := by
  have step : Inductive s
      (fun root f c => ∀ depth, root = .ofDepth depth →
        c.expr.accesses (aliases depth) = (f.visits depth).flatMap (accessesAt s))
      (fun root fs cs => ∀ depth, root = .ofDepth depth →
        (Condition.exprs cs).flatMap (Expr.accesses (aliases depth)) =
          (visitsOfList depth fs).flatMap (accessesAt s)) := {
    everything := fun _ _ _ => rfl
    logical := fun _ k fs cs c hcs hj depth hroot => by
      rw [Connective.accesses_join? hj, hcs depth hroot, visits, List.flatMap_cons]
      rfl
    test := fun root path t _ depth hroot => by
      subst hroot
      have hplain := s.isPlain_resolveIn hb (.ofDepth depth) path
      rw [Root.nextDepth_ofDepth, t.accesses_condition hplain, visits, List.flatMap_singleton,
        accessesAt]
    elemMatch := fun root path inner c hc depth hroot => by
      subst hroot
      have hplain := s.isPlain_resolveIn hb (.ofDepth depth) path
      have hinner := hc (depth + 1) (by rw [Root.nextDepth_ofDepth, Root.ofDepth])
      rw [Condition.expr, Expr.accesses, Root.nextDepth_ofDepth, ← aliases_succ, hinner,
        Reference.columnUses_each hplain, visits, List.flatMap_cons]
      rfl
    nil := fun _ _ _ => rfl
    cons := fun _ f fs c cs hc hcs depth hroot => by
      rw [Condition.exprs, List.flatMap_cons, visitsOfList, List.flatMap_append, hc depth hroot,
        hcs depth hroot] }
  exact step.holds _ f h depth rfl

/-- The statement of a filter is parsed as an expression that has the accesses of the parts of the
filter. -/
theorem accesses_parse_compile {d : Declaration} (hs : d.build = .ok s) {f : Filter} {q : Statement}
    (hq : f.compile s = .ok q) :
    ∃ e, Sql.parse q = some e ∧ e.accesses [] = (f.visits 0).flatMap (accessesAt s) := by
  obtain ⟨c, hc, hparse⟩ := parse_compile hs hq
  exact ⟨c.expr, hparse, accesses_condition (Schema.plain_bodyColumn hs) 0 hc⟩

end Filter

namespace Schema

variable (s : Schema)

theorem placeUse_document (path : String) :
    (s.resolveIn .document path).placeUse = .bare s.bodyColumn := by
  rw [resolveIn]
  obtain ⟨f, hr⟩ | ⟨_, hr⟩ := s.resolve_cases path <;> rw [hr] <;> rfl

theorem placeUse_element (depth : Nat) (path : String) :
    (s.resolveIn (.element depth) path).placeUse = .qualified (elementAlias depth) "value" := by
  simp only [resolveIn, resolveElement]
  split <;> rfl

theorem bare_of_mem_columnUses {path : String} {u : ColumnUse}
    (hu : u ∈ (s.resolveIn .document path).columnUses) : ∃ column, u = .bare column := by
  have huses : ∃ column, (s.resolveIn .document path).columnUses =
      [.bare s.bodyColumn, .bare column, .bare s.bodyColumn] := by
    rw [resolveIn]
    obtain ⟨f, hr⟩ | ⟨_, hr⟩ := s.resolve_cases path <;> rw [hr] <;> exact ⟨_, rfl⟩
  obtain ⟨column, huses⟩ := huses
  rw [huses] at hu
  simp only [List.mem_cons, List.not_mem_nil, or_false] at hu
  rcases hu with rfl | rfl | rfl <;> exact ⟨_, rfl⟩

theorem qualified_of_mem_columnUses {depth : Nat} {path : String} {u : ColumnUse}
    (hu : u ∈ (s.resolveIn (.element depth) path).columnUses) :
    ∃ column ∈ ["value", "type"], u = .qualified (elementAlias depth) column := by
  have huses : (s.resolveIn (.element depth) path).columnUses = [.qualified
    (elementAlias depth) "value",
      .qualified (elementAlias depth) "value",
      .qualified (elementAlias depth) (if Path.isSelf path then "type" else "value")] := by
    simp only [resolveIn, resolveElement]
    split <;> rfl
  rw [huses] at hu
  simp only [List.mem_cons, List.not_mem_nil, or_false] at hu
  rcases hu with rfl | rfl | rfl
  · exact ⟨_, by simp, rfl⟩
  · exact ⟨_, by simp, rfl⟩
  · refine ⟨_, ?_, rfl⟩
    split <;> simp

end Schema

/-- With each text a part reads one column of the place where it is, apart from the comparisons with
the items of an array that a test for all of several values goes through. -/
theorem mem_accessesAt {s : Schema} {depth : Nat} {part : Filter} {x : Access}
    (h : x ∈ accessesAt s (depth, part)) :
    (∃ path, ∃ u ∈ (s.resolveIn (.ofDepth depth) path).columnUses, x = readOf depth u) ∨
      (part.iterates = true ∧ ∃ path, x = sourceOf depth (s.resolveIn (.ofDepth depth) path)) ∨
      ((∃ path vs, part = .test path (.member .all vs)) ∧ x = probe depth) := by
  match part with
  | .everything | .logical _ _ | .test _ (.member .oneOf []) | .test _ (.member .noneOf [])
  | .test _ (.member .all []) => cases h
  | .test path (.compare _ _) | .test path (.member .oneOf (_ :: _)) | .test path
      (.member .noneOf (_ :: _))
  | .test path (.pattern _ _) =>
    exact .inl ⟨path, _, Reference.valueUse_mem, List.mem_singleton.mp h⟩
  | .test path (.size _) => exact .inl ⟨path, _, Reference.placeUse_mem, List.mem_singleton.mp h⟩
  | .test path (.present _) => exact .inl ⟨path, _, Reference.typeUse_mem, List.mem_singleton.mp h⟩
  | .test path (.member .all (v :: vs)) =>
    obtain ⟨_, -, hx⟩ := List.mem_flatMap.mp h
    simp only [List.mem_cons, List.not_mem_nil, or_false] at hx
    rcases hx with rfl | rfl
    · exact .inr (.inl ⟨rfl, path, rfl⟩)
    · exact .inr (.inr ⟨⟨path, v :: vs, rfl⟩, rfl⟩)
  | .elemMatch path _ => exact .inr (.inl ⟨rfl, path, List.mem_singleton.mp h⟩)

end DocumentQuery
