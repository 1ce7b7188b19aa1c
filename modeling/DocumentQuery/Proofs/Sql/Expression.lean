import DocumentQuery.Value

/-!
# Boolean expressions and their truth values

The structure that a text of SQL has for the database, and its value in three-valued logic. What an
atomic predicate or a table of elements stands for is left to an interpretation, which sees its
text, the values of its placeholders and the elements that the aliases around it are bound to.
-/

namespace DocumentQuery.Sql

universe u

inductive Truth
  | yes
  | no
  | null
  deriving DecidableEq, Repr

namespace Truth

def ofBool : Bool → Truth
  | true => .yes
  | false => .no

def not : Truth → Truth
  | .yes => .no
  | .no => .yes
  | .null => .null

def and : Truth → Truth → Truth
  | .no, _ => .no
  | _, .no => .no
  | .yes, .yes => .yes
  | _, _ => .null

def or : Truth → Truth → Truth
  | .yes, _ => .yes
  | _, .yes => .yes
  | .no, .no => .no
  | _, _ => .null

/-- Whether a condition is true of some element; it never is null. -/
def some {E : Type u} (elements : List E) (condition : E → Truth) : Truth :=
  ofBool (elements.any fun x => condition x == .yes)

def all : List Truth → Truth
  | [] => .yes
  | t :: rest => t.and (all rest)

def any : List Truth → Truth
  | [] => .no
  | t :: rest => t.or (any rest)

@[simp] theorem and_yes (t : Truth) : t.and .yes = t := by cases t <;> rfl

@[simp] theorem or_no (t : Truth) : t.or .no = t := by cases t <;> rfl

end Truth

/-- The elements that aliases are bound to. -/
abbrev Binding (E : Type u) : Type u := String → Option E

/-- The binding with an alias bound to an element. -/
def Binding.set {E : Type u} (β : Binding E) (name : String) (x : E) : Binding E :=
  fun other => if other = name then Option.some x else β other

/-- What atomic predicates and tables of elements stand for, each given by its text and the values
of its placeholders. -/
structure Interpretation (E : Type u) where
  atom : String → List Value → Binding E → Truth
  elements : String → List Value → Binding E → List E

/-- A Boolean expression of SQL. -/
inductive Expr
  | constant (truth : Bool)
  | atom (text : String) (values : List Value)
  | not (operand : Expr)
  | and (left right : Expr)
  | or (left right : Expr)
  /-- Some element of a table, under an alias, meets the condition. -/
  | some (table : String) (values : List Value) (name : String) (condition : Expr)
  deriving Repr

def Expr.eval {E : Type u} (I : Interpretation E) : Expr → Binding E → Truth
  | .constant truth, _ => .ofBool truth
  | .atom text values, β => I.atom text values β
  | .not e, β => (e.eval I β).not
  | .and e f, β => (e.eval I β).and (f.eval I β)
  | .or e f, β => (e.eval I β).or (f.eval I β)
  | .some table values name condition, β =>
    .some (I.elements table values β) fun x => condition.eval I (β.set name x)

end DocumentQuery.Sql
