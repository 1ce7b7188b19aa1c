import DocumentQuery.Command.Line
import DocumentQuery.Filter.Shape
import DocumentQuery.Sql.Statement
import DocumentQuery.Toon

/-!
# Reports

What a command answers, and the three forms in which it is shown: a text for people, JSON, and the
token-oriented notation of the same JSON.
-/

namespace DocumentQuery.Command

open Sql (Statement Slot)

inductive Clause
  | where
  | options
  | select
  deriving DecidableEq, Repr

def Clause.name : Clause → String
  | .where => "where"
  | .options => "options"
  | .select => "select"

/-- A part of a query with its SQL. -/
structure Fragment where
  clause : Clause
  statement : Statement
  deriving Repr

/-- The answer to a request for SQL. -/
structure CompileReport where
  collection : String
  fragments : List Fragment
  deriving Repr

/-- Why the template of a filter is not kept. -/
inductive NotCached
  | schema
  | elemMatch
  | disabled
  deriving DecidableEq, Repr

def NotCached.message : NotCached → String
  | .schema => "schema is marked non-cacheable"
  | .elemMatch => "filter contains $elemMatch"
  | .disabled => "cache is disabled"

/-- The answer to a request for a shape. -/
structure ShapeReport where
  collection : String
  shape : UInt64
  obstacle : Option NotCached
  /-- Whether the template is in the cache. -/
  cached : Bool
  slots : List Slot
  deriving Repr

/-- The answer to a request for the tables and indexes of a collection. -/
structure DdlReport where
  collection : String
  statements : List String
  deriving Repr

inductive Report
  | compile (r : CompileReport)
  | shape (r : ShapeReport)
  | ddl (r : DdlReport)
  deriving Repr

def countJson (n : Nat) : Json :=
  if h : Json.FitsWord n then .number (.integer n h) else .null

def Fragment.toJson (f : Fragment) : Json :=
  .object [("clause", .string f.clause.name), ("sql", .string f.statement.sql),
    ("params", .array (f.statement.params.map Value.toJson)),
    ("param_types", .array (f.statement.params.map fun v => .string v.typeName))]

def Report.toJson : Report → Json
  | .compile r =>
    .object [("collection", .string r.collection),
      ("fragments", .array (r.fragments.map Fragment.toJson))]
  | .shape r =>
    .object (("collection", .string r.collection) ::
      ("shape", .string (Filter.shapeText r.shape)) :: ("cacheable", .bool r.obstacle.isNone) ::
      ((match r.obstacle with
        | some o => [("reason", .string o.message)]
        | none => []) ++
      [("cached", .bool r.cached), ("param_count", countJson r.slots.length),
        ("slots", .array (r.slots.map fun s => .string s.name))]))
  | .ddl r =>
    .object [("collection", .string r.collection),
      ("statements", .array (r.statements.map .string))]

def yesNo (b : Bool) : String := if b then "yes" else "no"

/-- The lines of a part of a query: an empty one, its name, and its SQL. -/
def Fragment.lines (f : Fragment) : List String :=
  ["", "[" ++ f.clause.name ++ "]", f.statement.explain]

/-- The report as a text for people. -/
def Report.table : Report → String
  | .compile r =>
    String.intercalate "\n" (("Collection: " ++ r.collection) :: r.fragments.flatMap Fragment.lines)
  | .shape r =>
    let cacheable := match r.obstacle with
      | none => yesNo true
      | some o => yesNo false ++ " (" ++ o.message ++ ")"
    String.intercalate "\n" ["Collection: " ++ r.collection, "Shape: " ++ Filter.shapeText r.shape,
      "Cacheable: " ++ cacheable, "Cached: " ++ yesNo r.cached,
      "Parameters: " ++ Sql.describeSlots r.slots]
  | .ddl r =>
    match r.statements with
    | [] => ""
    | statements => String.intercalate ";\n\n" statements ++ ";"

def Report.show (r : Report) : OutputFormat → String
  | .table => r.table
  | .json => r.toJson.prettyText
  | .toon => Toon.encode r.toJson

end DocumentQuery.Command
