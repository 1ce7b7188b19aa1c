import DocumentQuery.Filter.Compile
import DocumentQuery.Options.Clauses

/-!
# Whole queries

A query takes from a table what the options project of the documents that meet a condition. The
condition may come from anywhere, as long as it comes with its values; the values of the options
follow them.
-/

namespace DocumentQuery

open Sql (Statement)

namespace Schema

/-- The query for the documents that meet a condition. -/
def assembleSelect (s : Schema) (table : String) (condition : Statement) (o : Options) :
    Except CompileError Statement :=
  (o.compile s).map fun tail =>
    ⟨"SELECT " ++ Sql.text (o.projectionTokens s) ++ " FROM " ++ Sql.quotedIdentifier table ++
        " WHERE " ++ condition.sql ++ (if tail.isEmpty then "" else " " ++ tail.sql),
      condition.params ++ tail.params⟩

/-- The query for the documents that a filter wants. -/
def compileSelect (s : Schema) (table : String) (f : Filter) (o : Options) :
    Except CompileError Statement :=
  match f.compile s with
  | .error e => .error e
  | .ok condition => s.assembleSelect table condition o

end Schema

end DocumentQuery
