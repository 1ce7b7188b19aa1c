import DocumentQuery.Sql.Quote

/-!
# Counting placeholders

A question mark is a placeholder unless it stands between quotes. A delimiter that is written twice
closes one quoted piece and opens the next, so that one flag is enough to follow the text.
-/

namespace DocumentQuery.Sql

/-- Counts the question marks outside quotes; the first argument is the delimiter that is open. -/
def countPlaceholdersFrom : Option Char → List Char → Nat
  | _, [] => 0
  | some delimiter, c :: rest =>
    countPlaceholdersFrom (if c = delimiter then none else some delimiter) rest
  | none, c :: rest =>
    if c = singleQuote ∨ c = doubleQuote then countPlaceholdersFrom (some c) rest
    else if c = '?' then countPlaceholdersFrom none rest + 1
    else countPlaceholdersFrom none rest

/-- The number of placeholders in a text of SQL. -/
def countPlaceholders (sql : String) : Nat := countPlaceholdersFrom none sql.toList

end DocumentQuery.Sql
