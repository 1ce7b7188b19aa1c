import DocumentQuery.Sql.Quote
import DocumentQuery.Value

/-!
# Values written into SQL text

The default of a generated column is the one value that stands in the text of a statement itself.
-/

namespace DocumentQuery.Sql

/-- A value as a literal of SQL. A truth value is the number one or zero, JSON is its text. -/
def literal : Value → List Char
  | .null => ['N', 'U', 'L', 'L']
  | .bool true => ['1']
  | .bool false => ['0']
  | .integer n => Json.integerText n.toInt
  | .real x => x.plainText
  | .text s => delimited singleQuote s.toList
  | .blob bytes => 'X' :: delimited singleQuote (Text.hexBytes bytes)
  | .json j => delimited singleQuote j.compact

end DocumentQuery.Sql
