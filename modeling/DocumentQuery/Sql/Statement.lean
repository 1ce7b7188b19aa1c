import DocumentQuery.Sql.Placeholder
import DocumentQuery.Sql.Token

/-!
# Statements

A piece of SQL text with the values for its placeholders in order.
-/

namespace DocumentQuery.Sql

/-- SQL text and the values that are bound to its placeholders, from left to right. -/
structure Statement where
  sql : String
  params : List Value
  deriving Repr, Inhabited

namespace Statement

/-- The piece without any text. -/
def empty : Statement := ⟨"", []⟩

/-- The statement that a list of tokens spells. -/
def ofTokens (tokens : List Token) : Statement :=
  ⟨text tokens, (Sql.params tokens).map Param.value⟩

theorem toList_ofTokens (tokens : List Token) : (ofTokens tokens).sql.toList = chars tokens := by
  simp [ofTokens, text]

def isEmpty (s : Statement) : Bool := s.sql.isEmpty

def placeholderCount (s : Statement) : Nat := countPlaceholders s.sql

/-- One line for each value, numbered from the given number on. -/
def paramLines : Nat → List Value → List String
  | _, [] => []
  | n, v :: rest =>
    ("  [" ++ toString n ++ "] " ++ v.display ++ " (" ++ v.typeName ++ ")") ::
      paramLines (n + 1) rest

/-- The statement for people: its text, and each value with its type. -/
def explain (s : Statement) : String :=
  let lines := match s.params with
    | [] => ["Params: (none)"]
    | params => ("Params (" ++ toString params.length ++ "):") :: paramLines 1 params
  String.intercalate "\n" (("SQL: " ++ s.sql) :: lines)

end Statement

end DocumentQuery.Sql
