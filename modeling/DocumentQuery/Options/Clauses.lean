import DocumentQuery.Filter.Error
import DocumentQuery.Options.Basic
import DocumentQuery.Reference
import DocumentQuery.Sql.Statement

/-!
# Options as clauses of SQL

The clauses that order and cut the result, and the expression for what is returned of each document.
A count is bound as a signed integer, so one that does not fit is refused; the limit is checked
first.
-/

namespace DocumentQuery

open Sql (Token Param)

def Direction.keyword : Direction → Sql.Keyword
  | .ascending => .ASC
  | .descending => .DESC

namespace Options

/-- A sort key as a statement reads it. -/
def sortTokens (s : Schema) (k : SortKey) : List Token :=
  Sql.spaced [(s.resolve k.field).value, [.keyword k.direction.keyword]]

/-- The clause that orders the result, if there is anything to order by. -/
def orderClause (s : Schema) : List SortKey → List (List Token)
  | [] => []
  | keys =>
    [Sql.spaced [[.keyword .ORDER], [.keyword .BY], Sql.listed (keys.map (sortTokens s))]]

/-- The parameter of a count, if it fits a signed integer. -/
def pagingParam (option : PagingOption) (count : UInt64) : Except CompileError Param :=
  if count.toNat < 0x8000000000000000 then .ok ⟨.paging, .integer (Int64.ofInt count.toNat)⟩
  else .error (.pagingTooLarge option count)

/-- The clause for a count, if there is one. -/
def pagingClause (option : PagingOption) (word : Sql.Keyword) :
    Option UInt64 → Except CompileError (List (List Token))
  | none => .ok []
  | some count => (pagingParam option count).map fun p => [Sql.spaced [[.keyword word], [.param p]]]

/-- The clauses of the options, in the order of SQL. -/
def clauses (s : Schema) (o : Options) : Except CompileError (List (List Token)) :=
  match pagingClause .limit .LIMIT o.limit with
  | .error e => .error e
  | .ok limit => (pagingClause .skip .OFFSET o.skip).map (orderClause s o.sort ++ limit ++ ·)

/-- The tokens of the options; there are none if there is no clause. -/
def tokens (s : Schema) (o : Options) : Except CompileError (List Token) :=
  (o.clauses s).map Sql.spaced

def compile (s : Schema) (o : Options) : Except CompileError Sql.Statement :=
  (o.tokens s).map Sql.Statement.ofTokens

/-- What is returned of each document: all of it, or an object of the projected fields. -/
def projectionTokens (s : Schema) (o : Options) : List Token :=
  match o.projection with
  | none => [.body s.bodyColumn]
  | some [] => [.body s.bodyColumn]
  | some fields =>
    Sql.call .object (fields.flatMap fun f => [[.string f], (s.resolve f).value])

end Options

end DocumentQuery
