import DocumentQuery.Filter.Compile

/-!
# The values in a filter

The parameters that a filter binds, read off the filter alone, in the order in which its condition
has its placeholders. This can fail in one way only: some array length is negative.
-/

namespace DocumentQuery

open Sql (Param)

def Test.params : Test → List Param
  | .compare _ v => [literalParam v]
  | .member _ vs => vs.map literalParam
  | .pattern p s => [patternParam p s]
  | .size n => [⟨.length, .integer n⟩]
  | .present _ => []

namespace Filter

mutual

/-- The parameters of a filter, or the first negative length in it. -/
def literals : Filter → Except CompileError (List Param)
  | .everything => .ok []
  | .logical _ operands => literalsOfList operands
  | .test path t =>
    match t.negativeLength? with
    | some n => .error (.unsupported path t.operator (.negativeLength n))
    | none => .ok t.params
  | .elemMatch _ inner => inner.literals

def literalsOfList : List Filter → Except CompileError (List Param)
  | [] => .ok []
  | f :: rest =>
    match f.literals with
    | .error e => .error e
    | .ok ps => (literalsOfList rest).map (ps ++ ·)

end

end Filter

end DocumentQuery
