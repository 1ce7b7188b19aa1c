import DocumentQuery.Value

/-!
# Filters

A `Filter` says which documents are wanted: tests on single fields, joined by connectives, and
filters that some element of an array has to meet.
-/

namespace DocumentQuery

/-- How a field is compared with a value. -/
inductive Comparison
  | eq
  | ne
  | gt
  | gte
  | lt
  | lte
  deriving DecidableEq, Repr

/-- How a field is compared with a list of values. -/
inductive Membership
  | oneOf
  | noneOf
  | all
  deriving DecidableEq, Repr

/-- How a field is compared with a pattern. In `like` and `ilike` the wildcards are the caller's. -/
inductive Pattern
  | like
  | startsWith
  | endsWith
  | contains
  | ilike
  deriving DecidableEq, Repr

/-- How filters are joined. -/
inductive Connective
  | and
  | or
  | nor
  | not
  deriving DecidableEq, Repr

/-- An operator on a field, without its operand. -/
inductive Operator
  | compare (c : Comparison)
  | member (m : Membership)
  | pattern (p : Pattern)
  | size
  | elemMatch
  | present
  deriving DecidableEq, Repr

/-- A condition on one field. -/
inductive Test
  | compare (c : Comparison) (value : Value)
  | member (m : Membership) (values : List Value)
  | pattern (p : Pattern) (s : String)
  | size (n : Int64)
  | present (expected : Bool)
  deriving Repr

/-- A condition on documents. -/
inductive Filter
  | everything
  | logical (c : Connective) (operands : List Filter)
  | test (path : String) (t : Test)
  | elemMatch (path : String) (inner : Filter)
  deriving Repr, Inhabited

def Connective.spelling : Connective → String
  | .and => "$and"
  | .or => "$or"
  | .nor => "$nor"
  | .not => "$not"

namespace Operator

/-- All operators, in the order in which they are listed to people. -/
def all : List Operator := [
  .compare .eq, .compare .ne, .compare .gt, .compare .gte, .compare .lt, .compare .lte,
  .member .oneOf, .member .noneOf, .pattern .like, .pattern .startsWith, .pattern .endsWith,
  .pattern .contains, .pattern .ilike, .member .all, .size, .elemMatch, .present]

def spelling : Operator → String
  | .compare .eq => "$eq"
  | .compare .ne => "$ne"
  | .compare .gt => "$gt"
  | .compare .gte => "$gte"
  | .compare .lt => "$lt"
  | .compare .lte => "$lte"
  | .member .oneOf => "$in"
  | .member .noneOf => "$nin"
  | .member .all => "$all"
  | .pattern .like => "$like"
  | .pattern .startsWith => "$startsWith"
  | .pattern .endsWith => "$endsWith"
  | .pattern .contains => "$contains"
  | .pattern .ilike => "$ilike"
  | .size => "$size"
  | .elemMatch => "$elemMatch"
  | .present => "$exists"

def ofSpelling? (s : String) : Option Operator := all.find? fun op => op.spelling == s

@[simp] theorem ofSpelling?_spelling (op : Operator) : ofSpelling? op.spelling = some op := by
  rcases op with c | m | p | _ | _ | _
  · cases c <;> decide
  · cases m <;> decide
  · cases p <;> decide
  all_goals decide

def isOrdering : Operator → Bool
  | .compare .gt => true
  | .compare .gte => true
  | .compare .lt => true
  | .compare .lte => true
  | _ => false

def isPattern : Operator → Bool
  | .pattern _ => true
  | _ => false

/-- Whether the operator looks into an array. -/
def isArray : Operator → Bool
  | .member .all => true
  | .size => true
  | .elemMatch => true
  | _ => false

end Operator

def Test.operator : Test → Operator
  | .compare c _ => .compare c
  | .member m _ => .member m
  | .pattern p _ => .pattern p
  | .size _ => .size
  | .present _ => .present

mutual

/-- Whether a filter on array elements occurs in the filter. -/
def Filter.hasElemMatch : Filter → Bool
  | .everything => false
  | .logical _ operands => Filter.anyElemMatch operands
  | .test _ _ => false
  | .elemMatch _ _ => true

def Filter.anyElemMatch : List Filter → Bool
  | [] => false
  | f :: rest => f.hasElemMatch || Filter.anyElemMatch rest

end

end DocumentQuery
