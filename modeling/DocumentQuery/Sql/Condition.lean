import DocumentQuery.Filter.Basic
import DocumentQuery.Reference
import DocumentQuery.Sql.Statement

/-!
# Conditions of SQL

A `Condition` is the Boolean expression that a filter becomes, with its fields resolved and its
values bound. `Condition.tokens` writes it so that it can stand in any place: joined operands are in
parentheses, and so is what a negation denies. An empty conjunction, disjunction or denial is the
constant true.
-/

namespace DocumentQuery.Sql

def comparisonSymbol : Comparison → Symbol
  | .eq => .equal
  | .ne => .notEqual
  | .gt => .greater
  | .gte => .greaterOrEqual
  | .lt => .less
  | .lte => .lessOrEqual

inductive Condition
  | constant (truth : Bool)
  | compare (r : Reference) (c : Comparison) (p : Param)
  /-- The field is, or is not, one of the values. -/
  | among (r : Reference) (negated : Bool) (ps : List Param)
  | like (r : Reference) (p : Param) (foldCase : Bool)
  | lengthIs (r : Reference) (p : Param)
  | present (r : Reference) (expected : Bool)
  /-- Some item of the array meets the condition; items go by the alias of the depth. -/
  | someElement (r : Reference) (depth : Nat) (inner : Condition)
  | all (operands : List Condition)
  | any (operands : List Condition)
  | none (operands : List Condition)
  | not (operand : Condition)
  deriving Repr, Inhabited

/-- A constant of SQL. -/
def truthTokens (truth : Bool) : List Token :=
  [.number (if truth then 1 else 0), .symbol .equal, .number 1]

/-- Operands with a word between each two of them: the constant true if there are none, a single one
as it is, several in parentheses. -/
def joined (word : Keyword) : List (List Token) → List Token
  | [] => truthTokens true
  | [piece] => piece
  | pieces => parenthesized (separated [.blank, .keyword word, .blank] pieces)

namespace Condition

mutual

/-- The tokens of a condition. -/
def tokens : Condition → List Token
  | .constant truth => truthTokens truth
  | .compare r c p => spaced [r.value, [.symbol (comparisonSymbol c)], [.param p]]
  | .among r negated ps =>
    spaced [r.value,
      if negated then spaced [[.keyword .NOT], [.keyword .IN]] else [.keyword .IN],
      parenthesized (placeholders ps)]
  | .like r p foldCase =>
    spaced ([r.value, [.keyword .LIKE], [.param p]] ++
      if foldCase then [[.keyword .COLLATE], [.keyword .NOCASE]] else [])
  | .lengthIs r p => spaced [r.arrayLength, [.symbol .equal], [.param p]]
  | .present r expected =>
    spaced ([r.typeOf, [.keyword .IS]] ++
      (if expected then [[.keyword .NOT], [.keyword .NULL]] else [[.keyword .NULL]]))
  | .someElement r depth inner =>
    spaced [[.keyword .EXISTS],
      parenthesized (spaced [[.keyword .SELECT], [.number 1], [.keyword .FROM], r.each,
        [.keyword .AS], [.element depth], [.keyword .WHERE], inner.tokens])]
  | .all operands => joined .AND (tokensOfList operands)
  | .any operands => joined .OR (tokensOfList operands)
  | .none [] => truthTokens true
  | .none operands =>
    spaced [[.keyword .NOT],
      parenthesized (separated [.blank, .keyword .OR, .blank] (tokensOfList operands))]
  | .not operand => spaced [[.keyword .NOT], parenthesized operand.tokens]

def tokensOfList : List Condition → List (List Token)
  | [] => []
  | c :: rest => c.tokens :: tokensOfList rest

end

end Condition

end DocumentQuery.Sql
