import DocumentQuery.Filter.Basic
import DocumentQuery.Schema.Basic
import DocumentQuery.Sql.Token
import DocumentQuery.Text.Hex

/-!
# Why a query has no SQL
-/

namespace DocumentQuery

/-- Why an operator cannot be used on a field. -/
inductive Unsupported
  | negativeLength (n : Int64)
  | patternOn (type : FieldType)
  | arrayOn (type : FieldType)
  | orderOn (type : FieldType)
  deriving DecidableEq, Repr

def Unsupported.message : Unsupported → String
  | .negativeLength n =>
    "array length cannot be negative (" ++ String.ofList (Json.integerText n.toInt) ++ ")"
  | .patternOn type => "string patterns need a text field, field is " ++ type.name
  | .arrayOn type => "arrays are stored as JSON text, field is " ++ type.name
  | .orderOn type => "values have no ordering, field is " ++ type.name

/-- The options that count documents. -/
inductive PagingOption
  | limit
  | skip
  deriving DecidableEq, Repr

def PagingOption.name : PagingOption → String
  | .limit => "limit"
  | .skip => "skip"

/-- Why a query has no SQL. -/
inductive CompileError
  /-- A negation has another number of operands than one. -/
  | negationArity (count : Nat)
  | unsupported (field : String) (op : Operator) (reason : Unsupported)
  /-- A stored template has other slots than the filter it was found for. -/
  | templateMismatch (shape : UInt64) (expected found : List Sql.Slot)
  /-- A count is too large for a signed integer. -/
  | pagingTooLarge (option : PagingOption) (count : UInt64)
  deriving DecidableEq, Repr

def CompileError.message : CompileError → String
  | .negationArity count =>
    "Malformed filter: $not requires exactly one operand, got " ++ toString count
  | .unsupported field op reason =>
    "Operator " ++ op.spelling ++ " is not supported on field '" ++ field ++ "': " ++ reason.message
  | .templateMismatch shape expected found =>
    "Cache consistency violation for shape " ++ String.ofList (Text.paddedHex 16 shape.toNat) ++
      ": template has " ++ Sql.describeSlots expected ++ " parameter slots, filter supplied " ++
      Sql.describeSlots found
  | .pagingTooLarge option count =>
    "Invalid query options: " ++ option.name ++ " " ++ toString count.toNat ++
      " exceeds the largest bindable integer"

end DocumentQuery
