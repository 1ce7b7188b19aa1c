import DocumentQuery.Filter.Basic
import DocumentQuery.Schema.Basic

/-!
# The shape of a filter

Everything about a filter that its SQL depends on, without the values that are only bound:
`Filter.code` writes it as bytes, and `Filter.shape` hashes it together with the schema. Filters
with the same code have the same SQL.
-/

namespace DocumentQuery

def Connective.code : Connective → UInt8
  | .and => 0x10
  | .or => 0x11
  | .nor => 0x12
  | .not => 0x13

def Operator.code : Operator → UInt8
  | .compare .eq => 0x20
  | .compare .ne => 0x21
  | .compare .gt => 0x22
  | .compare .gte => 0x23
  | .compare .lt => 0x24
  | .compare .lte => 0x25
  | .member .oneOf => 0x26
  | .member .noneOf => 0x27
  | .pattern .like => 0x28
  | .pattern .startsWith => 0x29
  | .pattern .endsWith => 0x2a
  | .pattern .contains => 0x2b
  | .pattern .ilike => 0x2c
  | .member .all => 0x2d
  | .size => 0x2e
  | .elemMatch => 0x2f
  | .present => 0x30

/-- A count as eight bytes. -/
def countCode (n : Nat) : List UInt8 := SipHash.wordBytes (UInt64.ofNat n)

/-- A path and an operator as bytes, the length of the path first. -/
def predicateCode (path : String) (op : Operator) : List UInt8 :=
  let bytes := SipHash.textBytes path
  0x03 :: (countCode bytes.length ++ bytes ++ [op.code])

/-- What the operand of a test contributes: how many values a list has, and whether a field has to
be there. -/
def Test.operandCode : Test → List UInt8
  | .member _ vs => countCode vs.length
  | .present expected => [if expected then 1 else 0]
  | _ => []

namespace Filter

mutual

/-- The structure of a filter as bytes. -/
def code : Filter → List UInt8
  | .everything => [0x01]
  | .logical c operands => 0x02 :: c.code :: (countCode operands.length ++ codeOfList operands)
  | .test path t => predicateCode path t.operator ++ t.operandCode
  | .elemMatch path inner => predicateCode path .elemMatch ++ inner.code

def codeOfList : List Filter → List UInt8
  | [] => []
  | f :: rest => f.code ++ codeOfList rest

end

/-- The hash of the structure of a filter under a schema. -/
def shape (s : Schema) (f : Filter) : UInt64 :=
  SipHash.hash (SipHash.wordBytes s.fingerprint ++ f.code)

/-- A shape as sixteen hexadecimal digits. -/
def shapeText (shape : UInt64) : String := String.ofList (Text.paddedHex 16 shape.toNat)

end Filter

end DocumentQuery
