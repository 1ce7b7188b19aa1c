import DocumentQuery.Json.Fault

/-!
# Literal values

A `Value` is what a statement binds to a placeholder: a scalar of the database, or a JSON array or
object that is bound as its text. No value is ever turned into one of another kind.
-/

namespace DocumentQuery

/-- A value bound to a placeholder. -/
inductive Value
  | null
  | bool (b : Bool)
  | integer (n : Int64)
  | real (x : Binary64)
  | text (s : String)
  | blob (bytes : List UInt8)
  | json (j : Json)
  deriving Repr, Inhabited

namespace Value

def typeName : Value → String
  | .null => "null"
  | .bool _ => "boolean"
  | .integer _ => "integer"
  | .real _ => "real"
  | .text _ => "text"
  | .blob _ => "blob"
  | .json _ => "json"

def asText? : Value → Option String
  | .text s => some s
  | _ => none

def asInteger? : Value → Option Int64
  | .integer n => some n
  | _ => none

def asBool? : Value → Option Bool
  | .bool b => some b
  | _ => none

def isNull : Value → Bool
  | .null => true
  | _ => false

/-- A number is an integer if it fits 64 bits with a sign, else the double nearest to it. -/
def ofNumber (n : Json.Number) : Value :=
  match n.toInt64? with
  | some i => .integer i
  | none => .real n.toBinary64

/-- A scalar becomes a scalar; an array or object stays JSON. -/
def ofJson : Json → Value
  | .null => .null
  | .bool b => .bool b
  | .number n => ofNumber n
  | .string s => .text s
  | .array items => .json (.array items)
  | .object members => .json (.object members)

/-- A double as JSON; one that is not finite has no number and becomes null. -/
def realJson (x : Binary64) : Json :=
  if h : x.isFinite = true then .number (.real x h) else .null

theorem fitsWord_toInt (n : Int64) : Json.FitsWord n.toInt :=
  ⟨n.le_toInt, by have := n.toInt_lt; omega⟩

def integerJson (n : Int64) : Json := .number (.integer n.toInt (fitsWord_toInt n))

theorem fitsWord_byte (b : UInt8) : Json.FitsWord b.toNat := by
  have := b.toNat_lt
  constructor <;> omega

def byteJson (b : UInt8) : Json := .number (.integer b.toNat (fitsWord_byte b))

/-- The value as JSON: a blob becomes the array of its bytes. -/
def toJson : Value → Json
  | .null => .null
  | .bool b => .bool b
  | .integer n => integerJson n
  | .real x => realJson x
  | .text s => .string s
  | .blob bytes => .array (bytes.map byteJson)
  | .json j => j

def display : Value → String
  | .null => "NULL"
  | .bool true => "true"
  | .bool false => "false"
  | .integer n => String.ofList (Json.integerText n.toInt)
  | .real x => String.ofList x.plainText
  | .text s => String.ofList (Text.quoted s)
  | .blob bytes => "x'" ++ String.ofList (Text.hexBytes bytes) ++ "'"
  | .json j => j.compactText

end Value

end DocumentQuery
