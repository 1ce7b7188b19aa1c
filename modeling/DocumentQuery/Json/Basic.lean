import DocumentQuery.Number.Binary64

/-!
# JSON values

An object keeps its members in the order in which they were written. A whole number that fits 64
bits, signed or not, is kept exactly; every other number is a finite double.
-/

namespace DocumentQuery

/-- Whether the integer fits 64 bits, with a sign or without. -/
def Json.FitsWord (n : Int) : Prop := -0x8000000000000000 ≤ n ∧ n < 0x10000000000000000

instance (n : Int) : Decidable (Json.FitsWord n) := inferInstanceAs (Decidable (_ ∧ _))

/-- A number as JSON can write it. -/
inductive Json.Number
  | integer (n : Int) (fits : Json.FitsWord n)
  | real (x : Binary64) (finite : x.isFinite = true)
  deriving DecidableEq, Repr

inductive Json
  | null
  | bool (b : Bool)
  | number (n : Json.Number)
  | string (s : String)
  | array (items : List Json)
  | object (members : List (String × Json))
  deriving Repr, Inhabited

namespace Json

def kind : Json → String
  | .null => "null"
  | .bool _ => "boolean"
  | .number _ => "number"
  | .string _ => "string"
  | .array _ => "array"
  | .object _ => "object"

/-- The number as an integer with 64 bits and a sign, if it is one. -/
def Number.toInt64? : Number → Option Int64
  | .integer n _ => if n < 0x8000000000000000 then some (Int64.ofInt n) else none
  | .real _ _ => none

/-- The number as an integer with 64 bits and no sign, if it is one. -/
def Number.toUInt64? : Number → Option UInt64
  | .integer n _ => if 0 ≤ n then some (UInt64.ofNat n.toNat) else none
  | .real _ _ => none

def Number.toBinary64 : Number → Binary64
  | .integer n _ => .ofInt n
  | .real x _ => x

def asInt64? : Json → Option Int64
  | .number n => n.toInt64?
  | _ => none

def asUInt64? : Json → Option UInt64
  | .number n => n.toUInt64?
  | _ => none

def asBool? : Json → Option Bool
  | .bool b => some b
  | _ => none

def asString? : Json → Option String
  | .string s => some s
  | _ => none

def asArray? : Json → Option (List Json)
  | .array items => some items
  | _ => none

def asObject? : Json → Option (List (String × Json))
  | .object members => some members
  | _ => none

def lookup (key : String) : List (String × Json) → Option Json
  | [] => none
  | (k, v) :: rest => if k = key then some v else lookup key rest

/-- Puts a value under a name: in the place of the value that has it already, else at the end. -/
def insert (key : String) (value : Json) : List (String × Json) → List (String × Json)
  | [] => [(key, value)]
  | (k, v) :: rest => if k = key then (k, value) :: rest else (k, v) :: insert key value rest

@[simp] theorem lookup_insert_self (key : String) (value : Json) (members : List (String × Json)) :
    lookup key (insert key value members) = some value := by
  induction members with
  | nil => simp [insert, lookup]
  | cons m rest ih =>
    obtain ⟨k, v⟩ := m
    by_cases h : k = key <;> simp [insert, lookup, h, ih]

theorem lookup_insert_of_ne {key other : String} (h : other ≠ key) (value : Json)
    (members : List (String × Json)) :
    lookup other (insert key value members) = lookup other members := by
  induction members with
  | nil => simp [insert, lookup, Ne.symm h]
  | cons m rest ih =>
    obtain ⟨k, v⟩ := m
    by_cases hk : k = key
    · subst hk; simp [insert, lookup, Ne.symm h]
    · simp only [insert, if_neg hk, lookup, ih]

end Json

end DocumentQuery
