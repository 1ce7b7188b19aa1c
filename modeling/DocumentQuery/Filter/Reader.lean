import DocumentQuery.Filter.Basic
import DocumentQuery.Json.Layout

/-!
# Filters in JSON

A filter is written as an object. A member with the name of a connective joins filters, any other
member is a condition on the field of that name: an object of operators, or a value that the field
has to equal. Several conditions in one object all have to hold, in the order in which they are
written.

The error is that of the first member that is wrong.
-/

namespace DocumentQuery.Filter

/-- What an operator takes. -/
inductive Operand
  | array
  | string
  | integer
  | boolean
  | object
  deriving DecidableEq, Repr

def Operand.text : Operand → String
  | .array => "an array"
  | .string => "a string"
  | .integer => "an integer"
  | .boolean => "a boolean"
  | .object => "an object"

inductive ReadError
  | notJson (e : Json.Error)
  | notObject (kind : String)
  | unknownConnective (name : String)
  | notFilters (c : Connective)
  | notOperators (field : String)
  | unknownOperator (name field : String)
  | wrongOperand (op : Operator) (field : String) (expected : Operand) (kind : String)
  deriving Repr

def ReadError.reason : ReadError → String
  | .notJson e => e.message
  | .notObject kind => "filter must be an object, got " ++ kind
  | .unknownConnective name => "unknown top-level operator '" ++ name ++ "'"
  | .notFilters c => c.spelling ++ " expects an array of filters"
  | .notOperators field => "$not on '" ++ field ++ "' expects an operator object"
  | .unknownOperator name field => "unknown operator '" ++ name ++ "' on field '" ++ field ++ "'"
  | .wrongOperand op field expected kind =>
    op.spelling ++ " on '" ++ field ++ "' expects " ++ expected.text ++ ", got " ++ kind

def ReadError.message (e : ReadError) : String := "Invalid filter JSON: " ++ e.reason

/-- Whether the name is one of an operator or connective. -/
def isOperatorName (name : String) : Bool := name.toList.head? == some '$'

/-- Whether the members are operators: there are some, and all have the name of one. -/
def areOperators (members : List (String × Json)) : Bool :=
  !members.isEmpty && members.all fun m => isOperatorName m.1

/-- Whether a name is that of a connective. -/
def isConnectiveName (name : String) : Bool :=
  name == "$and" || name == "$or" || name == "$nor" || name == "$not"

/-- Whether the members are operators on an array element itself. -/
def areElementOperators (members : List (String × Json)) : Bool :=
  areOperators members && !members.any fun m => isConnectiveName m.1

/-- Joins conditions that all have to hold; a single one stands alone. -/
def conjunction : List Filter → Filter
  | [] => .everything
  | [f] => f
  | f :: g :: rest => .logical .and (f :: g :: rest)

/-- The error for an operand of the wrong kind. -/
def wrongOperand {α : Type} (op : Operator) (field : String) (expected : Operand) (operand : Json) :
    Except ReadError α :=
  .error (.wrongOperand op field expected operand.kind)

/-- The test that an operator with its operand makes of a field. The filter on array elements is not
one. -/
def testOfJson (field : String) (op : Operator) (operand : Json) : Except ReadError Test :=
  match op with
  | .compare c => .ok (.compare c (.ofJson operand))
  | .member m =>
    match operand.asArray? with
    | some items => .ok (.member m (items.map Value.ofJson))
    | none => wrongOperand op field .array operand
  | .pattern p =>
    match operand.asString? with
    | some s => .ok (.pattern p s)
    | none => wrongOperand op field .string operand
  | .size =>
    match operand.asInt64? with
    | some n => .ok (.size n)
    | none => wrongOperand op field .integer operand
  | .present =>
    match operand.asBool? with
    | some b => .ok (.present b)
    | none => wrongOperand op field .boolean operand
  | .elemMatch => wrongOperand op field .object operand

mutual

def ofJson : Json → Except ReadError Filter
  | .object members => (ofMembers members).map conjunction
  | other => .error (.notObject other.kind)

def ofMembers : List (String × Json) → Except ReadError (List Filter)
  | [] => .ok []
  | (name, value) :: rest => do
    let first ←
      if name = "$and" then (operandsOfJson .and value).map (.logical .and)
      else if name = "$or" then (operandsOfJson .or value).map (.logical .or)
      else if name = "$nor" then (operandsOfJson .nor value).map (.logical .nor)
      else if name = "$not" then (ofJson value).map fun f => .logical .not [f]
      else if isOperatorName name then .error (.unknownConnective name)
      else fieldOfJson name value
    let others ← ofMembers rest
    return first :: others

def operandsOfJson (c : Connective) : Json → Except ReadError (List Filter)
  | .array items => ofItems items
  | _ => .error (.notFilters c)

def ofItems : List Json → Except ReadError (List Filter)
  | [] => .ok []
  | item :: rest => do
    let first ← ofJson item
    let others ← ofItems rest
    return first :: others

def fieldOfJson (field : String) : Json → Except ReadError Filter
  | .object members =>
    if areOperators members then (ofOperators field members).map conjunction
    else .ok (.test field (.compare .eq (.ofJson (.object members))))
  | other => .ok (.test field (.compare .eq (.ofJson other)))

def ofOperators (field : String) : List (String × Json) → Except ReadError (List Filter)
  | [] => .ok []
  | (name, operand) :: rest => do
    let first ←
      if name = "$not" then negatedOfJson field operand
      else match Operator.ofSpelling? name with
        | some .elemMatch => elementOfJson field operand
        | some op => (testOfJson field op operand).map (.test field)
        | none => .error (.unknownOperator name field)
    let others ← ofOperators field rest
    return first :: others

/-- Reads the operators under a negation. -/
def negatedOfJson (field : String) : Json → Except ReadError Filter
  | .object members =>
    if areOperators members then
      (ofOperators field members).map fun fs => .logical .not [conjunction fs]
    else .error (.notOperators field)
  | _ => .error (.notOperators field)

/-- Reads the condition on the elements of an array: operators on the element itself, or a
filter. -/
def elementOfJson (field : String) : Json → Except ReadError Filter
  | .object members =>
    if areElementOperators members then
      (ofOperators "" members).map fun fs => .elemMatch field (conjunction fs)
    else (ofMembers members).map fun fs => .elemMatch field (conjunction fs)
  | other => wrongOperand .elemMatch field .object other

end

/-- Reads the text of a filter. -/
def parse (text : String) : Except ReadError Filter :=
  match Json.parse text with
  | .ok j => ofJson j
  | .error e => .error (.notJson e)

end DocumentQuery.Filter
