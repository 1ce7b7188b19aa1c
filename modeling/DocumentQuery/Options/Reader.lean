import DocumentQuery.Json.Layout
import DocumentQuery.Options.Basic

/-!
# Options in JSON

Options are written as an object with the members `sort`, `limit`, `skip` and `fields`. The error is
that of the first member that is wrong.
-/

namespace DocumentQuery.Options

inductive ReadError
  | notJson (e : Json.Error)
  | notObject
  | sortNotObject
  | badDirection (field : String)
  | badLimit
  | badSkip
  | badFields
  | unknownOption (name : String)
  deriving Repr

def ReadError.reason : ReadError → String
  | .notJson e => "invalid JSON: " ++ e.message
  | .notObject => "options must be an object"
  | .sortNotObject => "sort must be an object of field to direction"
  | .badDirection field =>
    "sort direction for '" ++ field ++ "' must be 1, -1, \"asc\" or \"desc\""
  | .badLimit => "limit must be a non-negative integer"
  | .badSkip => "skip must be a non-negative integer"
  | .badFields => "fields must be an array of strings"
  | .unknownOption name => "unknown option '" ++ name ++ "'"

def ReadError.message (e : ReadError) : String := "Invalid query options: " ++ e.reason

/-- Whether the texts agree when the case of ASCII letters is left aside. -/
def sameWord (a b : String) : Bool := a.toList.map Char.toLower == b.toList.map Char.toLower

/-- The direction that a value stands for. -/
def directionOfJson? : Json → Option Direction
  | .number n =>
    if n.toInt64? = some 1 then some .ascending
    else if n.toInt64? = some (-1) then some .descending
    else none
  | .string s =>
    if sameWord s "asc" then some .ascending
    else if sameWord s "desc" then some .descending
    else none
  | _ => none

/-- Adds the sort keys of an object in order. -/
def addSort : Options → List (String × Json) → Except ReadError Options
  | o, [] => .ok o
  | o, (field, value) :: rest =>
    match directionOfJson? value with
    | some direction => addSort (o.sortBy field direction) rest
    | none => .error (.badDirection field)

/-- Adds one member of the options. -/
def addMember (o : Options) (name : String) (value : Json) : Except ReadError Options :=
  if name = "sort" then
    match value.asObject? with
    | some keys => addSort o keys
    | none => .error .sortNotObject
  else if name = "limit" then
    match value.asUInt64? with
    | some n => .ok { o with limit := some n }
    | none => .error .badLimit
  else if name = "skip" then
    match value.asUInt64? with
    | some n => .ok { o with skip := some n }
    | none => .error .badSkip
  else if name = "fields" then
    match value.asArray?.bind fun items => items.mapM Json.asString? with
    | some fields => .ok { o with projection := some fields }
    | none => .error .badFields
  else .error (.unknownOption name)

def addMembers : Options → List (String × Json) → Except ReadError Options
  | o, [] => .ok o
  | o, (name, value) :: rest =>
    match addMember o name value with
    | .ok o => addMembers o rest
    | .error e => .error e

def ofJson (j : Json) : Except ReadError Options :=
  match j.asObject? with
  | some members => addMembers {} members
  | none => .error .notObject

def parse (text : String) : Except ReadError Options :=
  match Json.parse text with
  | .ok j => ofJson j
  | .error e => .error (.notJson e)

end DocumentQuery.Options
