import DocumentQuery.Files
import DocumentQuery.Json.Layout
import DocumentQuery.Schema.Declaration

/-!
# Schema files

A collection can be declared in a JSON file. A member that may be missing has a default; a null
stands for a missing member where nothing is the default. Records may be written as objects or as
lists of their members in order. Writing a file leaves out the optional members that are absent.
-/

namespace DocumentQuery.Json

/-- The members of a record with the given names, written as an object or as a list. -/
def asRecord? (names : List String) : Json → Option (List (String × Json))
  | .object members => some members
  | .array items => if items.length ≤ names.length then some (names.zip items) else none
  | _ => none

/-- A member that has to be there. -/
def required {α : Type} (decode : Json → Option α) (key : String) (members : List (String × Json)) :
    Option α :=
  match lookup key members with
  | some v => decode v
  | none => none

/-- A member with a default. -/
def defaulted {α : Type} (decode : Json → Option α) (fallback : α) (key : String)
    (members : List (String × Json)) : Option α :=
  match lookup key members with
  | some v => decode v
  | none => some fallback

/-- A member that may be missing or null. -/
def optional {α : Type} (decode : Json → Option α) (key : String) (members : List (String × Json)) :
    Option (Option α) :=
  match lookup key members with
  | none => some none
  | some .null => some none
  | some v => (decode v).map some

def listOf {α : Type} (decode : Json → Option α) : Json → Option (List α)
  | .array items => items.mapM decode
  | _ => none

end DocumentQuery.Json

namespace DocumentQuery.Schema

structure FileField where
  name : String
  type : FieldType
  path : Option String
  indexed : Bool
  unique : Bool
  nullable : Bool
  default : Option Json
  deriving Repr, Inhabited

structure File where
  collection : String
  bodyColumn : Option String
  timestamps : Bool
  cacheable : Bool
  fields : List FileField
  indexes : List Index
  deriving Repr, Inhabited

open Json (Layout)

def FileField.layout : Layout :=
  .record "FieldFile" [
    ("name", true, .text), ("type", true, .choice (FieldType.all.map FieldType.name)),
    ("path", false, .optional .text), ("indexed", false, .flag), ("unique", false, .flag),
    ("nullable", false, .flag), ("default", false, .optional .any)]

def File.indexLayout : Layout :=
  .record "IndexFile" [("name", true, .text), ("fields", true, .list .text),
    ("unique", false, .flag)]

def File.layout : Layout :=
  .record "SchemaFile" [
    ("collection", true, .text), ("body_column", false, .optional .text),
    ("timestamps", false, .flag), ("cacheable", false, .flag),
    ("fields", false, .list FileField.layout), ("indexes", false, .list File.indexLayout)]

/-- The type of a field: its name, alone or with a null under it. -/
def typeOfJson? : Json → Option FieldType
  | .string s => FieldType.ofName? s
  | .object [(s, .null)] => FieldType.ofName? s
  | _ => none

def FileField.ofJson? (j : Json) : Option FileField := do
  let members ← j.asRecord? ["name", "type", "path", "indexed", "unique", "nullable", "default"]
  return {
    name := ← Json.required Json.asString? "name" members
    type := ← Json.required typeOfJson? "type" members
    path := ← Json.optional Json.asString? "path" members
    indexed := ← Json.defaulted Json.asBool? false "indexed" members
    unique := ← Json.defaulted Json.asBool? false "unique" members
    nullable := ← Json.defaulted Json.asBool? true "nullable" members
    default := ← Json.optional some "default" members }

def File.indexOfJson? (j : Json) : Option Index := do
  let members ← j.asRecord? ["name", "fields", "unique"]
  return {
    name := ← Json.required Json.asString? "name" members
    fields := ← Json.required (Json.listOf Json.asString?) "fields" members
    unique := ← Json.defaulted Json.asBool? false "unique" members }

def File.ofJson? (j : Json) : Option File := do
  let members ← j.asRecord?
    ["collection", "body_column", "timestamps", "cacheable", "fields", "indexes"]
  return {
    collection := ← Json.required Json.asString? "collection" members
    bodyColumn := ← Json.optional Json.asString? "body_column" members
    timestamps := ← Json.defaulted Json.asBool? false "timestamps" members
    cacheable := ← Json.defaulted Json.asBool? true "cacheable" members
    fields := ← Json.defaulted (Json.listOf FileField.ofJson?) [] "fields" members
    indexes := ← Json.defaulted (Json.listOf File.indexOfJson?) [] "indexes" members }

/-- A member that is left out when it is absent. -/
def optionalMember (key : String) : Option Json → List (String × Json)
  | none => []
  | some v => [(key, v)]

def FileField.toJson (f : FileField) : Json :=
  .object (("name", .string f.name) :: ("type", .string f.type.name) ::
    (optionalMember "path" (f.path.map .string) ++
      ("indexed", .bool f.indexed) :: ("unique", .bool f.unique) ::
        ("nullable", .bool f.nullable) ::
        optionalMember "default" f.default))

def File.indexToJson (i : Index) : Json :=
  .object [("name", .string i.name), ("fields", .array (i.fields.map .string)),
    ("unique", .bool i.unique)]

def File.toJson (f : File) : Json :=
  .object (("collection", .string f.collection) ::
    (optionalMember "body_column" (f.bodyColumn.map .string) ++
      [("timestamps", .bool f.timestamps), ("cacheable", .bool f.cacheable),
        ("fields", .array (f.fields.map FileField.toJson)),
        ("indexes", .array (f.indexes.map File.indexToJson))]))

/-- Reads the text of a schema file. What has the layout of a schema file decodes. -/
def File.parse (text : String) : Except Json.Error File :=
  match Json.read File.layout text with
  | .error e => .error e
  | .ok j =>
    match File.ofJson? j with
    | some f => .ok f
    | none => .error ⟨.expectedValue, 1, 0⟩

def FileField.toDeclaration (f : FileField) : FieldDeclaration where
  name := f.name
  type := f.type
  path := f.path
  indexed := f.indexed
  unique := f.unique
  nullable := f.nullable
  default := f.default.map Value.ofJson

/-- The declaration that a schema file makes. -/
def File.toDeclaration (f : File) : Declaration where
  collection := f.collection
  bodyColumn := f.bodyColumn.getD Declaration.defaultBodyColumn
  fields := f.fields.map FileField.toDeclaration
  indexes := f.indexes
  timestamps := f.timestamps
  cacheable := f.cacheable

inductive LoadError
  | unreadable (path : String) (e : FileError)
  | notJson (path : String) (e : Json.Error)
  | refused (e : DeclarationError)
  deriving Repr

def LoadError.message : LoadError → String
  | .unreadable path e => "Failed to load schema from '" ++ path ++ "': " ++ e.message
  | .notJson path e => "Failed to load schema from '" ++ path ++ "': invalid JSON: " ++ e.message
  | .refused e => e.message

/-- Reads a schema file and builds its schema. -/
def load (files : Files) (path : String) : Except LoadError Schema :=
  match files path with
  | .error e => .error (.unreadable path e)
  | .ok text =>
    match File.parse text with
    | .error e => .error (.notJson path e)
    | .ok file =>
      match file.toDeclaration.build with
      | .error e => .error (.refused e)
      | .ok s => .ok s

end DocumentQuery.Schema
