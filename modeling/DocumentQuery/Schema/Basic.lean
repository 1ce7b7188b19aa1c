import DocumentQuery.Path
import DocumentQuery.SipHash
import DocumentQuery.Value

/-!
# Collections of documents

A `Schema` describes one table of JSON documents: the column that holds the document, the fields
that are known by name, and the indexes over them. Fields are kept in the order of their names. A
field that is indexed has a generated column of its own.
-/

namespace DocumentQuery

inductive FieldType
  | text
  | integer
  | real
  | blob
  | numeric
  | boolean
  deriving DecidableEq, Repr, Inhabited

namespace FieldType

def all : List FieldType := [.text, .integer, .real, .blob, .numeric, .boolean]

/-- The name of the type in schema files and messages. -/
def name : FieldType → String
  | .text => "text"
  | .integer => "integer"
  | .real => "real"
  | .blob => "blob"
  | .numeric => "numeric"
  | .boolean => "boolean"

/-- The type of a column that holds it. The database has no type for truth values. -/
def columnType : FieldType → String
  | .text => "TEXT"
  | .integer => "INTEGER"
  | .real => "REAL"
  | .blob => "BLOB"
  | .numeric => "NUMERIC"
  | .boolean => "INTEGER"

/-- Whether its values can be compared by order. -/
def isOrdered : FieldType → Bool
  | .boolean => false
  | .blob => false
  | _ => true

/-- Whether patterns and array operators apply; arrays are stored as their text. -/
def isTextual : FieldType → Bool
  | .text => true
  | _ => false

/-- The place of the type in the list of all types. -/
def position : FieldType → Nat
  | .text => 0
  | .integer => 1
  | .real => 2
  | .blob => 3
  | .numeric => 4
  | .boolean => 5

def ofName? (s : String) : Option FieldType := all.find? fun t => t.name == s

@[simp] theorem ofName?_name (t : FieldType) : ofName? t.name = some t := by
  cases t <;> decide

end FieldType

/-- A field that is known by its name. -/
structure Field where
  name : String
  /-- Where the field lies in the document. -/
  path : String
  type : FieldType
  indexed : Bool
  unique : Bool
  nullable : Bool
  default : Option Value
  deriving Repr, Inhabited

/-- An index over fields, in order. -/
structure Index where
  name : String
  fields : List String
  unique : Bool
  deriving DecidableEq, Repr, Inhabited

/-- A name with an underscore for every character that cannot stand in a plain identifier. -/
def identifierOf (name : String) : String :=
  String.ofList (name.toList.map fun c => if Sql.isIdentifierChar c then c else '_')

def generatedColumn (field : String) : String := "_idx_" ++ identifierOf field

def indexName (collection name : String) : String :=
  "idx_" ++ collection ++ "_" ++ identifierOf name

def Field.column (f : Field) : String := generatedColumn f.name

/-- The description of a collection. -/
structure Schema where
  collection : String
  bodyColumn : String
  fields : List Field
  indexes : List Index
  timestamps : Bool
  cacheable : Bool
  deriving Repr, Inhabited

namespace Schema

def field? (s : Schema) (name : String) : Option Field := s.fields.find? fun f => f.name == name

def indexedFields (s : Schema) : List Field := s.fields.filter Field.indexed

/-- The fields with an index of their own. -/
def singleIndexFields (s : Schema) : List Field := s.fields.filter fun f => f.indexed || f.unique

/-- A text as bytes, with a byte at its end that no text contains. -/
def textCode (s : String) : List UInt8 := SipHash.textBytes s ++ [0xff]

/-- What a field contributes to the fingerprint. -/
def fieldCode (f : Field) : List UInt8 :=
  textCode f.name ++ textCode f.path ++ SipHash.wordBytes (UInt64.ofNat f.type.position) ++
    [if f.indexed then 1 else 0]

/-- Everything about a schema that queries depend on, as bytes. -/
def code (s : Schema) : List UInt8 :=
  textCode s.collection ++ textCode s.bodyColumn ++ s.fields.flatMap fieldCode

def fingerprint (s : Schema) : UInt64 := SipHash.hash s.code

end Schema

end DocumentQuery
