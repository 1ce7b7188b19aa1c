import DocumentQuery.Reference
import DocumentQuery.Schema.Declaration
import DocumentQuery.Sql.Literal

/-!
# The tables and indexes of a collection

What the database has to hold for a schema: one table with the document and a generated column for
each indexed field, one index for each field that is indexed or unique, and the declared indexes.
The keys of an index are the expressions by which statements read its fields.
-/

namespace DocumentQuery

structure ColumnDefinition where
  name : String
  type : String
  /-- The expression that computes it. -/
  expression : List Char
  notNull : Bool
  deriving DecidableEq, Repr

structure TableDefinition where
  name : String
  bodyColumn : String
  columns : List ColumnDefinition
  deriving DecidableEq, Repr

structure IndexDefinition where
  name : String
  table : String
  keys : List (List Sql.Token)
  unique : Bool
  deriving Repr

def ColumnDefinition.text (c : ColumnDefinition) : String :=
  c.name ++ " " ++ c.type ++ " GENERATED ALWAYS AS (" ++ String.ofList c.expression ++
    ") VIRTUAL" ++
    (if c.notNull then " NOT NULL" else "")

/-- The names of the columns of a table, its key first. -/
def TableDefinition.columnNames (t : TableDefinition) : List String :=
  "_id" :: t.bodyColumn :: t.columns.map ColumnDefinition.name

def TableDefinition.text (t : TableDefinition) : String :=
  let columns := "_id INTEGER PRIMARY KEY" ::
    (t.bodyColumn ++ " TEXT NOT NULL CHECK (json_valid(" ++ t.bodyColumn ++ "))") ::
    t.columns.map ColumnDefinition.text
  "CREATE TABLE IF NOT EXISTS " ++ Sql.quotedIdentifier t.name ++ " (\n" ++
    String.intercalate ",\n" (columns.map fun c => "    " ++ c) ++ "\n)"

def IndexDefinition.text (i : IndexDefinition) : String :=
  "CREATE " ++ (if i.unique then "UNIQUE " else "") ++ "INDEX IF NOT EXISTS " ++
    Sql.quotedIdentifier i.name ++ " ON " ++ Sql.quotedIdentifier i.table ++
    " (" ++ String.intercalate ", " (i.keys.map Sql.text) ++ ")"

namespace Schema

/-- The extraction of a field from the document. -/
def extraction (s : Schema) (f : Field) : List Sql.Token :=
  (Reference.extract (.body s.bodyColumn) f.path).value

/-- The expression that computes the column of a field: its extraction, or its default where that is
absent. -/
def columnExpression (s : Schema) (f : Field) : List Char :=
  match f.default with
  | none => Sql.chars (s.extraction f)
  | some value =>
    "COALESCE(".toList ++ Sql.chars (s.extraction f) ++ ',' :: ' ' :: (Sql.literal value ++ [')'])

/-- The generated column of a field. -/
def columnDefinition (s : Schema) (f : Field) : ColumnDefinition where
  name := f.column
  type := f.type.columnType
  expression := s.columnExpression f
  notNull := !f.nullable

/-- The generated columns, in the order of the names of their fields. -/
def columnDefinitions (s : Schema) : List ColumnDefinition := s.indexedFields.map s.columnDefinition

def table (s : Schema) : TableDefinition := ⟨s.collection, s.bodyColumn, s.columnDefinitions⟩

def singleIndex (s : Schema) (f : Field) : IndexDefinition where
  name := indexName s.collection f.name
  table := s.collection
  keys := [(s.resolve f.name).value]
  unique := f.unique

def compoundIndex (s : Schema) (i : Index) : IndexDefinition where
  name := indexName s.collection i.name
  table := s.collection
  keys := i.fields.map fun f => (s.resolve f).value
  unique := i.unique

/-- All indexes: those of single fields, then the declared ones. -/
def indexDefinitions (s : Schema) : List IndexDefinition :=
  s.singleIndexFields.map s.singleIndex ++ s.indexes.map s.compoundIndex

/-- The statements that create the collection, the table first. -/
def statements (s : Schema) : List String :=
  s.table.text :: s.indexDefinitions.map IndexDefinition.text

end Schema

end DocumentQuery
