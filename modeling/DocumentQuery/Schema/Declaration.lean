import DocumentQuery.Schema.Basic

/-!
# Declaring a collection

A `Declaration` is what is said about a collection before it is checked. `Declaration.build` checks
it and gives the schema, or the first thing that is wrong: the body column, then the fields as they
were declared, then the indexes as they were declared, then two fields with one column, then two
indexes with one name.
-/

namespace DocumentQuery

structure FieldDeclaration where
  name : String
  type : FieldType
  path : Option String := none
  indexed : Bool := false
  unique : Bool := false
  nullable : Bool := true
  default : Option Value := none
  deriving Repr, Inhabited

/-- The body column of a collection that names none. -/
def Declaration.defaultBodyColumn : String := "data"

structure Declaration where
  collection : String
  bodyColumn : String := Declaration.defaultBodyColumn
  fields : List FieldDeclaration := []
  indexes : List Index := []
  timestamps : Bool := false
  cacheable : Bool := true
  deriving Repr, Inhabited

inductive NameFault
  | emptySegment
  | quote
  | notIdentifier
  deriving DecidableEq, Repr

def NameFault.message : NameFault → String
  | .emptySegment => "field names must be non-empty dotted paths"
  | .quote => "field names cannot contain quotes"
  | .notIdentifier => "body column must be a plain SQL identifier"

inductive DeclarationError
  | duplicateField (name : String)
  | invalidName (name : String) (fault : NameFault)
  | duplicateIndex (name : String)
  | emptyIndex (name : String)
  | unknownIndexField (index field : String)
  | columnCollision (column first second : String)
  | indexNameCollision (index first second : String)
  deriving DecidableEq, Repr

def DeclarationError.message : DeclarationError → String
  | .duplicateField name => "Field '" ++ name ++ "' is declared more than once"
  | .invalidName name fault => "Invalid field name '" ++ name ++ "': " ++ fault.message
  | .duplicateIndex name => "Index '" ++ name ++ "' is declared more than once"
  | .emptyIndex name => "Index '" ++ name ++ "' has no fields"
  | .unknownIndexField index field =>
    "Index '" ++ index ++ "' references unknown field '" ++ field ++ "'"
  | .columnCollision column first second =>
    "Fields '" ++ first ++ "' and '" ++ second ++ "' both map to generated column '" ++
      column ++ "'"
  | .indexNameCollision index first second =>
    "Indexes on '" ++ first ++ "' and '" ++ second ++ "' would both be named '" ++ index ++ "'"

namespace Declaration

def nameFault? (name : String) : Option NameFault :=
  if (Path.segments name.toList).any List.isEmpty then some .emptySegment
  else if name.toList.any fun c => c == Sql.singleQuote || c == Sql.doubleQuote then some .quote
  else none

/-- The field that a declaration stands for; without a path of its own it lies where its name
says. -/
def toField (d : FieldDeclaration) : Field where
  name := d.name
  path := d.path.getD (Path.ofField d.name)
  type := d.type
  indexed := d.indexed
  unique := d.unique
  nullable := d.nullable
  default := d.default

def declares (fields : List Field) (name : String) : Bool := fields.any fun f => f.name == name

/-- Puts a field in its place in the order of names. -/
def insertField (f : Field) : List Field → List Field
  | [] => [f]
  | g :: rest => if f.name < g.name then f :: g :: rest else g :: insertField f rest

/-- Checks the declared fields in order and adds them to the fields before them. -/
def addFields : List Field → List FieldDeclaration → Except DeclarationError (List Field)
  | fields, [] => .ok fields
  | fields, d :: rest =>
    match nameFault? d.name with
    | some fault => .error (.invalidName d.name fault)
    | none =>
      if declares fields d.name then .error (.duplicateField d.name)
      else addFields (insertField (toField d) fields) rest

def timestampField (name : String) : Field :=
  toField { name, type := .text, indexed := true }

/-- Adds a field unless its name is taken. -/
def addMissing (f : Field) (fields : List Field) : List Field :=
  if declares fields f.name then fields else insertField f fields

/-- Adds the times of creation and of the last change. -/
def addTimestamps (fields : List Field) : List Field :=
  addMissing (timestampField "updated_at") (addMissing (timestampField "created_at") fields)

/-- Checks the declared indexes in order; the first argument holds the names before them. -/
def checkIndexes (fields : List Field) : List String → List Index → Except DeclarationError Unit
  | _, [] => .ok ()
  | seen, i :: rest =>
    if seen.contains i.name then .error (.duplicateIndex i.name)
    else if i.fields.isEmpty then .error (.emptyIndex i.name)
    else match i.fields.find? fun name => !declares fields name with
      | some name => .error (.unknownIndexField i.name name)
      | none => checkIndexes fields (i.name :: seen) rest

/-- The first two names with one image, with that image; the first argument holds the names before
them, each under its image. -/
def collision? (image : String → String) :
    List (String × String) → List String → Option (String × String × String)
  | _, [] => none
  | seen, name :: rest =>
    match seen.find? fun s => s.1 == image name with
    | some s => some (image name, s.2, name)
    | none => collision? image ((image name, name) :: seen) rest

/-- The names of everything that has an index: single fields, then the indexes over several. -/
def indexSources (fields : List Field) (indexes : List Index) : List String :=
  (fields.filter fun f => f.indexed || f.unique).map Field.name ++ indexes.map Index.name

/-- The fields of a declaration in the order of their names, times included. -/
def resolvedFields (d : Declaration) : Except DeclarationError (List Field) :=
  match addFields [] d.fields with
  | .error e => .error e
  | .ok fields => .ok (if d.timestamps then addTimestamps fields else fields)

/-- Refuses two fields with one generated column, and two indexes with one name. -/
def checkCollisions (collection : String) (fields : List Field) (indexes : List Index) :
    Except DeclarationError Unit :=
  match collision? generatedColumn [] ((fields.filter Field.indexed).map Field.name) with
  | some (column, first, second) => .error (.columnCollision column first second)
  | none =>
    match collision? (indexName collection) [] (indexSources fields indexes) with
    | some (index, first, second) => .error (.indexNameCollision index first second)
    | none => .ok ()

/-- The schema of a declaration, or the first thing that is wrong with it. -/
def build (d : Declaration) : Except DeclarationError Schema :=
  if !Sql.isPlainIdentifier d.bodyColumn.toList then .error
    (.invalidName d.bodyColumn .notIdentifier)
  else match d.resolvedFields with
    | .error e => .error e
    | .ok fields =>
      match checkIndexes fields [] d.indexes with
      | .error e => .error e
      | .ok () =>
        match checkCollisions d.collection fields d.indexes with
        | .error e => .error e
        | .ok () => .ok {
            collection := d.collection
            bodyColumn := d.bodyColumn
            fields
            indexes := d.indexes
            timestamps := d.timestamps
            cacheable := d.cacheable }

end Declaration

end DocumentQuery
