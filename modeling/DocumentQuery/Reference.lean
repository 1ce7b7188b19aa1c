import DocumentQuery.Schema.Basic
import DocumentQuery.Sql.Token

/-!
# Where a field is read

A field name is resolved against a root: the document of a row, or the element of an array that is
iterated over. A field of a document that is indexed is read from its generated column, any other by
extraction along its path. A name that is not declared resolves all the same, to a path made from
the name. Inside an element there are no generated columns.
-/

namespace DocumentQuery

/-- What names are resolved against. -/
inductive Root
  | document
  | element (depth : Nat)
  deriving DecidableEq, Repr

/-- The depth of an iteration inside the root, which hides no other. -/
def Root.nextDepth : Root → Nat
  | .document => 1
  | .element depth => depth + 1

/-- The alias that the root goes by. -/
def Root.alias? : Root → Option String
  | .document => none
  | .element depth => some (Sql.elementAlias depth)

/-- What a path is followed from. -/
inductive Source
  | body (column : String)
  | element (depth : Nat)
  deriving DecidableEq, Repr

/-- The value of the elements at a depth. -/
def elementValue (depth : Nat) : List Sql.Token :=
  [.element depth, .symbol .dot, .elementColumn .value]

def Source.tokens : Source → List Sql.Token
  | .body column => [.body column]
  | .element depth => elementValue depth

/-- A field as a statement reads it. -/
inductive Reference
  | column (name body path : String)
  /-- The value at the end of a path. -/
  | extract (source : Source) (path : String)
  | element (depth : Nat)
  deriving DecidableEq, Repr

namespace Reference

/-- A call of a function on the place of the field in its document. -/
def callOn (r : Reference) (f : Sql.Function) : List Sql.Token :=
  match r with
  | .column _ body path => Sql.call f [[.body body], [.string path]]
  | .extract source path => Sql.call f [source.tokens, [.string path]]
  | .element depth => Sql.call f [elementValue depth]

def value : Reference → List Sql.Token
  | .column name _ _ => [.generated name]
  | .extract source path => Sql.call .extract [source.tokens, [.string path]]
  | .element depth => elementValue depth

/-- The JSON type of the field, null if the field is absent. -/
def typeOf : Reference → List Sql.Token
  | .element depth => [.element depth, .symbol .dot, .elementColumn .type]
  | r => r.callOn .typeOf

/-- The number of items in the array that the field is. -/
def arrayLength (r : Reference) : List Sql.Token := r.callOn .arrayLength

/-- The items of the array that the field is, as rows. -/
def each (r : Reference) : List Sql.Token := r.callOn .each

def isColumn : Reference → Bool
  | .column _ _ _ => true
  | _ => false

end Reference

namespace Schema

/-- The reference to a declared field of a document. -/
def referenceTo (s : Schema) (f : Field) : Reference :=
  if f.indexed then .column f.column s.bodyColumn f.path else .extract (.body s.bodyColumn) f.path

def resolve (s : Schema) (field : String) : Reference :=
  match s.field? field with
  | some f => s.referenceTo f
  | none => .extract (.body s.bodyColumn) (Path.ofField field)

def resolveElement (depth : Nat) (field : String) : Reference :=
  if Path.isSelf field then .element depth else .extract (.element depth) (Path.ofField field)

def resolveIn (s : Schema) (root : Root) (field : String) : Reference :=
  match root with
  | .document => s.resolve field
  | .element depth => resolveElement depth field

theorem resolve_cases (s : Schema) (name : String) :
    (∃ f : Field, s.resolve name = .column f.column s.bodyColumn f.path) ∨
      ∃ path, s.resolve name = .extract (.body s.bodyColumn) path := by
  rw [resolve]
  cases s.field? name with
  | none => exact .inr ⟨_, rfl⟩
  | some f =>
    cases hi : f.indexed with
    | true => exact .inl ⟨f, by simp [referenceTo, hi]⟩
    | false => exact .inr ⟨f.path, by simp [referenceTo, hi]⟩

end Schema

end DocumentQuery
