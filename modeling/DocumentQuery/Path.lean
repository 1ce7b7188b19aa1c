import DocumentQuery.Sql.Quote

/-!
# Paths into a document

The name of a field is a list of segments with dots between them. Its path begins with a dollar
sign; a segment of digits becomes an array index in brackets, any other a key after a dot, which is
quoted unless it is a plain identifier. The empty name and the dollar sign alone name the document
itself.
-/

namespace DocumentQuery.Path

/-- The pieces of a name between its dots; there is always one. -/
def segments : List Char → List (List Char)
  | [] => [[]]
  | c :: rest =>
    if c = '.' then [] :: segments rest
    else match segments rest with
      | [] => [[c]]
      | piece :: more => (c :: piece) :: more

/-- Whether the name stands for the whole document or element. -/
def isSelf (field : String) : Bool := field == "" || field == "$"

/-- One character of a quoted key. -/
def keyChar (c : Char) : List Char := if c = '\\' ∨ c = '"' then ['\\', c] else [c]

/-- A key in double quotes, with a backslash before each quote and backslash. -/
def quotedKey (key : List Char) : List Char := '"' :: (key.flatMap keyChar ++ ['"'])

/-- A key as it stands in a path. -/
def key (k : List Char) : List Char := if Sql.isPlainIdentifier k then k else quotedKey k

def isIndex (segment : List Char) : Bool := !segment.isEmpty && segment.all Char.isDigit

def step (segment : List Char) : List Char :=
  if isIndex segment then '[' :: (segment ++ [']']) else '.' :: key segment

def chars (field : String) : List Char :=
  if isSelf field then ['$'] else '$' :: (segments field.toList).flatMap step

def ofField (field : String) : String := String.ofList (chars field)

theorem segments_ne_nil (s : List Char) : segments s ≠ [] := by
  cases s with
  | nil => simp [segments]
  | cons c rest =>
    simp only [segments]
    split
    · simp
    · split <;> simp

end DocumentQuery.Path
