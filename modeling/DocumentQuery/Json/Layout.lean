import DocumentQuery.Json.Skipper

/-!
# Reading JSON text of a given layout

A `Layout` says what a value is to look like: anything, one of the plain kinds, a list, or a record
of named members, which may also be written as the list of its members in order. `Json.read` reads a
whole text of a layout. What it returns fits the layout; of a record that is written as an object,
members without a known name are left out.

Members are read as they come. A member that is missing or written twice is reported where the
reader stands after it has tried to close the record.
-/

namespace DocumentQuery.Json

/-- The form that a value is to have. -/
inductive Layout
  | any
  | flag
  | text
  | size
  | choice (names : List String)
  | optional (inner : Layout)
  | list (inner : Layout)
  | record (name : String) (members : List (String × Bool × Layout))
  deriving Inhabited

def Layout.expectation : Layout → String
  | .any => "any value"
  | .flag => "a boolean"
  | .text => "a string"
  | .size => "usize"
  | .choice _ => "variant identifier"
  | .optional inner => inner.expectation
  | .list _ => "a sequence"
  | .record name _ => "struct " ++ name

/-- How many containers may be open at once, and one more. -/
def depthLimit : Nat := 128

namespace Reader

/-- Tries to close something, and fails where that attempt ends. -/
def failAfter {α : Type} (close : Reader Unit) (fault : Fault) : Reader α := do
  tryCatch close fun _ => pure ()
  failHere fault

def closeList : Reader Unit := do
  match ← peekPiece with
  | some ']' => skip
  | some ',' => do
    skip
    if (← peekPiece) = some ']' then failNext .trailingComma else failNext .trailingCharacters
  | some _ => failNext .trailingCharacters
  | none => failNext .endInList

def closeObject : Reader Unit := do
  match ← peekPiece with
  | some '\x7d' => skip
  | some ',' => failNext .trailingComma
  | some _ => failNext .trailingCharacters
  | none => failNext .endInObject

/-- Moves to the next item of a list, if there is one; before the first no comma is due. -/
def nextItem (first : Bool) : Reader Bool := do
  match ← peekPiece with
  | none => failNext .endInList
  | some ']' => return false
  | some c =>
    if first then return true
    else if c = ',' then do
      skip
      match ← peekPiece with
      | none => failNext .endInValue
      | some ']' => failNext .trailingComma
      | some _ => return true
    else failNext .expectedListSeparator

/-- Reads the name of the next member of an object, if there is one; before the first no comma is
due. -/
def nextKey (first : Bool) : Reader (Option String) := do
  match ← peekPiece with
  | none => failNext .endInObject
  | some '\x7d' => return none
  | some c => do
    if !first then
      if c = ',' then
        skip
        match ← peekPiece with
        | none => failNext .endInValue
        | some '\x7d' => failNext .trailingComma
        | some _ => pure ()
      else failNext .expectedObjectSeparator
    if (← peek) = some '"' then do
      skip
      return some (← string)
    else failNext .keyNotString

def colon : Reader Unit := do
  match ← peekPiece with
  | some ':' => skip
  | some _ => failNext .expectedColon
  | none => failNext .endInObject

/-- Moves past the opening of a container and tells how many more may be opened inside it. -/
def enter (depth : Nat) : Reader Nat := do
  if depth ≤ 1 then failNext .tooDeep
  skip
  return depth - 1

/-- Reads a plain value that has the wrong type, and fails behind it; a container is not entered. -/
def wrongType {α : Type} (expected : String) : Reader α := do
  match ← peek with
  | some 'n' => do skip; word ['u', 'l', 'l']; failHere (.wrongType .null expected)
  | some 't' => do skip; word ['r', 'u', 'e']; failHere (.wrongType (.bool true) expected)
  | some 'f' => do skip; word ['a', 'l', 's', 'e']; failHere (.wrongType (.bool false) expected)
  | some '-' => do
    skip
    let n ← number true
    failHere (.wrongType (.number n) expected)
  | some '"' => do
    skip
    let s ← string
    failHere (.wrongType (.string s) expected)
  | some '[' => failHere (.wrongType .sequence expected)
  | some '\x7b' => failHere (.wrongType .map expected)
  | some c =>
    if isDigit c then do
      let n ← number false
      failHere (.wrongType (.number n) expected)
    else failNext .expectedValue
  | none => failNext .expectedValue

/-- A number that counts something. -/
def sizeNumber (n : Number) : Reader Json :=
  match n with
  | .integer i _ =>
    if 0 ≤ i then return .number n else failHere (.wrongValue (.number n) Layout.size.expectation)
  | .real _ _ => failHere (.wrongType (.number n) Layout.size.expectation)

/-- Reads the name of one of the choices, whose opening quote comes next. -/
def choiceName (names : List String) : Reader String := do
  skip
  let s ← string
  if names.contains s then return s else failHere (.unknownChoice s names)

/-- Reads the only name of a choice that is written as an object. -/
def choiceKey (names : List String) : Reader String := do
  match ← peekPiece with
  | some '"' => choiceName names
  | some '\x7d' => failNext .expectedValue
  | some _ => failNext .keyNotString
  | none => failNext .endInObject

/-- Reads nothing but a null. -/
def nothing : Reader Unit := do
  match ← peekPiece with
  | none => failNext .endInValue
  | some 'n' => do skip; word ['u', 'l', 'l']
  | some _ => wrongType "unit"

/-- Reads a choice: its name, or an object with nothing but a null under its name. -/
def choice (depth : Nat) (names : List String) : Reader Json := do
  match ← peekPiece with
  | none => failNext .endInValue
  | some '"' => return .string (← choiceName names)
  | some '\x7b' => do
    discard (enter depth)
    let s ← choiceKey names
    colon
    nothing
    match ← peekPiece with
    | some '\x7d' => do
      skip
      return .string s
    | some _ => failHere .expectedValue
    | none => failHere .endInObject
  | some _ => failNext .expectedValue

/-- Fails if a member is missing that has to be there. -/
def requireMembers (members : List (String × Bool × Layout)) (found : List (String × Json)) :
    Reader Unit :=
  match members.find? fun m => m.2.1 && (lookup m.1 found).isNone with
  | some m => failAfter closeObject (.missingMember m.1)
  | none => pure ()

def recordLength (name : String) (members : List (String × Bool × Layout)) : String :=
  "struct " ++ name ++ " with " ++ toString members.length ++
    (if members.length = 1 then " element" else " elements")

mutual

/-- Reads a value of the given layout. The fuel bounds the steps, the depth the open containers. -/
def value : Nat → Nat → Layout → Reader Json
  | 0, _, _ => failNext .endInValue
  | fuel + 1, depth, layout => do
    match ← peekPiece with
    | none => failNext .endInValue
    | some c =>
      match layout with
      | .any => anyValue fuel depth c
      | .flag =>
        if c = 't' then do skip; word ['r', 'u', 'e']; return .bool true
        else if c = 'f' then do skip; word ['a', 'l', 's', 'e']; return .bool false
        else wrongType layout.expectation
      | .text =>
        if c = '"' then do
          skip
          return .string (← string)
        else wrongType layout.expectation
      | .size =>
        if c = '-' then do
          skip
          sizeNumber (← number true)
        else if isDigit c then do sizeNumber (← number false)
        else wrongType layout.expectation
      | .choice names => choice depth names
      | .optional inner =>
        if c = 'n' then do skip; word ['u', 'l', 'l']; return .null
        else value fuel depth inner
      | .list inner =>
        if c = '[' then do
          let depth ← enter depth
          let items ← listItems fuel depth inner true
          closeList
          return .array items
        else wrongType layout.expectation
      | .record name members =>
        if c = '\x7b' then do
          let depth ← enter depth
          let found ← recordMembers fuel depth members [] true
          requireMembers members found
          closeObject
          return .object found
        else if c = '[' then do
          let depth ← enter depth
          let items ← recordItems fuel depth name members members 0
          closeList
          return .array items
        else wrongType layout.expectation

/-- Reads a value of any form, the cursor being at its first character. -/
def anyValue : Nat → Nat → Char → Reader Json
  | 0, _, _ => failNext .endInValue
  | fuel + 1, depth, c => do
    match c with
    | 'n' => do skip; word ['u', 'l', 'l']; return .null
    | 't' => do skip; word ['r', 'u', 'e']; return .bool true
    | 'f' => do skip; word ['a', 'l', 's', 'e']; return .bool false
    | '"' => do
      skip
      return .string (← string)
    | '-' => do
      skip
      return .number (← number true)
    | '[' => do
      let depth ← enter depth
      let items ← listItems fuel depth .any true
      closeList
      return .array items
    | '\x7b' => do
      let depth ← enter depth
      let found ← anyMembers fuel depth [] true
      closeObject
      return .object found
    | c => if isDigit c then return .number (← number false) else failNext .expectedValue

/-- Reads the items of a list. -/
def listItems : Nat → Nat → Layout → Bool → Reader (List Json)
  | 0, _, _, _ => failNext .endInValue
  | fuel + 1, depth, layout, first => do
    if ← nextItem first then do
      let item ← value fuel depth layout
      return item :: (← listItems fuel depth layout false)
    else return []

/-- Reads the members of an object of any form. A name that comes again takes the later value. -/
def anyMembers : Nat → Nat → List (String × Json) → Bool → Reader (List (String × Json))
  | 0, _, _, _ => failNext .endInValue
  | fuel + 1, depth, found, first => do
    match ← nextKey first with
    | none => return found
    | some key => do
      colon
      let v ← value fuel depth .any
      anyMembers fuel depth (insert key v found) false

/-- Reads the members of a record that is written as an object, and passes over those it has no name
for. -/
def recordMembers : Nat → Nat → List (String × Bool × Layout) → List (String × Json) → Bool →
    Reader (List (String × Json))
  | 0, _, _, _, _ => failNext .endInValue
  | fuel + 1, depth, members, found, first => do
    match ← nextKey first with
    | none => return found
    | some key =>
      match members.find? fun m => m.1 == key with
      | some m =>
        if (lookup key found).isSome then failAfter closeObject (.repeatedMember key)
        else do
          colon
          let v ← value fuel depth m.2.2
          recordMembers fuel depth members (insert key v found) false
      | none => do
        colon
        skipValue (4 * (← get).rest.length + 4) []
        recordMembers fuel depth members found false

/-- Reads the members of a record that is written as a list; at its end those left over have to be
ones that may be missing. -/
def recordItems : Nat → Nat → String → List (String × Bool × Layout) →
    List (String × Bool × Layout) → Nat → Reader (List Json)
  | 0, _, _, _, _, _ => failNext .endInValue
  | _, _, _, _, [], _ => return []
  | fuel + 1, depth, name, all, m :: members, count => do
    if ← nextItem (count == 0) then do
      let v ← value fuel depth m.2.2
      return v :: (← recordItems fuel depth name all members (count + 1))
    else if m.2.1 then failAfter closeList (.wrongLength count (recordLength name all))
    else recordItems fuel depth name all members count

end

/-- Reads a value and the blanks after it, up to the end of the text. -/
def document (layout : Layout) : Reader Json := do
  let v ← value (4 * (← get).rest.length + 16) depthLimit layout
  match ← peekPiece with
  | none => return v
  | some _ => failNext .trailingCharacters

end Reader

/-- Reads a text that is one value of the given layout. -/
def read (layout : Layout) (text : String) : Except Error Json :=
  match (Reader.document layout).run.run ⟨text.toList, 0⟩ with
  | (.ok v, _) => .ok v
  | (.error f, _) => .error (f.locate text)

/-- Reads a text that is one value of any form. -/
def parse (text : String) : Except Error Json := read .any text

end DocumentQuery.Json
