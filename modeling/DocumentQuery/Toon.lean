import DocumentQuery.Json.Printer
import DocumentQuery.Text.Blank
import DocumentQuery.Text.DecimalDigit
import DocumentQuery.Text.WordCharacter

/-!
# Token-oriented notation

An indented notation of JSON values with few quotes and brackets. Members come in the order of their
names. An array of plain values stands on one line; an array of objects with the same plain members
becomes a table of rows under their names; other arrays have one entry for each item. A list inside
a list is written only if all its items are plain.
-/

namespace DocumentQuery.Toon

/-- Puts a member in its place in the order of names. -/
def insertMember (m : String × Json) : List (String × Json) → List (String × Json)
  | [] => [m]
  | n :: rest => if m.1 ≤ n.1 then m :: n :: rest else n :: insertMember m rest

mutual

/-- The value with the members of every object in the order of their names. -/
def sortMembers : Json → Json
  | .array items => .array (sortItems items)
  | .object members => .object (sortPairs members)
  | plain => plain

def sortItems : List Json → List Json
  | [] => []
  | item :: rest => sortMembers item :: sortItems rest

def sortPairs : List (String × Json) → List (String × Json)
  | [] => []
  | (key, value) :: rest => insertMember (key, sortMembers value) (sortPairs rest)

end

def quotedChar (c : Char) : List Char :=
  if c = '\\' ∨ c = '"' then ['\\', c]
  else if c = '\n' then ['\\', 'n']
  else if c = '\r' then ['\\', 'r']
  else if c = '\t' then ['\\', 't']
  else [c]

def quoted (s : List Char) : List Char := '"' :: (s.flatMap quotedChar ++ ['"'])

/-- Whether the text is empty or an exponent with digits. -/
def isExponentPart : List Char → Bool
  | [] => true
  | 'e' :: rest =>
    let digits := match rest with
      | '+' :: ds => ds
      | '-' :: ds => ds
      | ds => ds
    !digits.isEmpty && digits.all Text.isDecimalDigit
  | _ => false

/-- Whether a text could be taken for a number: digits, a fraction and an exponent. -/
def looksNumeric (s : List Char) : Bool :=
  let unsigned := match s with
    | '-' :: rest => rest
    | _ => s
  let afterDigits := unsigned.dropWhile Text.isDecimalDigit
  afterDigits.length < unsigned.length &&
    match afterDigits with
    | '.' :: rest =>
      let afterFraction := rest.dropWhile Text.isDecimalDigit
      afterFraction.length < rest.length && isExponentPart afterFraction
    | rest => isExponentPart rest

/-- The characters that no bare text contains. -/
def isSpecial (c : Char) : Bool :=
  [':', '"', '\\', '[', ']', '\x7b', '\x7d', ',', '\n', '\r', '\t'].contains c

/-- Whether a text can stand without quotes. -/
def isBare (s : List Char) : Bool :=
  !s.isEmpty && Text.trim s == s && s != "true".toList && s != "false".toList && s !=
    "null".toList &&
    !looksNumeric s && !s.any isSpecial && !"- ".toList.isPrefixOf s

/-- A text with quotes if it needs them. -/
def stringText (s : String) : List Char := if isBare s.toList then s.toList else quoted s.toList

/-- Whether a name can stand without quotes: an ASCII letter or underscore, then word characters and
dots. -/
def isBareKey : List Char → Bool
  | [] => false
  | c :: rest => (c.isAlpha || c == '_') && rest.all fun d => d == '.' || Text.isWordCharacter d

/-- A name with quotes if it needs them. -/
def keyText (key : String) : List Char :=
  if isBareKey key.toList then key.toList else quoted key.toList

/-- A number: a whole one below `10 ^ 15` as its digits, any other as plain text of a double. -/
def numberText (n : Json.Number) : List Char :=
  let x := n.toBinary64
  match x.toInt? with
  | some i => if i.natAbs < 1000000000000000 then Json.integerText i else x.plainText
  | none => x.plainText

def plainText? : Json → Option (List Char)
  | .null => some "null".toList
  | .bool true => some "true".toList
  | .bool false => some "false".toList
  | .number n => some (numberText n)
  | .string s => some (stringText s)
  | .array _ => none
  | .object _ => none

/-- A line and how deep it stands. -/
structure Line where
  depth : Nat
  text : List Char

def commaList : List (List Char) → List Char
  | [] => []
  | [s] => s
  | s :: rest => s ++ ',' :: commaList rest

def countText (n : Nat) : List Char := '[' :: (Decimal.digitChars n ++ [']'])

/-- The line of an array of plain values, after its lead. -/
def plainArray (lead : List Char) (texts : List (List Char)) : List Char :=
  lead ++ countText texts.length ++ ':' :: (if texts.isEmpty then [] else ' ' :: commaList texts)

/-- The texts of all items, if all are plain. -/
def plainItems? (items : List Json) : Option (List (List Char)) := items.mapM plainText?

def innerPlainItems? : Json → Option (List (List Char))
  | .array items => plainItems? items
  | _ => none

/-- The members of each item, if all are objects. -/
def objectItems? (items : List Json) : Option (List (List (String × Json))) :=
  items.mapM Json.asObject?

/-- The row of an object under the given names. -/
def row? (keys : List String) (members : List (String × Json)) : Option (List (List Char)) :=
  if members.length = keys.length then
    keys.mapM fun key => (Json.lookup key members).bind plainText?
  else none

/-- The names and rows of a table, if the objects make one. -/
def table? : List (List (String × Json)) → Option (List String × List (List (List Char)))
  | [] => none
  | first :: rest =>
    let keys := first.map Prod.fst
    if keys.isEmpty then none
    else ((first :: rest).mapM (row? keys)).map fun rows => (keys, rows)

/-- The lines of a table, after its lead. -/
def tableLines (depth : Nat) (lead : List Char) (keys : List String)
    (rows : List (List (List Char))) :
    List Line :=
  ⟨depth, lead ++ countText rows.length ++
    '\x7b' :: (commaList (keys.map keyText) ++ ['\x7d', ':'])⟩ ::
    rows.map fun row => ⟨depth + 1, commaList row⟩

/-- The lines of an array, after its lead; the last argument holds those of its items one by one. -/
def arrayLines (depth : Nat) (lead : List Char) (items : List Json) (itemLines : List Line) :
    List Line :=
  match plainItems? items with
  | some texts => [⟨depth, plainArray lead texts⟩]
  | none =>
    let header : Line := ⟨depth, lead ++ countText items.length ++ [':']⟩
    match items.mapM innerPlainItems? with
    | some arrays => header :: arrays.map fun texts => ⟨depth + 1, plainArray ['-', ' '] texts⟩
    | none =>
      match (objectItems? items).bind table? with
      | some (keys, rows) => tableLines depth lead keys rows
      | none => header :: itemLines

mutual

/-- The lines of a member. -/
def memberLines (depth : Nat) (key : String) : Json → List Line
  | .array items => arrayLines depth (keyText key) items (itemsLines (depth + 1) items)
  | .object members => ⟨depth, keyText key ++ [':']⟩ :: membersLines (depth + 1) members
  | plain => [⟨depth, keyText key ++ ':' :: ' ' :: (plainText? plain).getD []⟩]

def membersLines (depth : Nat) : List (String × Json) → List Line
  | [] => []
  | (key, value) :: rest => memberLines depth key value ++ membersLines depth rest

def itemsLines (depth : Nat) : List Json → List Line
  | [] => []
  | item :: rest => entryLines depth item ++ itemsLines depth rest

def entryLines (depth : Nat) : Json → List Line
  | .array items =>
    match plainItems? items with
    | some texts => [⟨depth, plainArray ['-', ' '] texts⟩]
    | none => []
  | .object [] => [⟨depth, ['-']⟩]
  | .object ((key, value) :: rest) => firstLines depth key value ++ membersLines (depth + 1) rest
  | plain => [⟨depth, '-' :: ' ' :: (plainText? plain).getD []⟩]

/-- The lines of the first member of an object that is an item. -/
def firstLines (depth : Nat) (key : String) : Json → List Line
  | .array items =>
    let lead := '-' :: ' ' :: keyText key
    match plainItems? items with
    | some texts => [⟨depth, plainArray lead texts⟩]
    | none =>
      let header : Line := ⟨depth, lead ++ countText items.length ++ [':']⟩
      match objectItems? items with
      | some objects =>
        match table? objects with
        | some (keys, rows) => tableLines depth lead keys rows
        | none => header :: itemsLines (depth + 1) items
      | none => header :: arrayLines (depth + 1) [] items (itemsLines (depth + 2) items)
  | .object members =>
    ⟨depth, '-' :: ' ' :: (keyText key ++ [':'])⟩ :: membersLines (depth + 2) members
  | plain => [⟨depth, '-' :: ' ' :: (keyText key ++ ':' :: ' ' :: (plainText? plain).getD [])⟩]

end

def Line.chars (l : Line) : List Char := List.replicate (2 * l.depth) ' ' ++ l.text

/-- The lines of a value, its members being in order. -/
def lines : Json → List Line
  | .array items => arrayLines 0 [] items (itemsLines 1 items)
  | .object members => membersLines 0 members
  | plain => [⟨0, (plainText? plain).getD []⟩]

/-- The notation of a value. -/
def encode (j : Json) : String :=
  String.intercalate "\n" ((lines (sortMembers j)).map fun l => String.ofList l.chars)

end DocumentQuery.Toon
