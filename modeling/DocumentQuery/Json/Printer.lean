import DocumentQuery.Json.Basic
import DocumentQuery.Number.Decimal
import DocumentQuery.Text.Hex

/-!
# JSON text

Two layouts of a value: compact, without any blank, and pretty, with two spaces for each level. A
string escapes the quote, the backslash and the controls below the space, and nothing else.
-/

namespace DocumentQuery.Json

/-- One character as it stands in a string. -/
def escapedChar (c : Char) : List Char :=
  if c = '"' then ['\\', '"']
  else if c = '\\' then ['\\', '\\']
  else if c = '\x08' then ['\\', 'b']
  else if c = '\t' then ['\\', 't']
  else if c = '\n' then ['\\', 'n']
  else if c = '\x0c' then ['\\', 'f']
  else if c = '\r' then ['\\', 'r']
  else if c.toNat < 0x20 then '\\' :: 'u' :: Text.paddedHex 4 c.toNat
  else [c]

/-- A string in its quotes. -/
def stringText (s : String) : List Char := '"' :: (s.toList.flatMap escapedChar ++ ['"'])

/-- The decimal digits of an integer after its sign. -/
def integerText : Int → List Char
  | .ofNat n => Decimal.digitChars n
  | .negSucc n => '-' :: Decimal.digitChars (n + 1)

def Number.text : Number → List Char
  | .integer n _ => integerText n
  | .real x _ => x.jsonText

mutual

/-- A value without any blank. -/
def compact : Json → List Char
  | .null => ['n', 'u', 'l', 'l']
  | .bool true => ['t', 'r', 'u', 'e']
  | .bool false => ['f', 'a', 'l', 's', 'e']
  | .number n => n.text
  | .string s => stringText s
  | .array items => '[' :: (compactItems items ++ [']'])
  | .object members => '{' :: (compactMembers members ++ ['}'])

def compactItems : List Json → List Char
  | [] => []
  | [item] => compact item
  | item :: next :: rest => compact item ++ ',' :: compactItems (next :: rest)

def compactMembers : List (String × Json) → List Char
  | [] => []
  | [(key, value)] => stringText key ++ ':' :: compact value
  | (key, value) :: next :: rest =>
    stringText key ++ ':' :: (compact value ++ ',' :: compactMembers (next :: rest))

end

/-- A new line and the blanks of a level. -/
def newLine (level : Nat) : List Char := '\n' :: List.replicate (2 * level) ' '

mutual

/-- A value with one line for each item and member. -/
def pretty (level : Nat) : Json → List Char
  | .array [] => ['[', ']']
  | .array items => '[' :: (prettyItems (level + 1) items ++ newLine level ++ [']'])
  | .object [] => ['{', '}']
  | .object members => '{' :: (prettyMembers (level + 1) members ++ newLine level ++ ['}'])
  | other => compact other

def prettyItems (level : Nat) : List Json → List Char
  | [] => []
  | [item] => newLine level ++ pretty level item
  | item :: next :: rest =>
    newLine level ++ pretty level item ++ ',' :: prettyItems level (next :: rest)

def prettyMembers (level : Nat) : List (String × Json) → List Char
  | [] => []
  | [(key, value)] => newLine level ++ stringText key ++ ':' :: ' ' :: pretty level value
  | (key, value) :: next :: rest =>
    newLine level ++ stringText key ++ ':' :: ' ' ::
      (pretty level value ++ ',' :: prettyMembers level (next :: rest))

end

def compactText (j : Json) : String := String.ofList j.compact

def prettyText (j : Json) : String := String.ofList (pretty 0 j)

end DocumentQuery.Json
