import DocumentQuery.Json.Printer
import DocumentQuery.Text.Quoted

/-!
# What can be wrong with a JSON text

A `Fault` is a cause; an `Error` is a fault with its place: the line, from one, and the number of
bytes of that line up to and including the one at fault.
-/

namespace DocumentQuery.Json

/-- What a reader found in the place of what it expected. -/
inductive Found
  | null
  | bool (b : Bool)
  | number (n : Number)
  | string (s : String)
  | sequence
  | map
  deriving Repr

/-- Why a text is not JSON, or not of the form that was asked for. -/
inductive Fault
  | endInValue
  | endInList
  | endInObject
  | endInString
  | expectedValue
  | expectedWord
  | expectedColon
  | expectedListSeparator
  | expectedObjectSeparator
  | keyNotString
  | trailingComma
  | trailingCharacters
  | tooDeep
  | badNumber
  | numberOutOfRange
  | badEscape
  | endInHexEscape
  | loneSurrogate
  | controlCharacter
  | wrongType (found : Found) (expected : String)
  | wrongValue (found : Found) (expected : String)
  | wrongLength (count : Nat) (expected : String)
  | missingMember (key : String)
  | repeatedMember (key : String)
  | unknownChoice (name : String) (choices : List String)
  deriving Repr

def Found.text : Found → String
  | .null => "null"
  | .bool true => "boolean `true`"
  | .bool false => "boolean `false`"
  | .number (.integer n _) => "integer `" ++ String.ofList (integerText n) ++ "`"
  | .number (.real x _) => "floating point `" ++ String.ofList x.jsonText ++ "`"
  | .string s => "string " ++ String.ofList (Text.quoted s)
  | .sequence => "sequence"
  | .map => "map"

/-- A list of choices as it stands in a message. -/
def choicesText (names : List String) : String :=
  let shown := names.map fun n => "`" ++ n ++ "`"
  match shown with
  | [] => "there are no variants"
  | [a] => a
  | [a, b] => a ++ " or " ++ b
  | _ => "one of " ++ String.intercalate ", " shown

def Fault.message : Fault → String
  | .endInValue => "EOF while parsing a value"
  | .endInList => "EOF while parsing a list"
  | .endInObject => "EOF while parsing an object"
  | .endInString => "EOF while parsing a string"
  | .expectedValue => "expected value"
  | .expectedWord => "expected ident"
  | .expectedColon => "expected `:`"
  | .expectedListSeparator => "expected `,` or `]`"
  | .expectedObjectSeparator => "expected `,` or `\x7d`"
  | .keyNotString => "key must be a string"
  | .trailingComma => "trailing comma"
  | .trailingCharacters => "trailing characters"
  | .tooDeep => "recursion limit exceeded"
  | .badNumber => "invalid number"
  | .numberOutOfRange => "number out of range"
  | .badEscape => "invalid escape"
  | .endInHexEscape => "unexpected end of hex escape"
  | .loneSurrogate => "lone leading surrogate in hex escape"
  | .controlCharacter => "control character (\\u0000-\\u001F) found while parsing a string"
  | .wrongType found expected => "invalid type: " ++ found.text ++ ", expected " ++ expected
  | .wrongValue found expected => "invalid value: " ++ found.text ++ ", expected " ++ expected
  | .wrongLength count expected => "invalid length " ++ toString count ++ ", expected " ++ expected
  | .missingMember key => "missing field `" ++ key ++ "`"
  | .repeatedMember key => "duplicate field `" ++ key ++ "`"
  | .unknownChoice name choices =>
    "unknown variant `" ++ name ++ "`, expected " ++ choicesText choices

/-- A fault at a number of bytes from the start of the text. -/
structure Failure where
  fault : Fault
  offset : Nat
  deriving Repr

/-- A fault with its place in the text. -/
structure Error where
  fault : Fault
  line : Nat
  column : Nat
  deriving Repr

/-- The line and column that many bytes into a text, counted on from the given ones. -/
def place : Nat → Nat × Nat → List Char → Nat × Nat
  | _, spot, [] => spot
  | bytes, spot, c :: rest =>
    if bytes = 0 then spot
    else if c = '\n' then place (bytes - 1) (spot.1 + 1, 0) rest
    else place (bytes - c.utf8Size) (spot.1, spot.2 + min bytes c.utf8Size) rest

/-- The failure with its offset turned into a line and a column. -/
def Failure.locate (f : Failure) (text : String) : Error :=
  let spot := place f.offset (1, 0) text.toList
  ⟨f.fault, spot.1, spot.2⟩

def Error.message (e : Error) : String :=
  e.fault.message ++ " at line " ++ toString e.line ++ " column " ++ toString e.column

end DocumentQuery.Json
