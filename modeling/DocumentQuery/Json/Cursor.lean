import DocumentQuery.Json.Fault

/-!
# Reading the pieces of a JSON text

A `Reader` moves a cursor over the characters of a text and counts the bytes behind it, since places
are given in bytes. A failure stands either where the cursor is or one byte further, at the byte
that is at fault. Here are the readers for words, numbers and strings.

A number without fraction and exponent that fits 64 bits is an integer. Of any other number the
digits are gathered into 64 bits until they no longer fit, and the double nearest to what was
gathered is multiplied or divided once by the double nearest to the power of ten.
-/

namespace DocumentQuery.Json

/-- What is left of a text, and the number of bytes before it. -/
structure Cursor where
  rest : List Char
  offset : Nat
  deriving Repr

/-- A step over a text that may fail; the cursor stays where it was when it failed. -/
abbrev Reader := ExceptT Failure (StateM Cursor)

namespace Reader

/-- Fails where the cursor is. -/
def failHere {α : Type} (fault : Fault) : Reader α := do
  throw ⟨fault, (← get).offset⟩

/-- Fails at the next byte, or at the end if there is none. -/
def failNext {α : Type} (fault : Fault) : Reader α := do
  let c ← get
  throw ⟨fault, if c.rest.isEmpty then c.offset else c.offset + 1⟩

def peek : Reader (Option Char) := do
  return (← get).rest.head?

def skip : Reader Unit :=
  modify fun c => match c.rest with
    | [] => c
    | d :: rest => ⟨rest, c.offset + d.utf8Size⟩

/-- The number of bytes that the characters take. -/
def utf8Length : List Char → Nat
  | [] => 0
  | c :: rest => c.utf8Size + utf8Length rest

/-- Moves past the characters at the cursor that have the property, and returns them. -/
def takeWhile (p : Char → Bool) : Reader (List Char) := do
  let c ← get
  let taken := c.rest.takeWhile p
  set (⟨c.rest.dropWhile p, c.offset + utf8Length taken⟩ : Cursor)
  return taken

/-- The blanks that JSON allows between its pieces. -/
def isBlank (c : Char) : Bool := c == ' ' || c == '\n' || c == '\t' || c == '\r'

/-- Moves past blanks and returns the character after them, left in place. -/
def peekPiece : Reader (Option Char) := do
  discard (takeWhile isBlank)
  peek

/-- Reads the rest of a word. -/
def word : List Char → Reader Unit
  | [] => pure ()
  | expected :: rest => do
    match ← peek with
    | none => failNext .endInValue
    | some c => if c = expected then do skip; word rest else failNext .expectedWord

def isDigit (c : Char) : Bool := '0' ≤ c && c ≤ '9'

def digitValue (c : Char) : Nat := c.toNat - '0'.toNat

def digits : Reader (List Nat) := return (← takeWhile isDigit).map digitValue

end Reader

/-- Gathers digits as long as the number fits 64 bits, and counts the digits left out. -/
def gather : Nat → List Nat → Nat × Nat
  | sum, [] => (sum, 0)
  | sum, d :: ds =>
    if sum * 10 + d < UInt64.size then gather (sum * 10 + d) ds else (sum, ds.length + 1)

/-- Divides by `10 ^ e`, in steps of at most `10 ^ 308`. -/
def divideByPower (x : Binary64) (e : Nat) : Binary64 :=
  if h : e ≤ 308 then x.div (.pow10 e)
  else if x.isZero then x
  else divideByPower (x.div (.pow10 308)) (e - 308)
  termination_by e
  decreasing_by omega

/-- The double for gathered digits and a power of ten, if it is finite. -/
def scale (sum : Nat) (e : Int) : Option Binary64 :=
  let x := Binary64.ofNat sum
  if e < 0 then some (divideByPower x e.natAbs)
  else if e ≤ 308 then
    let y := x.mul (.pow10 e.natAbs)
    if y.isFinite then some y else none
  else if x.isZero then some x
  else none

/-- The digits of an exponent as a number below `2 ^ 31`, or the count of digits up to the first
that makes it too large. -/
def gatherExponent : Nat → Nat → List Nat → Nat ⊕ Nat
  | sum, _, [] => .inl sum
  | sum, count, d :: ds =>
    if sum * 10 + d < 0x80000000 then gatherExponent (sum * 10 + d) (count + 1) ds
      else .inr (count + 1)

namespace Reader

def realNumber (negative : Bool) (x : Binary64) : Reader Number :=
  let y := if negative then x.neg else x
  if h : y.isFinite = true then return .real y h else failHere .numberOutOfRange

/-- The number made of gathered digits and a power of ten. -/
def scaledNumber (negative : Bool) (sum : Nat) (e : Int) : Reader Number :=
  match scale sum e with
  | some x => realNumber negative x
  | none => failHere .numberOutOfRange

/-- Reads an exponent, the cursor being at its letter, and finishes the number. -/
def exponentPart (negative : Bool) (sum : Nat) (e : Int) : Reader Number := do
  skip
  let sign ← peek
  if sign = some '+' ∨ sign = some '-' then skip
  match ← peek with
  | none => failNext .endInValue
  | some c => if !isDigit c then failNext .badNumber
  let start := (← get).offset
  let ds ← digits
  match gatherExponent 0 0 ds with
  | .inl n => scaledNumber negative sum (if sign = some '-' then e - n else e + n)
  | .inr count =>
    if sum ≠ 0 ∧ sign ≠ some '-' then throw ⟨.numberOutOfRange, start + count⟩
    else realNumber negative .zero

/-- Reads a fraction, the cursor being at its point, and finishes the number. -/
def fractionPart (negative : Bool) (sum : Nat) (e : Int) : Reader Number := do
  skip
  let ds ← digits
  if ds.isEmpty then
    match ← peek with
    | none => failNext .endInValue
    | some _ => failNext .badNumber
  let (sum, dropped) := gather sum ds
  let e := e - (ds.length - dropped : Nat)
  match ← peek with
  | some 'e' => exponentPart negative sum e
  | some 'E' => exponentPart negative sum e
  | _ => scaledNumber negative sum e

/-- The number without fraction and exponent: an integer if it fits, and not the negative zero. -/
def wholeNumber (negative : Bool) (sum dropped : Nat) : Reader Number :=
  let n : Int := if negative then -(sum : Int) else sum
  if dropped = 0 ∧ ¬(negative = true ∧ (sum = 0 ∨ 0x8000000000000000 < sum)) then
    if h : FitsWord n then return .integer n h else scaledNumber negative sum 0
  else scaledNumber negative sum dropped

def number (negative : Bool) : Reader Number := do
  let first ← peek
  match first with
  | none => failNext .endInValue
  | some c => if !isDigit c then failNext .badNumber
  let ds ← if first = some '0' then do
      skip
      if (← peek).any isDigit then failNext .badNumber
      pure [0]
    else digits
  let (sum, dropped) := gather 0 ds
  match ← peek with
  | some '.' => fractionPart negative sum dropped
  | some 'e' => exponentPart negative sum dropped
  | some 'E' => exponentPart negative sum dropped
  | _ => wholeNumber negative sum dropped

def hexQuad? : List Char → Option Nat
  | a :: b :: c :: d :: _ => do
    return (((← Text.hexDigit? a) * 16 + (← Text.hexDigit? b)) * 16 + (← Text.hexDigit? c)) * 16
      + (← Text.hexDigit? d)
  | _ => none

def hexEscape : Reader Nat := do
  let c ← get
  match hexQuad? c.rest with
  | some n => do
    set (⟨c.rest.drop 4, c.offset + 4⟩ : Cursor)
    return n
  | none =>
    let left := utf8Length c.rest
    if left < 4 then throw ⟨.endInString, c.offset + left⟩ else throw ⟨.badEscape, c.offset + 4⟩

/-- Reads the character of a hexadecimal escape, the second half of a pair included. -/
def unicodeEscape : Reader Char := do
  let high ← hexEscape
  if 0xDC00 ≤ high ∧ high ≤ 0xDFFF then failHere .loneSurrogate
  if high < 0xD800 ∨ 0xDBFF < high then return Char.ofNat high
  match ← peek with
  | none => failNext .endInString
  | some c => if c ≠ '\\' then failNext .endInHexEscape
  skip
  match ← peek with
  | none => failNext .endInString
  | some c => if c ≠ 'u' then failNext .endInHexEscape
  skip
  let low ← hexEscape
  if low < 0xDC00 ∨ 0xDFFF < low then failHere .loneSurrogate
  return Char.ofNat (0x10000 + (high - 0xD800) * 0x400 + (low - 0xDC00))

/-- The character that a letter after a backslash stands for. -/
def escapedLetter? : Char → Option Char
  | '"' => some '"'
  | '\\' => some '\\'
  | '/' => some '/'
  | 'b' => some '\x08'
  | 'f' => some '\x0c'
  | 'n' => some '\n'
  | 'r' => some '\r'
  | 't' => some '\t'
  | _ => none

def isPlain (c : Char) : Bool := c != '"' && c != '\\' && 0x20 ≤ c.toNat

/-- Reads what is left of a string after its first quote. The fuel bounds the number of escapes. -/
def stringBody : Nat → Reader (List Char)
  | 0 => failNext .endInString
  | fuel + 1 => do
    let plain ← takeWhile isPlain
    match ← peek with
    | none => failNext .endInString
    | some '"' => do
      skip
      return plain
    | some '\\' => do
      skip
      match ← peek with
      | none => failNext .endInString
      | some 'u' => do
        skip
        let c ← unicodeEscape
        return plain ++ c :: (← stringBody fuel)
      | some letter =>
        match escapedLetter? letter with
        | none => failNext .badEscape
        | some c => do
          skip
          return plain ++ c :: (← stringBody fuel)
    | some _ => failNext .controlCharacter

def string : Reader String := do
  return String.ofList (← stringBody ((← get).rest.length + 1))

end Reader

end DocumentQuery.Json
