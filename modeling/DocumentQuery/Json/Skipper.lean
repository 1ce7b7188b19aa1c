import DocumentQuery.Json.Cursor

/-!
# Passing over a value

The value of an unknown member is passed over without being kept. The pass checks less than a
reader: neither the depth nor the size of numbers nor the pairing of surrogates, and it reports a
list or object that ends early, or a misplaced comma, in its own words.
-/

namespace DocumentQuery.Json.Reader

/-- A list or an object that is open. -/
inductive Frame
  | list
  | object
  deriving DecidableEq, Repr

def Frame.close : Frame → Char
  | .list => ']'
  | .object => '\x7d'

def Frame.separatorFault : Frame → Fault
  | .list => .expectedListSeparator
  | .object => .expectedObjectSeparator

def Frame.endFault : Frame → Fault
  | .list => .endInList
  | .object => .endInObject

def skipExponent : Reader Unit := do
  skip
  let sign ← peek
  if sign = some '+' ∨ sign = some '-' then skip
  if !(← peek).any isDigit then failNext .badNumber
  discard digits

/-- Passes over a number after its sign. -/
def skipNumber : Reader Unit := do
  let first ← peek
  if !first.any isDigit then failNext .badNumber
  if first = some '0' then
    skip
    if (← peek).any isDigit then failNext .badNumber
  else discard digits
  if (← peek) = some '.' then
    skip
    if (← digits).isEmpty then failNext .badNumber
  let letter ← peek
  if letter = some 'e' ∨ letter = some 'E' then skipExponent

/-- Passes over a string after its first quote. The fuel bounds the number of escapes. -/
def skipString : Nat → Reader Unit
  | 0 => failNext .endInString
  | fuel + 1 => do
    discard (takeWhile isPlain)
    match ← peek with
    | none => failNext .endInString
    | some '"' => skip
    | some '\\' => do
      skip
      match ← peek with
      | none => failNext .endInString
      | some 'u' => do
        skip
        discard hexEscape
        skipString fuel
      | some letter =>
        if (escapedLetter? letter).isNone then failNext .badEscape
        else do
          skip
          skipString fuel
    | some _ => failHere .controlCharacter

/-- Passes over the name of a member and the colon after it. -/
def skipKey : Reader Unit := do
  match ← peekPiece with
  | some '"' => do
    skip
    skipString ((← get).rest.length + 1)
  | some _ => failNext .keyNotString
  | none => failNext .endInObject
  match ← peekPiece with
  | some ':' => skip
  | some _ => failNext .expectedColon
  | none => failNext .endInObject

mutual

/-- Passes over a value inside the given frames, the innermost first, and over what closes them. -/
def skipValue : Nat → List Frame → Reader Unit
  | 0, _ => failNext .endInValue
  | fuel + 1, frames => do
    match ← peekPiece with
    | none => failNext .endInValue
    | some 'n' => do skip; word ['u', 'l', 'l']; skipRest fuel true frames
    | some 't' => do skip; word ['r', 'u', 'e']; skipRest fuel true frames
    | some 'f' => do skip; word ['a', 'l', 's', 'e']; skipRest fuel true frames
    | some '-' => do skip; skipNumber; skipRest fuel true frames
    | some '"' => do
      skip
      skipString ((← get).rest.length + 1)
      skipRest fuel true frames
    | some '[' => do skip; skipRest fuel false (.list :: frames)
    | some '\x7b' => do skip; skipRest fuel false (.object :: frames)
    | some c =>
      if isDigit c then do skipNumber; skipRest fuel true frames
      else failNext .expectedValue

/-- Passes over what follows a value, or the opening of a frame, up to the next value or the end of
the outermost frame. -/
def skipRest : Nat → Bool → List Frame → Reader Unit
  | 0, _, _ => failNext .endInValue
  | _, _, [] => pure ()
  | fuel + 1, afterValue, frame :: frames => do
    match ← peekPiece with
    | none => failNext frame.endFault
    | some c =>
      if c = frame.close then do
        skip
        skipRest fuel true frames
      else if c = ',' ∧ afterValue = true then do
        skip
        skipNext fuel frame frames
      else if afterValue then failNext frame.separatorFault
      else skipNext fuel frame frames

/-- Passes over the next item or member of a frame. -/
def skipNext : Nat → Frame → List Frame → Reader Unit
  | 0, _, _ => failNext .endInValue
  | fuel + 1, frame, frames => do
    if frame = .object then skipKey
    skipValue fuel (frame :: frames)

end

end DocumentQuery.Json.Reader
