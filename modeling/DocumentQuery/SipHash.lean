/-!
# SipHash-1-3

The keyed hash with one round for each word and three at the end, under the zero key. `SipHash.hash`
turns a stream of bytes into 64 bits; it depends on the stream only, never on the pieces in which it
was written.
-/

namespace DocumentQuery.SipHash

/-- The four words that are mixed. -/
structure State where
  v0 : UInt64
  v1 : UInt64
  v2 : UInt64
  v3 : UInt64
  deriving DecidableEq, Repr, Inhabited

/-- The start under the zero key. -/
def State.initial : State :=
  ⟨0x736f6d6570736575, 0x646f72616e646f6d, 0x6c7967656e657261, 0x7465646279746573⟩

def rotateLeft (x : UInt64) (n : UInt64) : UInt64 := (x <<< n) ||| (x >>> (64 - n))

/-- One round of mixing. -/
def State.round (s : State) : State :=
  let v0 := s.v0 + s.v1
  let v1 := rotateLeft s.v1 13 ^^^ v0
  let v0 := rotateLeft v0 32
  let v2 := s.v2 + s.v3
  let v3 := rotateLeft s.v3 16 ^^^ v2
  let v0 := v0 + v3
  let v3 := rotateLeft v3 21 ^^^ v0
  let v2 := v2 + v1
  let v1 := rotateLeft v1 17 ^^^ v2
  let v2 := rotateLeft v2 32
  ⟨v0, v1, v2, v3⟩

/-- Mixes in one word of the stream. -/
def State.absorb (s : State) (word : UInt64) : State :=
  let mixed := { s with v3 := s.v3 ^^^ word }.round
  { mixed with v0 := mixed.v0 ^^^ word }

/-- The number that a list of bytes spells, lowest byte first. -/
def littleEndian : List UInt8 → UInt64
  | [] => 0
  | b :: rest => b.toUInt64 ||| (littleEndian rest <<< 8)

/-- Absorbs the whole words of the stream, then the bytes left over under the length of it all. -/
def absorbAll (length : Nat) : State → List UInt8 → State
  | s, b0 :: b1 :: b2 :: b3 :: b4 :: b5 :: b6 :: b7 :: rest =>
    absorbAll length (s.absorb (littleEndian [b0, b1, b2, b3, b4, b5, b6, b7])) rest
  | s, rest => s.absorb (littleEndian rest ||| (UInt64.ofNat length <<< 56))

def hash (bytes : List UInt8) : UInt64 :=
  let s := absorbAll bytes.length .initial bytes
  let s := { s with v2 := s.v2 ^^^ 0xff }.round.round.round
  s.v0 ^^^ s.v1 ^^^ s.v2 ^^^ s.v3

/-- The eight bytes of a word, lowest first. -/
def wordBytes (w : UInt64) : List UInt8 :=
  [w.toUInt8, (w >>> 8).toUInt8, (w >>> 16).toUInt8, (w >>> 24).toUInt8,
    (w >>> 32).toUInt8, (w >>> 40).toUInt8, (w >>> 48).toUInt8, (w >>> 56).toUInt8]

@[simp] theorem length_wordBytes (w : UInt64) : (wordBytes w).length = 8 := rfl

/-- The bytes of a text in UTF-8. -/
def textBytes (s : String) : List UInt8 := s.toList.flatMap String.utf8EncodeChar

end DocumentQuery.SipHash
