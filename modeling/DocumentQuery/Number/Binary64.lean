/-!
# Double precision numbers

A double is kept as its 64 bits, so that two of them are equal exactly when their bits are, a NaN
included. `Binary64.nearest` rounds a positive fraction of natural numbers, ties to even; the other
operations are exact fractions followed by that one rounding.
-/

namespace DocumentQuery

/-- An IEEE 754 double, given by its bits. -/
structure Binary64 where
  bits : UInt64
  deriving DecidableEq, Repr, Inhabited

namespace Binary64

def magnitude (x : Binary64) : Nat := x.bits.toNat % Nat.pow 2 63

def isNegative (x : Binary64) : Bool := Nat.pow 2 63 ≤ x.bits.toNat

/-- The exponent field, from 0 to 2047. -/
def biasedExponent (x : Binary64) : Nat := x.magnitude / Nat.pow 2 52

/-- The fraction field, below `2 ^ 52`. -/
def fraction (x : Binary64) : Nat := x.magnitude % Nat.pow 2 52

def isFinite (x : Binary64) : Bool := x.biasedExponent < 2047

def isNaN (x : Binary64) : Bool := x.biasedExponent == 2047 && x.fraction != 0

def isZero (x : Binary64) : Bool := x.magnitude == 0

/-- A finite double has the absolute value `significand * 2 ^ exponent`. -/
def significand (x : Binary64) : Nat :=
  if x.biasedExponent = 0 then x.fraction else Nat.pow 2 52 + x.fraction

/-- The power of two that goes with `significand`. -/
def exponent (x : Binary64) : Int := (max x.biasedExponent 1 : Nat) - 1075

/-- The double whose bits without the sign are `n`. -/
def ofMagnitude (n : Nat) : Binary64 := ⟨UInt64.ofNat n⟩

def zero : Binary64 := ofMagnitude 0

def infinity : Binary64 := ofMagnitude (2047 * Nat.pow 2 52)

/-- The same magnitude under the other sign. -/
def neg (x : Binary64) : Binary64 := ⟨x.bits ^^^ 0x8000000000000000⟩

/-- The quotient rounded to a natural number, a half to the even neighbour. -/
def divideToEven (num den : Nat) : Nat :=
  let floor := num / den
  let twice := 2 * (num % den)
  if twice < den then floor
  else if den < twice then floor + 1
  else floor + floor % 2

/-- The largest `e` with `2 ^ e ≤ num / den`, for positive `num` and `den`. -/
def binaryExponent (num den : Nat) : Int :=
  let guess : Int := (num.log2 : Int) - (den.log2 : Int)
  if den * Nat.pow 2 guess.toNat ≤ num * Nat.pow 2 (-guess).toNat then guess else guess - 1

/-- The double nearest to `num / den`, ties to even; too large a fraction becomes infinity. A carry
out of the significand lands in the exponent field, where it belongs. -/
def nearest (num den : Nat) : Binary64 :=
  if num = 0 ∨ den = 0 then zero
  else
    let scale : Int := max (binaryExponent num den - 52) (-1074)
    let digits := divideToEven (num * Nat.pow 2 (-scale).toNat) (den * Nat.pow 2 scale.toNat)
    ofMagnitude (min ((scale + 1074).toNat * Nat.pow 2 52 + digits) (2047 * Nat.pow 2 52))

def ofNat (n : Nat) : Binary64 := nearest n 1

def ofInt : Int → Binary64
  | .ofNat n => ofNat n
  | .negSucc n => (ofNat (n + 1)).neg

/-- The product of two finite, non-negative doubles. -/
def mul (x y : Binary64) : Binary64 :=
  let e := x.exponent + y.exponent
  nearest (x.significand * y.significand * Nat.pow 2 e.toNat) (Nat.pow 2 (-e).toNat)

/-- The quotient of two finite, non-negative doubles, the second not zero. -/
def div (x y : Binary64) : Binary64 :=
  let e := x.exponent - y.exponent
  nearest (x.significand * Nat.pow 2 e.toNat) (y.significand * Nat.pow 2 (-e).toNat)

def pow10 (n : Nat) : Binary64 := ofNat (Nat.pow 10 n)

/-- The integer that the double is, if it is one. -/
def toInt? (x : Binary64) : Option Int :=
  if x.isFinite then
    let den := Nat.pow 2 (-x.exponent).toNat
    if x.significand % den = 0 then
      let n : Int := (x.significand / den * Nat.pow 2 x.exponent.toNat : Nat)
      some (if x.isNegative then -n else n)
    else none
  else none

end Binary64

end DocumentQuery
