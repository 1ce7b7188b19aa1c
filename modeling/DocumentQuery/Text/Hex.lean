/-!
# Hexadecimal digits
-/

namespace DocumentQuery.Text

/-- The hexadecimal digits of a number, lower case. -/
def hexChars (n : Nat) : List Char := Nat.toDigits 16 n

/-- The hexadecimal digits of a number with zeros in front up to the given width. -/
def paddedHex (width n : Nat) : List Char :=
  let ds := hexChars n
  List.replicate (width - ds.length) '0' ++ ds

def hexBytes (bytes : List UInt8) : List Char := bytes.flatMap fun b => paddedHex 2 b.toNat

/-- The value of a hexadecimal digit of either case. -/
def hexDigit? (c : Char) : Option Nat :=
  if '0' ≤ c ∧ c ≤ '9' then some (c.toNat - '0'.toNat)
  else if 'a' ≤ c ∧ c ≤ 'f' then some (c.toNat - 'a'.toNat + 10)
  else if 'A' ≤ c ∧ c ≤ 'F' then some (c.toNat - 'A'.toNat + 10)
  else none

end DocumentQuery.Text
