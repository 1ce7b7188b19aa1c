import DocumentQuery.Number.Binary64

/-!
# Shortest decimals

`Decimal.shortest` gives the fewest decimal digits that lie closer to a double than to any other
double, and of those the ones nearest to it. Whether an exact tie between two such decimals goes to
the larger or to the even one is a choice of the text format, as is where the point or the exponent
stands.
-/

namespace DocumentQuery

/-- The number `digits * 10 ^ exponent`. -/
structure Decimal where
  digits : Nat
  exponent : Int
  deriving DecidableEq, Repr, Inhabited

namespace Decimal

/-- Where a number half way between two decimals goes. -/
inductive Tie
  | up
  | even
  deriving DecidableEq, Repr

/-- The decimal digits of a natural number; zero has one. -/
def digitChars (n : Nat) : List Char := Nat.toDigits 10 n

/-- The largest `e` with `10 ^ e ≤ num / den`, for positive `num` and `den`. -/
def decimalExponent (num den : Nat) : Int :=
  if den ≤ num then ((digitChars (num / den)).length : Int) - 1
  else -((digitChars ((den + num - 1) / num - 1)).length : Int)

/-- Removes the zeros at the end of the digits; at most `fuel` of them. -/
def stripZeros : Nat → Decimal → Decimal
  | 0, d => d
  | fuel + 1, d =>
    if d.digits % 10 = 0 then stripZeros fuel ⟨d.digits / 10, d.exponent + 1⟩ else d

/-- The reals that round to a double, as fractions over a common denominator. -/
structure Interval where
  low : Nat
  value : Nat
  high : Nat
  denominator : Nat
  closed : Bool
  deriving DecidableEq, Repr

/-- The reals that round to a finite positive double. The gap below a power of two is half as wide,
except at the bottom of the range; the ends belong to an even significand. -/
def Interval.of (x : Binary64) : Interval :=
  let m := x.significand
  let e := x.exponent - 2
  let below := if m = Nat.pow 2 52 ∧ 1 < x.biasedExponent then 1 else 2
  let up := Nat.pow 2 e.toNat
  ⟨(4 * m - below) * up, 4 * m * up, (4 * m + 2) * up, Nat.pow 2 (-e).toNat, m % 2 == 0⟩

/-- Whether the fraction `num / denominator` lies in the interval. -/
def Interval.holds (i : Interval) (num : Nat) : Bool :=
  if i.closed then i.low ≤ num && num ≤ i.high else i.low < num && num < i.high

/-- The decimal with the given last place that lies in the interval and nearest to its value, if
there is one. Only the two neighbours of the value on that grid can be it. -/
def Interval.onGrid (tie : Tie) (i : Interval) (place : Int) : Option Decimal :=
  let scaled : Interval :=
    let up := Nat.pow 10 (-place).toNat
    ⟨i.low * up, i.value * up, i.high * up, i.denominator * Nat.pow 10 place.toNat, i.closed⟩
  let floor := scaled.value / scaled.denominator
  let low := floor * scaled.denominator
  let high := low + scaled.denominator
  let lowFits := scaled.holds low
  let highFits := scaled.holds high
  let toHigh :=
    if scaled.value - low < high - scaled.value then false
    else if high - scaled.value < scaled.value - low then true
    else match tie with
      | .up => true
      | .even => floor % 2 == 1
  if lowFits && (!highFits || !toHigh) then some ⟨floor, place⟩
  else if highFits then some ⟨floor + 1, place⟩
  else none

/-- Tries the grids from the coarsest on. Seventeen digits always suffice. -/
def firstOnGrid (tie : Tie) (i : Interval) (top : Int) : Nat → Nat → Option Decimal
  | 0, _ => none
  | fuel + 1, count =>
    match i.onGrid tie (top - count) with
    | some d => some d
    | none => firstOnGrid tie i top fuel (count + 1)

/-- The shortest decimal that reads back as a finite double, without its sign. -/
def shortest (tie : Tie) (x : Binary64) : Decimal :=
  if x.isZero then ⟨0, 0⟩
  else
    let i := Interval.of x
    let top := decimalExponent i.value i.denominator
    match firstOnGrid tie i top 17 0 with
    | some d => stripZeros 17 d
    | none => ⟨0, 0⟩

/-- The digits with a decimal point where it falls, and zeros where they are needed. -/
def positional (d : Decimal) : List Char :=
  let ds := digitChars d.digits
  if 0 ≤ d.exponent then ds ++ List.replicate d.exponent.toNat '0'
  else
    let places := (-d.exponent).toNat
    if places < ds.length then ds.take (ds.length - places) ++ '.' :: ds.drop (ds.length - places)
    else '0' :: '.' :: (List.replicate (places - ds.length) '0' ++ ds)

def leadingExponent (d : Decimal) : Int := (digitChars d.digits).length - 1 + d.exponent

/-- One digit before the point, the others after it, and the power of ten with its sign. -/
def scientific (d : Decimal) : List Char :=
  let mantissa := match digitChars d.digits with
    | [] => ['0']
    | [c] => [c]
    | c :: rest => c :: '.' :: rest
  let e := d.leadingExponent
  mantissa ++ 'e' :: (if e < 0 then '-' else '+') :: digitChars e.natAbs

end Decimal

namespace Binary64

/-- A double as plain text: the shortest digits, never an exponent, no point in a whole number. -/
def plainText (x : Binary64) : List Char :=
  if x.isNaN then "NaN".toList
  else
    let sign := if x.isNegative then ['-'] else []
    if x.isFinite then sign ++ (Decimal.shortest .up x).positional
    else sign ++ "inf".toList

/-- A finite double as a JSON number: positional with at least one decimal place where the leading
digit stands for `10 ^ -5` to `10 ^ 15`, scientific elsewhere. -/
def jsonText (x : Binary64) : List Char :=
  let sign := if x.isNegative then ['-'] else []
  let d := Decimal.shortest .even x
  let e := d.leadingExponent
  if -5 ≤ e ∧ e ≤ 15 then
    sign ++ d.positional ++ (if 0 ≤ d.exponent then ['.', '0'] else [])
  else sign ++ d.scientific

end Binary64

end DocumentQuery
