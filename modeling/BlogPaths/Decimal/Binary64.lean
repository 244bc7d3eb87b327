/-! Double precision numbers as their 64 bits, decoded into a whole significand and a power of
two. -/
namespace BlogPaths.Decimal

/-- A double by its bits: sign, eleven bits of exponent, 52 bits of fraction. -/
structure Binary64 where
  bits : UInt64
  deriving DecidableEq, Repr

namespace Binary64

def isNegative (x : Binary64) : Bool := Nat.pow 2 63 ≤ x.bits.toNat

def exponentField (x : Binary64) : Nat := x.bits.toNat / Nat.pow 2 52 % Nat.pow 2 11

def fraction (x : Binary64) : Nat := x.bits.toNat % Nat.pow 2 52

/-- Infinities and what is no number have the largest exponent. -/
def isFinite (x : Binary64) : Bool := x.exponentField != 2047

def isNan (x : Binary64) : Bool := !x.isFinite && x.fraction != 0

/-- The significand, its leading bit included; subnormal numbers have none. -/
def significand (x : Binary64) : Nat :=
  if x.exponentField = 0 then x.fraction else Nat.pow 2 52 + x.fraction

def exponent (x : Binary64) : Int :=
  if x.exponentField = 0 then -1074 else (x.exponentField : Int) - 1075

/-- Whether the neighbour below is nearer than the one above. -/
def isBinade (x : Binary64) : Bool := x.fraction == 0 && 1 < x.exponentField

def isZero (x : Binary64) : Bool := x.exponentField == 0 && x.fraction == 0

/-- A finite number as a fraction of whole numbers, of which the second is positive. -/
def toFraction (x : Binary64) : Int × Nat :=
  let m : Int := if x.isNegative then -(x.significand : Int) else x.significand
  (m * (Nat.pow 2 x.exponent.toNat : Nat),Nat.pow 2 (-x.exponent).toNat)

end Binary64

/-! The shortest decimal that reads back as a given number.  Around a number lies the interval of
all reals that round to it; for one digit, two digits and so on the two decimals of that many
digits next to the number are tried, and the first that lies in the interval is taken, of two the
nearer.  All of it is exact: numbers are compared as multiples of one unit. -/

/-- A positive number together with the interval that rounds to it, in units of `1 / unit`. -/
structure Rounding where
  value : Nat
  low : Nat
  high : Nat
  /-- Whether the ends round to the number as well. -/
  closed : Bool
  unit : Nat
  deriving DecidableEq, Repr

/-- The ends lie half way to the neighbours and belong to a number with an even significand. -/
def Binary64.rounding (x : Binary64) : Rounding :=
  let scale := Nat.pow 2 (x.exponent - 2).toNat
  let m := 4*x.significand
  { value := m*scale
    low := (m - if x.isBinade then 1 else 2)*scale
    high := (m + 2)*scale
    closed := x.significand % 2 == 0
    unit := Nat.pow 2 (2 - x.exponent).toNat }

namespace Rounding

/-- How many digits stand before the point, or, negated, how many zeros follow it. -/
def magnitude (r : Rounding) : Int :=
  if r.unit ≤ r.value then (Nat.toDigits 10 (r.value / r.unit)).length
  else 1 - ((Nat.toDigits 10 (r.unit / r.value)).length : Int)

/-- Whether the fraction `num / den` rounds to the number. -/
def admits (r : Rounding) (num den : Nat) : Bool :=
  if r.closed then r.low*den ≤ num*r.unit && num*r.unit ≤ r.high*den
  else r.low*den < num*r.unit && num*r.unit < r.high*den

/-- The multiple of `10^k` chosen for the number, if one of its two neighbours rounds to it. -/
def onGrid? (r : Rounding) (k : Int) : Option Nat :=
  let up := Nat.pow 10 k.toNat
  let down := Nat.pow 10 (-k).toNat
  let below := r.value*down / (r.unit*up)
  let twice := 2*r.value*down
  let middle := (2*below + 1)*(r.unit*up)
  let nearBelow := twice < middle || (twice == middle && below % 2 == 0)
  let first := if nearBelow then below else below + 1
  let second := if nearBelow then below + 1 else below
  [first, second].find? fun n => r.admits (n*up) down

/-- Tries the grids of `digits` digits and more, seventeen being always enough. -/
def search (r : Rounding) (digits : Nat) : Nat → Nat × Int
  | 0 => (0,0)
  | fuel+1 =>
    let k := r.magnitude - digits
    match r.onGrid? k with
    | some n => (n,k)
    | none => search r (digits + 1) fuel

end Rounding

/-- Decimal digits without trailing zeros, and the place of the point: the number is the digits read
behind a point, times ten to the power `point`. -/
structure Digits where
  digits : List Char
  point : Int
  deriving DecidableEq, Repr

def Digits.ofScaled (n : Nat) (k : Int) : Digits :=
  let ds := Nat.toDigits 10 n
  ⟨(ds.reverse.dropWhile (· = '0')).reverse,ds.length + k⟩

/-- The shortest digits of a finite number other than zero, its sign left out. -/
def Binary64.shortest (x : Binary64) : Digits :=
  let (n,k) := x.rounding.search 1 17
  .ofScaled n k

end BlogPaths.Decimal
