/-!
# Double precision numbers

A finite double is a sign and a magnitude `significand * 2 ^ exponent`.  In
the form kept here the significand is below `2 ^ 53`, the exponent is at least
`-1074`, and one of the two is as large as it can be.  All rounding is done in
exact arithmetic on ratios of natural numbers.
-/

namespace TraceAdapter
namespace Decimal

structure Binary64 where
  negative : Bool
  significand : Nat
  exponent : Int
  deriving DecidableEq, Repr, Inhabited

namespace Binary64

def leastExponent : Int := -1074

def greatestExponent : Int := 971

def zero (negative : Bool) : Binary64 := ⟨negative, 0, leastExponent⟩

def scaled (num den : Nat) (e : Int) : Nat × Nat :=
  if 0 ≤ e then (num, den * Nat.pow 2 e.toNat)
  else (num * Nat.pow 2 (-e).toNat, den)

/-- The exponent for which the ratio has a significand of 53 bits, unless it
would fall below the least one. -/
def exponentOf (num den : Nat) : Int :=
  let guess : Int := (num.log2 : Int) - (den.log2 : Int) - 52
  let (n, d) := scaled num den guess
  let e := if n < d * Nat.pow 2 52 then guess - 1 else guess
  max e leastExponent

/-- Division rounded to the nearest whole number, a tie to the even one. -/
def roundDiv (num den : Nat) : Nat :=
  let q := num / den
  let r := num % den
  if 2 * r < den then q
  else if den < 2 * r then q + 1
  else if q % 2 = 0 then q else q + 1

/-- The double nearest to a ratio, none when the ratio is too large. -/
def ofRatio? (negative : Bool) (num den : Nat) : Option Binary64 :=
  if num = 0 then some (zero negative)
  else
    let e := exponentOf num den
    let (n, d) := scaled num den e
    let m := roundDiv n d
    let (m, e) := if m = Nat.pow 2 53 then (Nat.pow 2 52, e + 1) else (m, e)
    if greatestExponent < e then none else some ⟨negative, m, e⟩

def ratio (x : Binary64) : Nat × Nat :=
  if 0 ≤ x.exponent then (x.significand * Nat.pow 2 x.exponent.toNat, 1)
  else (x.significand, Nat.pow 2 (-x.exponent).toNat)

def ofNat (n : Nat) : Binary64 :=
  (ofRatio? false n 1).getD (zero false)

/-- The product, rounded; none when it is too large. -/
def mul? (x y : Binary64) : Option Binary64 :=
  let (a, b) := x.ratio
  let (c, d) := y.ratio
  ofRatio? (x.negative != y.negative) (a * c) (b * d)

/-- The quotient, rounded; the divisor is not zero. -/
def div (x y : Binary64) : Binary64 :=
  let (a, b) := x.ratio
  let (c, d) := y.ratio
  (ofRatio? (x.negative != y.negative) (a * d) (b * c)).getD (zero false)

def withSign (negative : Bool) (x : Binary64) : Binary64 :=
  { x with negative }

end Binary64

def greatestTen : Nat := 308

/-- A whole number times a power of ten, as a double.

The number and the power are rounded first and multiplied or divided then, and
a power below every double's is taken off in steps of the largest one.  None
when the result is too large.
The steps are counted by the fuel, which `scale?` makes large enough. -/
def scaleFrom? : Nat -> Binary64 -> Int -> Option Binary64
  | 0, x, _ => some x
  | fuel + 1, x, e =>
      if e.natAbs ≤ greatestTen then
        let ten := Binary64.ofNat (Nat.pow 10 e.natAbs)
        if 0 ≤ e then x.mul? ten else some (x.div ten)
      else if x.significand = 0 then some x
      else if 0 ≤ e then none
      else
        scaleFrom? fuel (x.div (Binary64.ofNat (Nat.pow 10 greatestTen)))
          (e + greatestTen)

/-- `n * 10 ^ e` as a double, none when it is too large.  Three steps take any
number below `2 ^ 64` to zero. -/
def scale? (n : Nat) (e : Int) : Option Binary64 :=
  scaleFrom? 4 (Binary64.ofNat n) e

end Decimal
end TraceAdapter
