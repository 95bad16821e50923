import TraceAdapter.Decimal.Binary64
import TraceAdapter.Text.Numeral

/-!
# Shortest decimal text of a double

Among the decimal numbers that read back as a given double, the text shows one
with the fewest digits, and among those the nearest.  Numbers from `1e-5` up to
`1e16` are written with a decimal point and the others with an exponent.
-/

namespace TraceAdapter
namespace Decimal

structure Scientific where
  digits : Nat
  exponent : Int
  deriving DecidableEq, Repr, Inhabited

/-- The numbers that round to a double: `middle / den` is the double itself,
`low / den` and `high / den` are the ends, which round to it as well when `closed`. -/
structure Interval where
  low : Nat
  middle : Nat
  high : Nat
  den : Nat
  closed : Bool
  deriving Repr

namespace Interval

/-- The interval of a double: half a gap to each neighbour, the gap below a
power of two being half as wide. -/
def ofBinary64 (x : Binary64) : Interval :=
  let m := x.significand
  let below :=
    if m = Nat.pow 2 52 ∧ Binary64.leastExponent < x.exponent then 1 else 2
  let e := x.exponent - 2
  let closed := m % 2 = 0
  if 0 ≤ e then
    let unit := Nat.pow 2 e.toNat
    ⟨(4 * m - below) * unit, 4 * m * unit, (4 * m + 2) * unit, 1, closed⟩
  else
    ⟨4 * m - below, 4 * m, 4 * m + 2, Nat.pow 2 (-e).toNat, closed⟩

def contains (i : Interval) (num den : Nat) : Bool :=
  if i.closed then
    i.low * den ≤ num * i.den && num * i.den ≤ i.high * den
  else
    i.low * den < num * i.den && num * i.den < i.high * den

end Interval

def tenRatio (e : Int) : Nat × Nat :=
  if 0 ≤ e then (Nat.pow 10 e.toNat, 1) else (1, Nat.pow 10 (-e).toNat)

def leadingExponent (num den : Nat) : Int :=
  if den ≤ num then ((Nat.toDigits 10 (num / den)).length : Int) - 1
  else
    let k := (Nat.toDigits 10 (den / num)).length
    if den ≤ num * Nat.pow 10 (k - 1) then -((k - 1 : Nat) : Int) else -(k : Int)

/-- The nearer of the two neighbours on the grid of multiples of `10 ^ e` that
lies in the interval. -/
def onGrid? (i : Interval) (e : Int) : Option Scientific :=
  let (p, q) := tenRatio e
  let d := i.middle * q / (i.den * p)
  let down := i.contains (d * p) q
  let up := i.contains ((d + 1) * p) q
  let twiceRest := 2 * (i.middle * q - d * (i.den * p))
  let nearDown := twiceRest < i.den * p ∨ (twiceRest = i.den * p ∧ d % 2 = 0)
  if down ∧ (nearDown ∨ ¬ up) then some ⟨d, e⟩
  else if up then some ⟨d + 1, e⟩
  else none

/-- The first grid, from coarse to fine, with a point in the interval. -/
def firstGrid? (i : Interval) (leading : Int) : Nat -> Nat -> Option Scientific
  | _, 0 => none
  | n, left + 1 =>
      match onGrid? i (leading - n) with
      | some s => some s
      | none => firstGrid? i leading (n + 1) left

/-- The shortest decimal number that reads back as a positive double. -/
def shortest (x : Binary64) : Scientific :=
  let i := Interval.ofBinary64 x
  (firstGrid? i (leadingExponent i.middle i.den) 0 18).getD ⟨0, 0⟩

def leastPositional : Int := -5

/-- Exponents of the first digit from this one on are written with an
exponent. -/
def leastExponential : Int := 16

def dropEndZeros (ds : List Char) : List Char :=
  (ds.reverse.dropWhile (· = '0')).reverse

/-- Digits whose first one has the decimal exponent `first`, with a point. -/
def positional (ds : List Char) (first : Int) : List Char :=
  if first < 0 then
    ['0', '.'] ++ List.replicate (-first - 1).toNat '0' ++ ds
  else
    let whole := first.toNat + 1
    let front := ds.take whole ++ List.replicate (whole - ds.length) '0'
    let back := ds.drop whole
    front ++ ['.'] ++ (if back.isEmpty then ['0'] else back)

/-- Digits whose first one has the decimal exponent `first`, with an
exponent. -/
def exponential (ds : List Char) (first : Int) : List Char :=
  let fraction := ds.drop 1
  ds.take 1 ++ (if fraction.isEmpty then [] else '.' :: fraction) ++
    ['e', if first < 0 then '-' else '+'] ++ Nat.toDigits 10 first.natAbs

def text (x : Binary64) : String :=
  let sign := if x.negative then ['-'] else []
  if x.significand = 0 then String.ofList (sign ++ ['0', '.', '0'])
  else
    let s := shortest x
    let ds := Nat.toDigits 10 s.digits
    let first := s.exponent + (ds.length : Int) - 1
    let ds := dropEndZeros ds
    String.ofList (sign ++
      if leastPositional ≤ first ∧ first < leastExponential then
        positional ds first
      else exponential ds first)

end Decimal
end TraceAdapter
