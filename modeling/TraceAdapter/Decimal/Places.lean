import TraceAdapter.Decimal.Shortest

/-!
# Decimal text with given places

Numbers are written with so many places behind the point, with an exponent, or
in the shorter of the two forms, and are read from the start of a text.  Digits
are found in exact arithmetic; a tie goes to the even digit.
-/

namespace TraceAdapter
namespace Decimal

/-!
## Writing
-/

def withPoint (places : Nat) (ds : List Char) : List Char :=
  let ds := List.replicate (places + 1 - ds.length) '0' ++ ds
  let whole := ds.length - places
  if places = 0 then ds else ds.take whole ++ '.' :: ds.drop whole

def fixed (places num den : Nat) : List Char :=
  withPoint places (Nat.toDigits 10 (Binary64.roundDiv (num * Nat.pow 10 places) den))

/-- The digits of a ratio, of which there are `places + 1`, and the exponent of the
first one. -/
def rounded (places num den : Nat) : List Char × Int :=
  if num = 0 then (List.replicate (places + 1) '0', 0)
  else
    let e := leadingExponent num den
    let (p, q) := tenRatio (places - e)
    let n := Binary64.roundDiv (num * p) (den * q)
    if n = Nat.pow 10 (places + 1) then (Nat.toDigits 10 (Nat.pow 10 places), e + 1)
    else (Nat.toDigits 10 n, e)

def scientific (places num den : Nat) : List Char :=
  let (ds, e) := rounded places num den
  let es := Nat.toDigits 10 e.natAbs
  withPoint places ds ++ ['e', if e < 0 then '-' else '+'] ++
    List.replicate (2 - es.length) '0' ++ es

def withoutZeros (cs : List Char) : List Char :=
  let (front, rest) := cs.span (· ≠ 'e')
  if front.contains '.' then
    ((dropEndZeros front).reverse.dropWhile (· = '.')).reverse ++ rest
  else cs

/-- A ratio with so many digits that count, in the form that suits its size.
`zeros` says that zeros at the end are kept. -/
def general (zeros : Bool) (precision num den : Nat) : List Char :=
  let precision := max 1 precision
  let (_, e) := rounded (precision - 1) num den
  let text :=
    if -4 ≤ e ∧ e < precision then fixed ((precision : Int) - 1 - e).toNat num den
    else scientific (precision - 1) num den
  if zeros then text else withoutZeros text

/-- The sign of a double and its size as a ratio, none when it is not finite. -/
def sizeOf (x : Float) : Bool × Option (Nat × Nat) :=
  let bits := x.toBits.toNat
  let negative := Nat.pow 2 63 ≤ bits
  let e : Nat := bits / Nat.pow 2 52 % Nat.pow 2 11
  let m : Nat := bits % Nat.pow 2 52
  if e = 2047 then (negative, none)
  else
    let value : Binary64 :=
      if e = 0 then ⟨negative, m, Binary64.leastExponent⟩
      else ⟨negative, m + Nat.pow 2 52, (e : Int) - 1075⟩
    (negative, some value.ratio)

def sizeText (kind : Char) (zeros : Bool) (places : Nat) (x : Float) : List Char :=
  let lower := kind.toLower
  let text :=
    match (sizeOf x).2 with
    | none => (if x.isNaN then "nan" else "inf").toList
    | some (num, den) =>
        if lower = 'f' then fixed places num den
        else if lower = 'e' then scientific places num den
        else general zeros places num den
  if kind.isUpper then text.map Char.toUpper else text

/-!
## Reading
-/

/-- The exponent at the start of a text, and what follows it. -/
def spanExponent (cs : List Char) : Int × List Char :=
  let digits (negative : Bool) (rest : List Char) : Int × List Char :=
    let (ds, after) := rest.span Char.isDigit
    match Numeral.ofDigits? 10 ds with
    | some n => (if negative then -(n : Int) else n, after)
    | none => (0, cs)
  match cs with
  | e :: rest =>
      if e = 'e' ∨ e = 'E' then
        match rest with
        | '-' :: rest => digits true rest
        | '+' :: rest => digits false rest
        | _ => digits false rest
      else (0, cs)
  | [] => (0, cs)

/-- The size of the number at the start of a text as whole digits, the number of
places among them and an exponent, and what follows it. -/
def spanSize? (cs : List Char) : Option (Nat × Nat × Int × List Char) :=
  let (whole, rest) := cs.span Char.isDigit
  let (part, rest) : List Char × List Char :=
    match rest with
    | '.' :: after =>
        let (part, after) := after.span Char.isDigit
        if whole.isEmpty ∧ part.isEmpty then ([], rest) else (part, after)
    | _ => ([], rest)
  match Numeral.ofDigits? 10 (whole ++ part) with
  | none => none
  | some n =>
      let (e, rest) := spanExponent rest
      some (n, part.length, e, rest)

def toFloat (n places : Nat) (exponent : Int) : Float :=
  let e := exponent - places
  if n = 0 then 0
  else if e < -20000 then 0
  else if 20000 < e then 1.0 / 0.0
  else
    match if 0 ≤ e then Binary64.ofRatio? false (n * Nat.pow 10 e.toNat) 1
      else Binary64.ofRatio? false n (Nat.pow 10 (-e).toNat) with
    | none => 1.0 / 0.0
    | some x =>
        if x.significand < Nat.pow 2 52 then Float.ofBits x.significand.toUInt64
        else
          Float.ofBits
            ((x.exponent + 1075).toNat * Nat.pow 2 52 +
              (x.significand - Nat.pow 2 52)).toUInt64

/-- The double at the start of a text, and what follows it. -/
def spanFloat? (cs : List Char) : Option (Float × List Char) :=
  let (negative, rest) : Bool × List Char :=
    match cs with
    | '-' :: rest => (true, rest)
    | '+' :: rest => (false, rest)
    | _ => (false, cs)
  let signed (x : Float) : Float := if negative then -x else x
  let named (name : String) (x : Float) : Option (Float × List Char) :=
    if name.toList = (rest.take name.length).map Char.toLower then
      some (signed x, rest.drop name.length)
    else none
  match spanSize? rest with
  | some (n, places, e, rest) => some (signed (toFloat n places e), rest)
  | none =>
      (named "infinity" (1.0 / 0.0)).or
        ((named "inf" (1.0 / 0.0)).or (named "nan" (0.0 / 0.0)))

end Decimal
end TraceAdapter
