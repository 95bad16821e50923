import TraceAdapter.Json.Document
import TraceAdapter.Text.Numeral

/-!
# Numbers, dates and truth values of TOML

A scalar is one atom; only a date and a time of day may have a space between
them.  A date is read as a record without fields, and of a float it is kept
only that it is one.
-/

namespace TraceAdapter
namespace Toml

open Json (Document Number)

namespace Scalar

/-!
## Integers
-/

def digits? (base : Nat) : List Char -> Option (List Char)
  | [] => none
  | [c] => if (Numeral.digit? base c).isSome then some [c] else none
  | c :: '_' :: rest =>
      if (Numeral.digit? base c).isSome then (digits? base rest).map (c :: ·) else none
  | c :: rest =>
      if (Numeral.digit? base c).isSome then (digits? base rest).map (c :: ·) else none

def plainDigits? (cs : List Char) : Option (List Char) :=
  (digits? 10 cs).filter fun ds => ds.length = 1 || ds.head? != some '0'

def splitSign : List Char -> Bool × List Char
  | '-' :: rest => (true, rest)
  | '+' :: rest => (false, rest)
  | cs => (false, cs)

def within64? (i : Int) : Option Int :=
  if -(Numeral.signedBound64 : Int) ≤ i ∧ i < Numeral.signedBound64 then some i else none

def integer? (cs : List Char) : Option Int :=
  let inBase (base : Nat) (cs : List Char) : Option Int :=
    ((digits? base cs).bind (Numeral.ofDigits? base)).bind fun n => within64? n
  match cs with
  | '0' :: 'x' :: rest => inBase 16 rest
  | '0' :: 'o' :: rest => inBase 8 rest
  | '0' :: 'b' :: rest => inBase 2 rest
  | _ =>
      let (negative, cs) := splitSign cs
      ((plainDigits? cs).bind (Numeral.ofDigits? 10)).bind fun (n : Nat) =>
        within64? (if negative then -(n : Int) else n)

/-!
## Floats
-/

/-- The least power of ten that no double reaches has this many digits before
the point. -/
def greatestDigits : Nat := 309

def isFinite (n : Nat) (e : Int) : Bool :=
  let bound := Nat.pow 2 1024 - Nat.pow 2 970
  let size : Int := (Nat.toDigits 10 n).length + e
  if n = 0 ∨ size < greatestDigits then true
  else if greatestDigits < size then false
  else if 0 ≤ e then n * Nat.pow 10 e.toNat < bound
  else n < bound * Nat.pow 10 (-e).toNat

def exponent? (cs : List Char) : Option Int :=
  let (negative, cs) := splitSign cs
  ((digits? 10 cs).bind (Numeral.ofDigits? 10)).map fun (n : Nat) =>
    if negative then -(n : Int) else n

def isExponentMark (c : Char) : Bool := c = 'e' || c = 'E'

/-- Whether characters are a float: a number with a fraction, an exponent or
both, or one of the special ones.  A positive one must not be too large. -/
def isFloat (cs : List Char) : Bool :=
  let (negative, cs) := splitSign cs
  if cs = "inf".toList ∨ cs = "nan".toList then true
  else
    let front := cs.takeWhile fun c => ! isExponentMark c
    let exponent : Option Int :=
      match cs.drop front.length with
      | [] => some 0
      | _ :: rest => exponent? rest
    let whole := front.takeWhile (· != '.')
    let fraction : Option (List Char) :=
      match front.drop whole.length with
      | [] => if front.length < cs.length then some [] else none
      | _ :: rest => digits? 10 rest
    match plainDigits? whole, fraction, exponent with
    | some ws, some fs, some e =>
        negative ||
          isFinite ((Numeral.ofDigits? 10 (ws ++ fs)).getD 0) (e - fs.length)
    | _, _, _ => false

/-!
## Dates
-/

def figure? (width low high : Nat) (cs : List Char) : Option Nat :=
  if cs.length = width ∧ cs.all Char.isDigit then
    (Numeral.ofDigits? 10 cs).filter fun n => low ≤ n && n ≤ high
  else none

def daysIn (year month : Nat) : Nat :=
  if month = 2 then
    if year % 4 = 0 ∧ (year % 100 ≠ 0 ∨ year % 400 = 0) then 29 else 28
  else if month = 4 ∨ month = 6 ∨ month = 9 ∨ month = 11 then 30
  else 31

def isDate (cs : List Char) : Bool :=
  match cs with
  | [a, b, c, d, '-', e, f, '-', g, h] =>
      match figure? 4 0 9999 [a, b, c, d], figure? 2 1 12 [e, f],
        figure? 2 1 31 [g, h] with
      | some year, some month, some day => day ≤ daysIn year month
      | _, _, _ => false
  | _ => false

def isOffset (cs : List Char) : Bool :=
  match cs with
  | ['Z'] => true
  | ['z'] => true
  | [s, a, b, ':', c, d] =>
      (s = '+' || s = '-') && (figure? 2 0 23 [a, b]).isSome &&
        (figure? 2 0 59 [c, d]).isSome
  | _ => false

/-- Whether characters are a time of day, perhaps with a difference from
universal time after it. -/
def isTime (cs : List Char) (withOffset : Bool) : Bool :=
  match cs with
  | a :: b :: ':' :: c :: d :: ':' :: e :: f :: rest =>
      let afterFraction : Option (List Char) :=
        match rest with
        | '.' :: rest =>
            if rest.head?.any Char.isDigit then some (rest.dropWhile Char.isDigit)
            else none
        | _ => some rest
      (figure? 2 0 23 [a, b]).isSome && (figure? 2 0 59 [c, d]).isSome &&
        (figure? 2 0 60 [e, f]).isSome &&
        afterFraction.any fun rest => rest.isEmpty || (withOffset && isOffset rest)
  | _ => false

def isMoment (cs : List Char) : Bool :=
  isDate cs || isTime cs false ||
    match cs.drop 10 with
    | c :: rest => (c = 'T' || c = 't') && isDate (cs.take 10) && isTime rest true
    | [] => false

/-!
## All scalars
-/

def moment : Document := .object [] true

def float : Document := .number (some (.real (Decimal.Binary64.ofNat 0)))

def ofAtom? (cs : List Char) : Option Document :=
  if cs = "true".toList then some (.bool true)
  else if cs = "false".toList then some (.bool false)
  else if isMoment cs then some moment
  else
    match integer? cs with
    | some i => some (.number (some (.int i)))
    | none => if isFloat cs then some float else none

end Scalar

end Toml
end TraceAdapter
