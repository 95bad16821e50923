import TraceAdapter.Text.Blank

/-!
# Numerals

Reading and writing of whole numbers in base ten and sixteen.  A reader takes
a bound and refuses a number that reaches it; nothing is ever cut off.
-/

namespace TraceAdapter
namespace Numeral

def bound16 : Nat := 0x10000

def bound32 : Nat := 0x100000000

def bound64 : Nat := 0x10000000000000000

def bound256 : Nat :=
  0x10000000000000000000000000000000000000000000000000000000000000000

def signedBound64 : Nat := 0x8000000000000000

/-- The value of a digit, letters of either case standing for ten and more. -/
def digit? (base : Nat) (c : Char) : Option Nat :=
  let n :=
    if '0' ≤ c ∧ c ≤ '9' then c.toNat - '0'.toNat
    else if 'a' ≤ c ∧ c ≤ 'z' then c.toNat - 'a'.toNat + 10
    else if 'A' ≤ c ∧ c ≤ 'Z' then c.toNat - 'A'.toNat + 10
    else base
  if n < base then some n else none

def foldDigits? (base : Nat) : Nat -> List Char -> Option Nat
  | n, [] => some n
  | n, c :: cs =>
      match digit? base c with
      | some d => foldDigits? base (n * base + d) cs
      | none => none

def ofDigits? (base : Nat) (cs : List Char) : Option Nat :=
  if cs.isEmpty then none else foldDigits? base 0 cs

/-- A number below `bound`; one plus sign may precede the digits. -/
def natural? (base bound : Nat) (s : String) : Option Nat :=
  let digits :=
    match s.toList with
    | '+' :: cs => cs
    | cs => cs
  match ofDigits? base digits with
  | some n => if n < bound then some n else none
  | none => none

/-- A decimal number from `-2 ^ 63` to `2 ^ 63 - 1`; one sign may precede the
digits. -/
def integer64? (s : String) : Option Int :=
  match s.toList with
  | '-' :: cs =>
      match ofDigits? 10 cs with
      | some n => if n ≤ signedBound64 then some (-(n : Int)) else none
      | none => none
  | _ =>
      match natural? 10 signedBound64 s with
      | some n => some (n : Int)
      | none => none

/-- A number below `2 ^ 64`, in base sixteen after `0x` and in base ten
otherwise. -/
def natural64? (s : String) : Option Nat :=
  match Text.afterStart? "0x" s with
  | some hex => natural? 16 bound64 hex
  | none => natural? 10 bound64 s

def decimal (n : Nat) : String :=
  String.ofList (Nat.toDigits 10 n)

/-- The digits of an integer in base ten, after a minus sign when negative. -/
def signedDecimal (i : Int) : String :=
  match i with
  | .ofNat n => decimal n
  | .negSucc n => "-" ++ decimal (n + 1)

def hex (n : Nat) : String :=
  String.ofList (Nat.toDigits 16 n)

/-- The lower-case digits of a number in base sixteen, with zeros in front up
to a width. -/
def paddedHex (width n : Nat) : String :=
  let digits := Nat.toDigits 16 n
  String.ofList (List.replicate (width - digits.length) '0' ++ digits)

def hexOfBytes (bytes : List UInt8) : String :=
  String.ofList (bytes.flatMap fun b =>
    [Nat.digitChar (b.toNat / 16), Nat.digitChar (b.toNat % 16)])

/-- The bytes written by pairs of hexadecimal digits, of either case. -/
def bytesOfHex? : List Char -> Option (List UInt8)
  | [] => some []
  | [_] => none
  | a :: b :: rest =>
      match digit? 16 a, digit? 16 b, bytesOfHex? rest with
      | some x, some y, some bytes => some (UInt8.ofNat (x * 16 + y) :: bytes)
      | _, _, _ => none

@[simp] theorem foldDigits?_nil (base n : Nat) :
    foldDigits? base n [] = some n := rfl

theorem foldDigits?_cons_of_digit {base n d : Nat} {c : Char} (cs : List Char)
    (h : digit? base c = some d) :
    foldDigits? base n (c :: cs) = foldDigits? base (n * base + d) cs := by
  simp [foldDigits?, h]

end Numeral
end TraceAdapter
