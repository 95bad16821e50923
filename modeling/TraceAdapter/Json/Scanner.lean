import TraceAdapter.Json.Document
import TraceAdapter.Text.Bytes
import TraceAdapter.Text.Utf8

/-!
# Scanning JSON text

The scanner turns characters into a `Document`.  It never fails: where the
text goes wrong it leaves the arrays and objects that are open unclosed; a key
that goes wrong there is left with what stands before that place.
-/

namespace TraceAdapter
namespace Json

def isSpace (c : Char) : Bool :=
  c = ' ' || c = '\n' || c = '\t' || c = '\r'

def skipSpace (cs : List Char) : List Char := cs.dropWhile isSpace

/-!
## Numbers
-/

structure Figures where
  negative : Bool
  whole : List Char
  fraction : Option (List Char)
  exponent : Option (Bool × List Char)
  deriving Repr

def spanDigits (cs : List Char) : List Char × List Char :=
  cs.span Char.isDigit

def scanExponent? (cs : List Char) : Option ((Bool × List Char) × List Char) :=
  let (negative, cs) :=
    match cs with
    | '+' :: rest => (false, rest)
    | '-' :: rest => (true, rest)
    | _ => (false, cs)
  let (ds, rest) := spanDigits cs
  if ds.isEmpty then none else some ((negative, ds), rest)

/-- Scan a number; none when the text does not go on as one must. -/
def scanFigures? (cs : List Char) : Option (Figures × List Char) :=
  let (negative, cs) :=
    match cs with
    | '-' :: rest => (true, rest)
    | _ => (false, cs)
  let (whole, rest) := spanDigits cs
  if whole.isEmpty ∨ (whole.head? = some '0' ∧ 1 < whole.length) then none
  else
    let withExponent (fraction : Option (List Char)) (rest : List Char) :=
      match rest with
      | 'e' :: tail | 'E' :: tail =>
          (scanExponent? tail).map fun (e, rest) =>
            (Figures.mk negative whole fraction (some e), rest)
      | _ => some (Figures.mk negative whole fraction none, rest)
    match rest with
    | '.' :: tail =>
        let (ds, rest) := spanDigits tail
        if ds.isEmpty then none else withExponent (some ds) rest
    | _ => withExponent none rest

/-- Take digits into a number for as long as it stays below `2 ^ 64`; the
number, how many digits were taken and whether one was left. -/
def takeDigits (n : Nat) : List Char -> Nat × Nat × Bool
  | [] => (n, 0, false)
  | c :: cs =>
      let next := n * 10 + (c.toNat - '0'.toNat)
      if next < Numeral.bound64 then
        let (m, count, left) := takeDigits next cs
        (m, count + 1, left)
      else (n, 0, true)

def exponentValue (negative : Bool) (ds : List Char) : Int :=
  let n := (Numeral.ofDigits? 10 ds).getD 0
  if negative then -(n : Int) else n

/-- The number meant by the parts, none when it is beyond every double.

Digits beyond 64 bits only count as places.  An exponent of 31 bits or more
makes zero of a number when it is negative or the number is zero, and is too
large otherwise. -/
def Figures.number? (f : Figures) : Option Number :=
  let (n, count, left) := takeDigits 0 f.whole
  let more := f.whole.length - count
  match f.fraction, f.exponent with
  | none, none =>
      if left then
        (Decimal.scale? n more).map fun x => .real (x.withSign f.negative)
      else if f.negative then
        if n = 0 ∨ Numeral.signedBound64 < n then
          some (.real ((Decimal.Binary64.ofNat n).withSign true))
        else some (.int (-(n : Int)))
      else some (.int n)
  | fraction, exponent =>
      let (n, places) :=
        match fraction with
        | none => (n, 0)
        | some ds =>
            let (m, count, _) := takeDigits n ds
            (m, count)
      let start : Int := (more : Int) - places
      match exponent with
      | none => (Decimal.scale? n start).map fun x => .real (x.withSign f.negative)
      | some (negative, ds) =>
          let e := exponentValue negative ds
          if 0x80000000 ≤ e.natAbs then
            if n ≠ 0 ∧ ¬ negative then none
            else some (.real (Decimal.Binary64.zero f.negative))
          else
            (Decimal.scale? n (start + e)).map fun x =>
              .real (x.withSign f.negative)

/-!
## Strings
-/

/-- A unit of a string: a character as it stands, one named by an escape, or
half of a surrogate pair named by one. -/
inductive TextUnit where
  | char (c : Char)
  | named (c : Char)
  | high (n : Nat)
  | low (n : Nat)
  deriving DecidableEq, Repr

def TextUnit.ofCode (n : Nat) : TextUnit :=
  if 0xD800 ≤ n ∧ n < 0xDC00 then .high (n - 0xD800)
  else if 0xDC00 ≤ n ∧ n < 0xE000 then .low (n - 0xDC00)
  else .named (Char.ofNat n)

def letterEscape? (c : Char) : Option Char :=
  match c with
  | '"' => some '"'
  | '\\' => some '\\'
  | '/' => some '/'
  | 'b' => some '\x08'
  | 'f' => some '\x0c'
  | 'n' => some '\n'
  | 'r' => some '\r'
  | 't' => some '\t'
  | _ => none

structure Quoted where
  /-- The units; those up to the fault when the string goes wrong. -/
  units : List TextUnit := []
  source : List Char := []
  /-- What follows the closing quote, none when the string goes wrong. -/
  rest? : Option (List Char) := none

def Quoted.cons (u : TextUnit) (source : List Char) (q : Quoted) : Quoted :=
  { q with units := u :: q.units, source := source ++ q.source }

def scanQuoted : List Char -> Quoted
  | [] => {}
  | '"' :: rest => { rest? := some rest }
  | '\\' :: 'u' :: a :: b :: c :: d :: rest =>
      match Numeral.ofDigits? 16 [a, b, c, d] with
      | some n => (scanQuoted rest).cons (.ofCode n) ['\\', 'u', a, b, c, d]
      | none => {}
  | '\\' :: c :: rest =>
      match letterEscape? c with
      | some e => (scanQuoted rest).cons (.named e) ['\\', c]
      | none => {}
  | c :: rest =>
      if c = '\\' ∨ c.toNat < 0x20 then {} else (scanQuoted rest).cons (.char c) [c]

/-- Write the units of a string one after the other, none when half of a
surrogate pair stands alone. -/
def joinUnits? {α : Type} (plain named : Char -> List α) :
    List TextUnit -> Option (List α)
  | [] => some []
  | .char c :: rest => (joinUnits? plain named rest).map (plain c ++ ·)
  | .named c :: rest => (joinUnits? plain named rest).map (named c ++ ·)
  | .high h :: .low l :: rest =>
      (joinUnits? plain named rest).map
        (named (Char.ofNat (0x10000 + h * 0x400 + l)) ++ ·)
  | .high _ :: _ => none
  | .low _ :: _ => none

abbrev Spelling := List TextUnit -> Option String

def Spelling.characters : Spelling := fun units =>
  (joinUnits? ([·]) ([·]) units).map String.ofList

/-- Characters that no escape names stand for bytes, and all bytes together
must be UTF-8. -/
def Spelling.bytes : Spelling := fun units =>
  match joinUnits? (fun c => [Bytes.ofChar c]) String.utf8EncodeChar units with
  | none => none
  | some bytes => (Utf8.decode bytes).toOption

/-- The literal of a scanned string.  One that goes wrong has no text. -/
def Quoted.literal (spelling : Spelling) (q : Quoted) : Literal :=
  ⟨q.source, if q.rest?.isSome then spelling q.units else none⟩

/-!
## Values
-/

def scanWord (word : List Char) (d : Document) (cs : List Char) :
    Document × List Char :=
  if word.isPrefixOf cs then (d, cs.drop word.length) else (.broken, [])

mutual

/-- Scan a value.  A broken one takes the rest of the text with it.  The fuel
bounds the number of values, arrays and objects still to come. -/
def scanValue (spelling : Spelling) : Nat -> List Char -> Document × List Char
  | 0, _ => (.broken, [])
  | fuel + 1, cs =>
      match skipSpace cs with
      | 'n' :: rest => scanWord ['u', 'l', 'l'] .null rest
      | 't' :: rest => scanWord ['r', 'u', 'e'] (.bool true) rest
      | 'f' :: rest => scanWord ['a', 'l', 's', 'e'] (.bool false) rest
      | '"' :: rest =>
          let q := scanQuoted rest
          match q.rest? with
          | some rest => (.string (q.literal spelling), rest)
          | none => (.broken, [])
      | '[' :: rest =>
          match skipSpace rest with
          | ']' :: rest => (.array [] true, rest)
          | rest =>
              let (items, closed, rest) := scanItems spelling fuel rest
              (.array items closed, rest)
      | '\x7b' :: rest =>
          match skipSpace rest with
          | '\x7d' :: rest => (.object [] true, rest)
          | rest =>
              let (entries, closed, rest) := scanEntries spelling fuel rest
              (.object entries closed, rest)
      | c :: rest =>
          if c = '-' ∨ c.isDigit then
            match scanFigures? (c :: rest) with
            | some (f, rest) => (.number f.number?, rest)
            | none => (.broken, [])
          else (.broken, [])
      | [] => (.broken, [])

def scanItems (spelling : Spelling) :
    Nat -> List Char -> List Document × Bool × List Char
  | 0, _ => ([], false, [])
  | fuel + 1, cs =>
      match skipSpace cs with
      | [] => ([], false, [])
      | cs =>
          let (item, rest) := scanValue spelling fuel cs
          match skipSpace rest with
          | ',' :: rest =>
              match skipSpace rest with
              | ']' :: _ => ([item], false, [])
              | rest =>
                  let (items, closed, rest) := scanItems spelling fuel rest
                  (item :: items, closed, rest)
          | ']' :: rest => ([item], true, rest)
          | _ => ([item], false, [])

def scanEntries (spelling : Spelling) :
    Nat -> List Char -> List (Literal × Document) × Bool × List Char
  | 0, _ => ([], false, [])
  | fuel + 1, cs =>
      match skipSpace cs with
      | '"' :: rest =>
          let q := scanQuoted rest
          let key := q.literal spelling
          match q.rest? with
          | none => ([(key, .broken)], false, [])
          | some rest =>
              match skipSpace rest with
              | ':' :: rest =>
                  let (value, rest) := scanValue spelling fuel rest
                  match skipSpace rest with
                  | ',' :: rest =>
                      let (entries, closed, rest) := scanEntries spelling fuel rest
                      ((key, value) :: entries, closed, rest)
                  | '\x7d' :: rest => ([(key, value)], true, rest)
                  | _ => ([(key, value)], false, [])
              | _ => ([(key, .broken)], false, [])
      | _ => ([], false, [])

end

/-- A whole text: its document, and whether nothing but space follows it. -/
structure Text where
  root : Document
  clean : Bool
  deriving Repr, Inhabited

def Text.scan (spelling : Spelling) (cs : List Char) : Text :=
  let (root, rest) := scanValue spelling (2 * cs.length + 2) cs
  ⟨root, (skipSpace rest).isEmpty⟩

end Json
end TraceAdapter
