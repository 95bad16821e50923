import TraceAdapter.Text.Numeral

/-!
# Socket addresses

The text of an internet address with a port, in either of the two families.
-/

namespace TraceAdapter

inductive InternetAddress where
  | four (a b c d : Nat)
  | six (groups : List Nat) (scope : Nat)
  deriving DecidableEq, Repr

structure SocketAddress where
  address : InternetAddress
  port : Nat
  deriving DecidableEq, Repr

namespace SocketAddress

/-!
## Reading
-/

/-- Read a number below a bound.  The digits must not be more than allowed,
and where zeros in front are not allowed zero is the only number with one. -/
def number? (base bound : Nat) (maxDigits? : Option Nat) (zeros : Bool)
    (cs : List Char) : Option (Nat × List Char) :=
  let digits := cs.takeWhile fun c => (Numeral.digit? base c).isSome
  let fits := maxDigits?.all fun n => digits.length ≤ n
  let plain := zeros || digits.length ≤ 1 || digits.head? != some '0'
  if fits && plain then
    ((Numeral.ofDigits? base digits).filter (· < bound)).map fun n =>
      (n, cs.drop digits.length)
  else none

def char? (c : Char) : List Char -> Option (List Char)
  | [] => none
  | d :: rest => if d = c then some rest else none

def octet? (cs : List Char) : Option (Nat × List Char) := number? 10 256 (some 3) false cs

def four? (cs : List Char) : Option ((Nat × Nat × Nat × Nat) × List Char) := do
  let (a, cs) ← octet? cs
  let (b, cs) ← (char? '.' cs).bind octet?
  let (c, cs) ← (char? '.' cs).bind octet?
  let (d, cs) ← (char? '.' cs).bind octet?
  some ((a, b, c, d), cs)

/-- What follows the colon before a group; the first group has none. -/
def afterColon? (first : Bool) (cs : List Char) : Option (List Char) :=
  if first then some cs else char? ':' cs

/-- Read at most so many groups.  The last two may be written as four numbers,
which is told as well. -/
def groups : Nat -> Bool -> List Char -> List Nat × Bool × List Char
  | 0, _, cs => ([], false, cs)
  | n + 1, first, cs =>
      match afterColon? first cs with
      | none => ([], false, cs)
      | some inner =>
          match if n = 0 then none else four? inner with
          | some ((a, b, c, d), rest) => ([a * 256 + b, c * 256 + d], true, rest)
          | none =>
              match number? 16 Numeral.bound16 (some 4) true inner with
              | none => ([], false, cs)
              | some (g, rest) =>
                  let (gs, mixed, rest) := groups n false rest
                  (g :: gs, mixed, rest)

/-- Read eight groups, some of which two colons may stand for. -/
def six? (cs : List Char) : Option (List Nat × List Char) :=
  let (head, mixed, rest) := groups 8 true cs
  if head.length = 8 then some (head, rest)
  else if mixed then none
  else
    ((char? ':' rest).bind (char? ':')).map fun rest =>
      let (tail, _, rest) := groups (7 - head.length) true rest
      (head ++ List.replicate (8 - head.length - tail.length) 0 ++ tail, rest)

def scope? (cs : List Char) : Option (Nat × List Char) :=
  match char? '%' cs with
  | none => some (0, cs)
  | some rest => number? 10 Numeral.bound32 none true rest

def port? (cs : List Char) : Option Nat :=
  match (char? ':' cs).bind (number? 10 Numeral.bound16 none true) with
  | some (port, []) => some port
  | _ => none

def bracketed? (cs : List Char) : Option (InternetAddress × List Char) := do
  let cs ← char? '[' cs
  let (groups, cs) ← six? cs
  let (scope, cs) ← scope? cs
  let cs ← char? ']' cs
  some (.six groups scope, cs)

def ofText? (s : String) : Option SocketAddress :=
  let address? : Option (InternetAddress × List Char) :=
    match four? s.toList with
    | some ((a, b, c, d), rest) => some (.four a b c d, rest)
    | none => bracketed? s.toList
  address?.bind fun (address, rest) => (port? rest).map fun port => ⟨address, port⟩

/-!
## Writing
-/

def fourText (a b c d : Nat) : String :=
  ".".intercalate ([a, b, c, d].map Numeral.decimal)

def groupsText (groups : List Nat) : String := ":".intercalate (groups.map Numeral.hex)

def zerosInFront (groups : List Nat) : Nat := (groups.takeWhile (· = 0)).length

def longestZeros (groups : List Nat) : Nat × Nat :=
  (List.range groups.length).foldl
    (fun best i =>
      let n := zerosInFront (groups.drop i)
      if best.2 < n then (i, n) else best)
    (0, 0)

/-- The text of eight groups.  Two colons stand for the longest run of more
than one zero, and addresses of the older family keep their own form. -/
def sixText (groups : List Nat) : String :=
  match groups with
  | [0, 0, 0, 0, 0, 0xFFFF, g, h] =>
      "::ffff:" ++ fourText (g / 256) (g % 256) (h / 256) (h % 256)
  | _ =>
      let (start, length) := longestZeros groups
      if 1 < length then
        groupsText (groups.take start) ++ "::" ++
          groupsText (groups.drop (start + length))
      else groupsText groups

def addressText : InternetAddress -> String
  | .four a b c d => fourText a b c d
  | .six groups scope =>
      let scopeText := if scope = 0 then "" else "%" ++ Numeral.decimal scope
      "[" ++ sixText groups ++ scopeText ++ "]"

def text (s : SocketAddress) : String :=
  addressText s.address ++ ":" ++ Numeral.decimal s.port

end SocketAddress

end TraceAdapter
