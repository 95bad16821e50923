import TraceAdapter.Decimal.Places
import TraceAdapter.Host.Regex
import TraceAdapter.Host.Shell.Tool.Lines

/-!
# Numbers

Numbers are counted off, reckoned with and taken apart.
-/

namespace TraceAdapter
namespace Shell
namespace Tool

/-!
## Counting off
-/

/-- A decimal number: a whole number of parts of which `10 ^ places` make one.  None
stands for a number without a limit. -/
structure Countable where
  parts? : Option Int
  places : Nat
  width : Nat

def Countable.ofWord? (w : List Char) : Option Countable :=
  let cs := w.dropWhile isSpace
  let (negative, size) : Bool × List Char :=
    match cs with
    | '-' :: rest => (true, rest)
    | '+' :: rest => (false, rest)
    | _ => (false, cs)
  let width := size.length + (if negative then 1 else 0)
  let signed (n : Nat) : Int := if negative then -(n : Int) else n
  match size.map Char.toLower with
  | '0' :: 'x' :: ds =>
      (Numeral.ofDigits? 16 ds).map fun n => { parts? := some (signed n), places := 0, width }
  | lower =>
      if lower = "inf".toList ∨ lower = "infinity".toList then
        some { parts? := none, places := 0, width }
      else
        match Decimal.spanSize? size with
        | some (n, places, e, []) =>
            let shift := e - places
            if 0 ≤ shift then
              some { parts? := some (signed (n * Nat.pow 10 shift.toNat)), places := 0, width }
            else
              some { parts? := some (signed n), places := shift.natAbs
                     width := if e = 0 then width else max width (shift.natAbs + 2) }
        | _ => none

def Countable.partsAt (n : Countable) (places : Nat) : Option Int :=
  n.parts?.map (· * Nat.pow 10 (places - n.places))

def countText (places : Nat) (i : Int) : List Char :=
  (if i < 0 then ['-'] else []) ++ Decimal.withPoint places (Nat.toDigits 10 i.natAbs)

def zeroPadded (width : Nat) (cs : List Char) : List Char :=
  match cs with
  | '-' :: rest => '-' :: List.replicate (width - cs.length) '0' ++ rest
  | _ => List.replicate (width - cs.length) '0' ++ cs

def guardNegatives : List (List Char) -> List (List Char)
  | [] => []
  | w :: rest =>
      match w with
      | '-' :: c :: _ =>
          if c.isDigit ∨ c = '.' then ['-', '-'] :: w :: rest
          else if ["-s", "-f", "--separator", "--format"].contains (String.ofList w) then
            match rest with
            | value :: rest => w :: value :: guardNegatives rest
            | [] => [w]
          else w :: guardNegatives rest
      | _ => w :: rest

structure CountFormat where
  front : List Char
  directive : Directive
  back : List Char

def CountFormat.ofWord (w : List Char) : Except (List Char) CountFormat :=
  let items := Item.scan true w
  let plain (is : List Item) : List Char := is.flatMap fun i =>
    match i with
    | .char c => [c]
    | _ => []
  let (front, rest) := items.span fun i => (i matches .char _)
  let shownFormat := "format ".toList ++ inQuotes w
  match rest with
  | .directive d :: back =>
      match d.kind? with
      | none => .error (shownFormat ++ " ends in %".toList)
      | some c =>
          if ! "aefgAEFG".toList.contains c then
            .error (shownFormat ++ " has unknown %".toList ++ [c] ++ " directive".toList)
          else if back.any fun i => ! (i matches .char _) then
            .error (shownFormat ++ " has too many % directives".toList)
          else .ok ⟨plain front, d, plain back⟩
  | _ => .error (shownFormat ++ " has no % directive".toList)

def CountFormat.text (f : CountFormat) (places : Nat) (i : Int) : List Char :=
  let size := Decimal.toFloat i.natAbs places 0
  let extent (e? : Option Extent) : Option Nat :=
    match e? with
    | some (.places n) => some n
    | _ => none
  let d := f.directive
  f.front ++
    realText d (d.kind?.getD 'g') (d.flags.contains '-') ((extent d.width?).getD 0)
      ((extent d.precision?).getD 6) (if i < 0 then -size else size) ++
    f.back

/-- Write numbers from one to another.  `count` is how many there are at most. -/
def countOff (count : Nat) (show_ : Int -> List Char) (separator : List Char)
    (first step : Int) : List Char :=
  let texts := (List.range count).map fun (k : Nat) =>
    (if k = 0 then [] else separator) ++ show_ (first + step * (k : Int))
  texts.flatten ++ (if count = 0 then [] else ['\n'])

def seq : Tool := fun _ name words =>
  let options := (Options.of "f:s:w"
    [("format=", "f"), ("separator=", "s"), ("equal-width", "w")]).inFront
  withOptions name 1 options (guardNegatives words) fun g => do
    let operands := g.operands
    match operands, operands.find? fun w => (Countable.ofWord? w).isNone with
    | [], _ => missingOperand name none
    | _ :: _ :: _ :: w :: _, _ => extraOperand name w
    | _, some w =>
        let shownKind := if "nan".toList = w.map Char.toLower then
          "invalid 'not-a-number' argument: " else "invalid floating point argument: "
        refuseUsage name 1 (shownKind.toList ++ inQuotes w)
    | _, none =>
        let one : Countable := { parts? := some 1, places := 0, width := 1 }
        let numbers := operands.filterMap Countable.ofWord?
        let (first, step, last) :=
          match numbers with
          | [last] => (one, one, last)
          | [first, last] => (first, one, last)
          | [first, step, last] => (first, step, last)
          | _ => (one, one, one)
        let places := max first.places step.places
        let common := max places last.places
        let shownPlaces : Nat := places
        let wide (n : Countable) : Nat :=
          n.width + (places - n.places) + (if n.places = 0 ∧ 0 < places then 1 else 0)
        let lastWidth :=
          if places < last.places then
            last.width - (last.places - places) - (if places = 0 then 1 else 0)
          else wide last
        let width := if g.has "w" then max (wide first) lastWidth else 0
        let format? := (g.value? "f").map CountFormat.ofWord
        match first.partsAt common, step.partsAt common, format? with
        | some a, some b, format? =>
            if b = 0 then
              refuseUsage name 1
                ("invalid Zero increment value: ".toList ++ inQuotes ((operands[1]?).getD []))
            else if g.has "w" ∧ format?.isSome then
              refuseUsage name 1
                "format string may not be specified when printing equal width strings".toList
            else
              match format? with
              | some (.error text) => refuse name 1 text
              | _ =>
                  let unit : Int := Nat.pow 10 (common - places)
                  let show_ (i : Int) : List Char :=
                    match format? with
                    | some (.ok f) => f.text common i
                    | _ => zeroPadded width (countText shownPlaces (i / unit))
                  let s ← get
                  let endless := s.patience / 2 + 1
                  let count :=
                    match last.partsAt common with
                    | none => if 0 < b then endless else 0
                    | some c =>
                        let span := if 0 < b then c - a else a - c
                        if span < 0 then 0 else (span / b.natAbs).toNat + 1
                  finish name 0 1
                    (countOff (min count endless) show_ ((g.value? "s").getD ['\n']) a b)
        | _, _, _ => answer 0

/-!
## Reckoning
-/

inductive ReckonFault where
  | grammar (text : List Char)
  | noNumber
  | zeroDivisor
  | badRegex (text : String)

def ReckonFault.text : ReckonFault -> List Char
  | grammar text => "syntax error: ".toList ++ text
  | noNumber => "non-integer argument".toList
  | zeroDivisor => "division by zero".toList
  | badRegex text => text.toList

abbrev Reckoned := Except ReckonFault (List Char × List (List Char))

def wholeNumber? (cs : List Char) : Option Int :=
  match cs with
  | '-' :: ds => (natural? ds).map fun n => -(n : Int)
  | ds => (natural? ds).map fun n => (n : Int)

def wholeText (i : Int) : List Char := (Numeral.signedDecimal i).toList

def isNull (cs : List Char) : Bool :=
  let ds := if cs.head? = some '-' then cs.tail else cs
  cs.isEmpty || (! ds.isEmpty && ds.all (· = '0'))

/-- What a text has in common with an expression at its start: the first group if
there is one, or the number of characters. -/
def matchStart (text pattern : List Char) : Except ReckonFault (List Char) :=
  match Regex.ofText {} pattern with
  | .error e => .error (.badRegex e)
  | .ok r =>
      let t : Regex.Subject := { chars := text.toArray }
      match Regex.matchAt? r t 0 with
      | none => .ok (if r.hasGroup then [] else ['0'])
      | some m =>
          if r.hasGroup then .ok ((m.group? t 1).getD []) else .ok (digits (m.stop - m.start))

def operate (op : String) (a b : List Char) : Except ReckonFault (List Char) :=
  let truth (holds : Bool) : Except ReckonFault (List Char) :=
    .ok (if holds then ['1'] else ['0'])
  let order : Ordering :=
    match wholeNumber? a, wholeNumber? b with
    | some i, some j => compare i j
    | _, _ => compareText a b
  let whole (f : Int -> Int -> Except ReckonFault Int) : Except ReckonFault (List Char) :=
    match wholeNumber? a, wholeNumber? b with
    | some i, some j => (f i j).map wholeText
    | _, _ => .error .noNumber
  match op with
  | "<" => truth (order = .lt)
  | "<=" => truth (order ≠ .gt)
  | "=" => truth (order = .eq)
  | "==" => truth (order = .eq)
  | "!=" => truth (order ≠ .eq)
  | ">=" => truth (order ≠ .lt)
  | ">" => truth (order = .gt)
  | "+" => whole fun i j => .ok (i + j)
  | "-" => whole fun i j => .ok (i - j)
  | "*" => whole fun i j => .ok (i * j)
  | "/" => whole fun i j => if j = 0 then .error .zeroDivisor else .ok (i.tdiv j)
  | "%" => whole fun i j => if j = 0 then .error .zeroDivisor else .ok (i.tmod j)
  | _ => matchStart a b

def reckonLevels : List (List String) :=
  [["|"], ["&"], ["<", "<=", "=", "==", "!=", ">=", ">"], ["+", "-"], ["*", "/", "%"], [":"]]

def substring (text place size : List Char) : List Char :=
  match wholeNumber? place, wholeNumber? size with
  | some p, some n =>
      if p ≤ 0 ∨ n ≤ 0 then [] else (text.drop (p.toNat - 1)).take n.toNat
  | _, _ => []

def placeOfAny (text chars : List Char) : Nat :=
  ((text.findIdx? chars.contains).map (· + 1)).getD 0

mutual

/-- Reckon words with the operators of some levels.  `before` is the word before
them; what is not `wanted` is read and not reckoned. -/
def reckon (fuel : Nat) (wanted : Bool) (before : List Char) (levels : List (List String))
    (ws : List (List Char)) : Reckoned :=
  match fuel with
  | 0 => .ok ([], ws)
  | fuel + 1 =>
      match levels with
      | [] => reckonWord fuel wanted before ws
      | ops :: tighter =>
          match reckon fuel wanted before tighter ws with
          | .error e => .error e
          | .ok (a, rest) => reckonMore fuel wanted ops tighter a rest

def reckonMore (fuel : Nat) (wanted : Bool) (ops : List String)
    (tighter : List (List String)) (a : List Char) (ws : List (List Char)) : Reckoned :=
  match fuel, ws with
  | fuel + 1, op :: rest =>
      if ! ops.contains (String.ofList op) then .ok (a, ws)
      else
        let name := String.ofList op
        let needed :=
          wanted && (if name = "|" then isNull a else if name = "&" then ! isNull a else true)
        match reckon fuel needed op tighter rest with
        | .error e => .error e
        | .ok (b, rest) =>
            let value : Except ReckonFault (List Char) :=
              if name = "|" then .ok (if ! isNull a then a else if isNull b then ['0'] else b)
              else if name = "&" then .ok (if isNull a ∨ isNull b then ['0'] else a)
              else if wanted then operate name a b
              else .ok a
            match value with
            | .error e => .error e
            | .ok value => reckonMore fuel wanted ops tighter value rest
  | _, _ => .ok (a, ws)

def reckonWord (fuel : Nat) (wanted : Bool) (before : List Char) (ws : List (List Char)) :
    Reckoned :=
  match fuel, ws with
  | 0, _ => .ok ([], ws)
  | _, [] => .error (.grammar ("missing argument after ".toList ++ inQuotes before))
  | fuel + 1, w :: rest =>
      let next (before : List Char) (ws : List (List Char)) : Reckoned :=
        reckonWord fuel wanted before ws
      match String.ofList w with
      | "+" =>
          match rest with
          | v :: rest => .ok (v, rest)
          | [] => .error (.grammar ("missing argument after ".toList ++ inQuotes w))
      | "length" => (next w rest).map fun (v, rest) => (digits v.length, rest)
      | "match" =>
          match next w rest with
          | .error e => .error e
          | .ok (text, rest) =>
              match next text rest with
              | .error e => .error e
              | .ok (pattern, rest) => (matchStart text pattern).map fun v => (v, rest)
      | "index" =>
          match next w rest with
          | .error e => .error e
          | .ok (text, rest) =>
              (next text rest).map fun (chars, rest) => (digits (placeOfAny text chars), rest)
      | "substr" =>
          match next w rest with
          | .error e => .error e
          | .ok (text, rest) =>
              match next text rest with
              | .error e => .error e
              | .ok (place, rest) =>
                  (next place rest).map fun (size, rest) => (substring text place size, rest)
      | "(" =>
          match reckon fuel wanted w reckonLevels rest with
          | .error e => .error e
          | .ok (v, [')'] :: rest) => .ok (v, rest)
          | .ok (_, other :: _) =>
              .error (.grammar ("expecting ')' instead of ".toList ++ inQuotes other))
          | .ok (_, []) =>
              .error (.grammar ("expecting ')' after ".toList ++
                inQuotes (ws.getLastD [])))
      | ")" => .error (.grammar "unexpected ')'".toList)
      | _ => .ok (w, rest)

end

def expr : Tool := fun _ name words => do
  let words := if words.head? = some ['-', '-'] then words.tail else words
  if words.isEmpty then refuseUsage name 2 "missing operand".toList
  else
    let size := 16 * words.length + 16
    match reckon size true [] reckonLevels words with
    | .error e => refuse name 2 e.text
    | .ok (v, []) => finish name (if isNull v then 1 else 0) 3 (v ++ ['\n'])
    | .ok (_, w :: _) =>
        refuse name 2 ("syntax error: unexpected argument ".toList ++ inQuotes w)

/-!
## Factors
-/

/-- The prime factors of a number from a divisor on.  The fuel bounds the
divisors. -/
def factorsFrom : Nat -> Nat -> Nat -> List Nat
  | 0, _, n => [n]
  | fuel + 1, d, n =>
      if n ≤ 1 then []
      else if n < d * d then [n]
      else if n % d = 0 then d :: factorsFrom fuel d (n / d)
      else factorsFrom fuel (if d = 2 then 3 else d + 2) n

def factor : Tool := fun _ name words =>
  withOptions name 1 (.of "h" [("exponents", "h")]) words fun g => do
    let text ← if g.operands.isEmpty then readInput else pure []
    let read := ((text.map fun c => if isSpace c then ' ' else c).splitOn ' ').filter
      (! ·.isEmpty)
    let numbers := if g.operands.isEmpty then read else g.operands
    let mut status := 0
    for w in numbers do
      match natural? w with
      | some n =>
          let fs := factorsFrom 2000000 2 n
          emit (digits n ++ ':' :: fs.flatMap (fun f => ' ' :: digits f) ++ ['\n'])
      | none =>
          warn name (inQuotes w ++ " is not a valid positive integer".toList)
          status := 1
    answer status

end Tool
end Shell
end TraceAdapter
