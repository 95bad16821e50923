import TraceAdapter.Decimal.Places

/-!
# Escapes and formats

`echo` reads escapes in its words; `printf` reads escapes and directives in
its format, which is used again while words are left.
-/

namespace TraceAdapter
namespace Shell

inductive Extent where
  | places (n : Nat)
  | argument
  deriving DecidableEq, Repr

structure Directive where
  text : List Char
  flags : List Char
  width? : Option Extent
  precision? : Option Extent
  /-- The letter at the end, none when the format ends before it. -/
  kind? : Option Char
  deriving DecidableEq, Repr

namespace Directive

def spanExtent : List Char -> Option Extent × List Char
  | '*' :: cs => (some .argument, cs)
  | cs =>
      let (ds, rest) := cs.span Char.isDigit
      ((Numeral.ofDigits? 10 ds).map .places, rest)

def isPart (c : Char) : Bool := "#-+ 0123456789.*".toList.contains c

def ofSigns (signs : List Char) (kind? : Option Char) : Directive :=
  let (flags, rest) := signs.span fun c => "#-+ 0".toList.contains c
  let (width?, rest) := spanExtent rest
  let precision? :=
    match rest with
    | '.' :: cs => some ((spanExtent cs).1.getD (.places 0))
    | _ => none
  { text := signs ++ kind?.toList, flags, width?, precision?, kind? }

end Directive

inductive Item where
  | char (c : Char)
  | directive (d : Directive)
  | stop
  deriving DecidableEq, Repr

namespace Item

inductive Mode where
  | plain
  | backslash
  | octal (value left : Nat)
  | percent (signs : List Char)
  deriving DecidableEq, Repr

structure Reading where
  format : Bool
  mode : Mode := .plain
  items : List Item := []

namespace Reading

def add (r : Reading) (i : Item) : Reading :=
  { r with mode := .plain, items := i :: r.items }

def plain (r : Reading) (c : Char) : Reading :=
  if c = '\\' then { r with mode := .backslash }
  else if c = '%' ∧ r.format then { r with mode := .percent [] }
  else r.add (.char c)

def letters : List (Char × Char) :=
  [('\\', '\\'), ('a', Char.ofNat 7), ('b', Char.ofNat 8), ('e', Char.ofNat 27),
    ('f', Char.ofNat 12),
    ('n', '\n'), ('r', '\r'), ('t', '\t'), ('v', Char.ofNat 11)]

def isOctal (c : Char) : Bool := '0' ≤ c && c ≤ '7'

def endOctal (r : Reading) (value : Nat) : Reading :=
  r.add (.char (Char.ofNat (value % 256)))

def backslash (r : Reading) (c : Char) : Reading :=
  match letters.find? fun l => l.1 == c with
  | some l => r.add (.char l.2)
  | none =>
      if c = 'c' ∧ ! r.format then r.add .stop
      else if c = '0' ∧ ! r.format then { r with mode := .octal 0 3 }
      else if isOctal c then { r with mode := .octal (c.toNat - 48) 2 }
      else (r.add (.char '\\')).plain c

def step (r : Reading) (c : Char) : Reading :=
  match r.mode with
  | .plain => r.plain c
  | .backslash => r.backslash c
  | .octal value 0 => (r.endOctal value).plain c
  | .octal value (left + 1) =>
      if isOctal c then { r with mode := .octal (value * 8 + (c.toNat - 48)) left }
      else (r.endOctal value).plain c
  | .percent [] =>
      if c = '%' then r.add (.char '%')
      else if Directive.isPart c then { r with mode := .percent [c] }
      else r.add (.directive (.ofSigns [] (some c)))
  | .percent signs =>
      if Directive.isPart c then { r with mode := .percent (c :: signs) }
      else r.add (.directive (.ofSigns signs.reverse (some c)))

def finish (r : Reading) : List Item :=
  let ended :=
    match r.mode with
    | .plain => r
    | .backslash => r.add (.char '\\')
    | .octal value _ => r.endOctal value
    | .percent signs => r.add (.directive (.ofSigns signs.reverse none))
  ended.items.reverse

end Reading

def scan (format : Bool) (text : List Char) : List Item :=
  (text.foldl Reading.step { format }).finish

def chars : List Item -> List Char
  | [] => []
  | .char c :: rest => c :: chars rest
  | .directive d :: rest => '%' :: d.text ++ chars rest
  | .stop :: _ => []

end Item

def echo (words : List (List Char)) : List Char :=
  let (newline, words) :=
    match words with
    | ['-', 'n'] :: rest => ([], rest)
    | _ => ([Item.char '\n'], words)
  Item.chars (Item.scan false (List.intercalate [' '] words) ++ newline)

/-!
## Complaints
-/

inductive FormatFault where
  /-- A word is no number, or only its start is one, or one that is too large. -/
  | noNumber (word : List Char)
  | notOnlyNumber (word : List Char)
  | tooLarge (word : List Char)
  | badDirective (text : List Char)
  | noLetter (text : List Char)
  deriving DecidableEq, Repr

def FormatFault.text : FormatFault -> List Char
  | noNumber word => word ++ ": expected numeric value".toList
  | notOnlyNumber word => word ++ ": not completely converted".toList
  | tooLarge word => word ++ ": Numerical result out of range".toList
  | badDirective text => '%' :: text ++ ": invalid directive".toList
  | noLetter _ => "missing format character".toList

/-!
## Numbers
-/

/-- A number in a word: its value, and what follows it.  It is in base sixteen
after `0x`, in base eight after a zero and in base ten otherwise. -/
def spanNumber (word : List Char) : Option Int × List Char :=
  let cs := word.dropWhile fun c => c = ' ' || c = '\t' || c = '\n'
  let (negative, cs) :=
    match cs with
    | '-' :: rest => (true, rest)
    | '+' :: rest => (false, rest)
    | _ => (false, cs)
  let digits (base : Nat) (cs : List Char) : Option Int × List Char :=
    let (ds, rest) := cs.span fun c => (Numeral.digit? base c).isSome
    match Numeral.ofDigits? base ds with
    | some n => (some (if negative then -(n : Int) else n), rest)
    | none => (none, word)
  match cs with
  | '0' :: x :: d :: rest =>
      if (x = 'x' ∨ x = 'X') ∧ (Numeral.digit? 16 d).isSome then digits 16 (d :: rest)
      else digits 8 cs
  | '0' :: _ => digits 8 cs
  | _ => digits 10 cs

def readNumber (signed : Bool) (word : List Char) : Int × Option FormatFault :=
  match word with
  | [] => (0, none)
  | '\'' :: c :: _ => (c.toNat, none)
  | '"' :: c :: _ => (c.toNat, none)
  | _ =>
      let (i?, rest) := spanNumber word
      match i? with
      | none => (0, some (.noNumber word))
      | some i =>
          let high : Int :=
            (if signed then Numeral.signedBound64 else Numeral.bound64) - 1
          let low : Int :=
            if signed then -Numeral.signedBound64 else -(Numeral.bound64 - 1)
          let value := max low (min high i)
          (value,
            if ! rest.isEmpty then some (.notOnlyNumber word)
            else if value ≠ i then some (.tooLarge word)
            else none)

def readReal (word : List Char) : Float × Option FormatFault :=
  match word with
  | [] => (0, none)
  | '\'' :: cs => (((cs.head?).map fun c => Float.ofNat c.toNat).getD 0, none)
  | '"' :: cs => (((cs.head?).map fun c => Float.ofNat c.toNat).getD 0, none)
  | _ =>
      let based (cs : List Char) : Option (Float × List Char) :=
        match cs with
        | '0' :: x :: rest =>
            let (ds, rest) := rest.span fun c => (Numeral.digit? 16 c).isSome
            if x = 'x' ∨ x = 'X' then
              (Numeral.ofDigits? 16 ds).map fun n => (Float.ofNat n, rest)
            else none
        | _ => none
      let cs := word.dropWhile fun c => c = ' ' || ('\t' ≤ c && c ≤ '\r')
      match (based cs).or (Decimal.spanFloat? cs) with
      | none => (0, some (.noNumber word))
      | some (x, []) =>
          let tooLarge := x.isInf && cs.any Char.isDigit
          (x, if tooLarge then some (.tooLarge word) else none)
      | some (x, _) => (x, some (.notOnlyNumber word))

/-!
## Directives
-/

def pad (left : Bool) (width : Nat) (text : List Char) : List Char :=
  let filling := List.replicate (width - text.length) ' '
  if left then text ++ filling else filling ++ text

/-- The text of a number with at least so many digits, and what goes before
them. -/
def numberText (d : Directive) (left : Bool) (width : Nat) (precision? : Option Nat)
    (sign digits : List Char) : List Char :=
  let digits :=
    match precision? with
    | some n =>
        if n = 0 ∧ digits = ['0'] then []
        else List.replicate (n - digits.length) '0' ++ digits
    | none =>
        if d.flags.contains '0' ∧ ¬ left then
          List.replicate (width - sign.length - digits.length) '0' ++ digits
        else digits
  pad left width (sign ++ digits)

def signOf (d : Directive) (i : Int) : List Char :=
  if i < 0 then ['-']
  else if d.flags.contains '+' then ['+']
  else if d.flags.contains ' ' then [' ']
  else []

def realText (d : Directive) (kind : Char) (left : Bool) (width places : Nat)
    (x : Float) : List Char :=
  let sign :=
    if (Decimal.sizeOf x).1 then ['-']
    else if d.flags.contains '+' then ['+']
    else if d.flags.contains ' ' then [' ']
    else []
  let size := Decimal.sizeText kind (d.flags.contains '#') places x
  let zeros :=
    if d.flags.contains '0' ∧ ¬ left ∧ x.isFinite then
      List.replicate (width - sign.length - size.length) '0'
    else []
  pad left width (sign ++ zeros ++ size)

structure Printing where
  words : List (List Char)
  taken : Bool := false
  output : List Char := []
  faults : List FormatFault := []
  status : Nat := 0
  stopped : Bool := false

namespace Printing

def take (p : Printing) : Option (List Char) × Printing :=
  match p.words with
  | [] => (none, p)
  | w :: ws => (some w, { p with words := ws, taken := true })

def write (p : Printing) (text : List Char) : Printing :=
  { p with output := p.output ++ text }

def takeNumber (p : Printing) (signed : Bool) : Int × Printing :=
  let (word?, p) := p.take
  let (i, fault?) := readNumber signed (word?.getD [])
  match fault? with
  | none => (i, p)
  | some fault =>
      (i, { p with faults := p.faults ++ [fault], status := 1 })

def takeReal (p : Printing) : Float × Printing :=
  let (word?, p) := p.take
  let (x, fault?) := readReal (word?.getD [])
  match fault? with
  | none => (x, p)
  | some fault =>
      (x, { p with faults := p.faults ++ [fault], status := 1 })

def takeExtent (p : Printing) : Option Extent -> Option Int × Printing
  | none => (none, p)
  | some (.places n) => (some n, p)
  | some .argument =>
      let (i, p) := p.takeNumber true
      (some i, p)

def stop (p : Printing) (fault : FormatFault) : Printing :=
  { p with faults := p.faults ++ [fault], status := 2, stopped := true }

def follow (p : Printing) (d : Directive) : Printing :=
  let (width?, p) := p.takeExtent d.width?
  let (precision?, p) := p.takeExtent d.precision?
  let width := (width?.getD 0).natAbs
  let left := d.flags.contains '-' || (width?.getD 0) < 0
  let precision? : Option Nat := precision?.bind fun i => if i < 0 then none else some i.toNat
  let text (cs : List Char) : List Char :=
    pad left width (match precision? with
      | some n => cs.take n
      | none => cs)
  let number (signs digits : List Char) : List Char :=
    numberText d left width precision? signs digits
  let unsigned (base : Nat) (mark : List Char) (upper : Bool) : Printing :=
    let (i, p) := p.takeNumber false
    let n := (i % Numeral.bound64).toNat
    let digits := Nat.toDigits base n
    let digits := if upper then digits.map Char.toUpper else digits
    p.write (number (if d.flags.contains '#' ∧ n ≠ 0 then mark else []) digits)
  match d.kind? with
  | none => p.stop (.noLetter d.text)
  | some 's' =>
      let (word?, p) := p.take
      p.write (text (word?.getD []))
  | some 'b' =>
      let (word?, p) := p.take
      let items := Item.scan false (word?.getD [])
      { p.write (text (Item.chars items)) with stopped := items.contains .stop }
  | some 'c' =>
      let (word?, p) := p.take
      p.write (text [((word?.getD []).head?).getD (Char.ofNat 0)])
  | some 'u' => unsigned 10 [] false
  | some 'o' => unsigned 8 ['0'] false
  | some 'x' => unsigned 16 ['0', 'x'] false
  | some 'X' => unsigned 16 ['0', 'X'] true
  | some c =>
      if c = 'd' ∨ c = 'i' then
        let (i, p) := p.takeNumber true
        p.write (number (signOf d i) (Nat.toDigits 10 i.natAbs))
      else if "eEfFgG".toList.contains c then
        let (x, p) := p.takeReal
        p.write (realText d c left width (precision?.getD 6) x)
      else p.stop (.badDirective d.text)

def useItem (p : Printing) (i : Item) : Printing :=
  if p.stopped then p
  else
    match i with
    | .char c => p.write [c]
    | .stop => { p with stopped := true }
    | .directive d => p.follow d

def useFormat (items : List Item) : Nat -> Printing -> Printing
  | 0, p => p
  | n + 1, p =>
      let p := items.foldl useItem { p with taken := false }
      if p.stopped || p.words.isEmpty || ! p.taken then p else useFormat items n p

end Printing

def printf (format : List Char) (words : List (List Char)) : Printing :=
  Printing.useFormat (Item.scan true format) (words.length + 1) { words }

end Shell
end TraceAdapter
