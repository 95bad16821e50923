import TraceAdapter.Host.Shell.Tool.Texts

/-!
# Tools on lines

Lines are put in order, compared with their neighbours, cut into fields, joined
and broken.
-/

namespace TraceAdapter
namespace Shell
namespace Tool

/-!
## Order
-/

/-- A part of a line by which lines are put in order: from a field and a character
in it to another one. -/
structure SortKey where
  field : Nat
  char : Nat
  /-- Where the key ends, none at the end of the line. -/
  last? : Option (Nat × Nat)
  letters : List Char
  skipsFirst : Bool := false
  skipsLast : Bool := false
  deriving Repr

namespace SortKey

def orders : List Char := "bdfgiMhnRrV".toList

def readPlace (cs : List Char) : Nat × Option Nat × List Char :=
  let (field, rest) := cs.span Char.isDigit
  match rest with
  | '.' :: rest =>
      let (char, rest) := rest.span Char.isDigit
      ((natural? field).getD 0, some ((natural? char).getD 0), rest)
  | _ => ((natural? field).getD 0, none, rest)

def ofWord (w : List Char) : Except (List Char) SortKey :=
  let fault (text : String) : Except (List Char) SortKey :=
    .error (text.toList ++ ": invalid field specification ".toList ++ inQuotes w)
  let (field, char?, rest) := readPlace w
  let (letters, rest) := rest.span orders.contains
  if ¬ (w.head?.map Char.isDigit).getD false then
    .error ("invalid number at field start: invalid count at start of ".toList ++ inQuotes w)
  else if field = 0 then fault "field number is zero"
  else if char? = some 0 then fault "character offset is zero"
  else
    let key : SortKey :=
      { field := field - 1, char := (char?.getD 1) - 1, last? := none, letters
        skipsFirst := letters.contains 'b' }
    match rest with
    | [] => .ok key
    | ',' :: rest =>
        let (field, char?, rest) := readPlace rest
        let (more, rest) := rest.span orders.contains
        if field = 0 then fault "field number is zero"
        else if ! rest.isEmpty then fault "stray character in field spec"
        else
          .ok
            { key with
              last? := some (field - 1, char?.getD 0)
              letters := letters ++ more
              skipsLast := more.contains 'b' }
    | _ => fault "stray character in field spec"

/-- What follows so many fields.  `open_` says that the separator after the last one
is passed over too. -/
def dropFields (separator? : Option Char) (open_ : Bool) : Nat -> List Char -> List Char
  | 0, cs => cs
  | n + 1, cs =>
      match separator? with
      | some c =>
          let rest := cs.dropWhile (· ≠ c)
          if n = 0 ∧ ! open_ then rest else dropFields separator? open_ n rest.tail
      | none =>
          let isSeparator (c : Char) : Bool := isBlank c || c = '\n'
          dropFields separator? open_ n
            ((cs.dropWhile isSeparator).dropWhile fun c => ! isSeparator c)

def text (k : SortKey) (separator? : Option Char) (line : List Char) : List Char :=
  let start := dropFields separator? true k.field line
  let start := if k.skipsFirst then start.dropWhile isBlank else start
  let start := start.drop k.char
  match k.last? with
  | none => start
  | some (field, char) =>
      let rest :=
        if char = 0 then dropFields separator? false (field + 1) line
        else
          let rest := dropFields separator? true field line
          (if k.skipsLast then rest.dropWhile isBlank else rest).drop char
      start.take (start.length - rest.length)

end SortKey

/-- The number in front of a text, as its sign, whole digits and digits behind the
point. -/
def leadingNumber (cs : List Char) : Bool × List Char × List Char :=
  let cs := cs.dropWhile isBlank
  let (negative, cs) : Bool × List Char :=
    match cs with
    | '-' :: rest => (true, rest)
    | _ => (false, cs)
  let (whole, rest) := cs.span Char.isDigit
  let part :=
    match rest with
    | '.' :: rest => rest.takeWhile Char.isDigit
    | _ => []
  (negative, whole.dropWhile (· = '0'), (part.reverse.dropWhile (· = '0')).reverse)

def compareText : List Char -> List Char -> Ordering
  | [], [] => .eq
  | [], _ => .lt
  | _, [] => .gt
  | a :: as, b :: bs => if a < b then .lt else if b < a then .gt else compareText as bs

def compareNumber (a b : List Char) : Ordering :=
  let (m, v, p) := leadingNumber a
  let (n, w, q) := leadingNumber b
  let zero (v p : List Char) : Bool := v.isEmpty && p.isEmpty
  let size : Ordering :=
    (compare v.length w.length).then ((compareText v w).then (compareText p q))
  match m && ! zero v p, n && ! zero w q with
  | false, false => size
  | true, true => size.swap
  | true, false => .lt
  | false, true => .gt

def unitOf (cs : List Char) : Nat :=
  let rest := (cs.dropWhile isBlank).dropWhile fun c => c.isDigit || c = '.' || c = '-'
  match rest.head? with
  | some c =>
      if c = 'k' then 1
      else (((['K', 'M', 'G', 'T', 'P', 'E', 'Z', 'Y']).findIdx? (· = c)).map (· + 1)).getD 0
  | none => 0

def compareSize (a b : List Char) : Ordering :=
  let negative (cs : List Char) : Bool := (leadingNumber cs).1
  match negative a, negative b with
  | false, false => (compare (unitOf a) (unitOf b)).then (compareNumber a b)
  | true, true => (compare (unitOf b) (unitOf a)).then (compareNumber a b)
  | _, _ => compareNumber a b

def months : List String :=
  ["JAN", "FEB", "MAR", "APR", "MAY", "JUN", "JUL", "AUG", "SEP", "OCT", "NOV", "DEC"]

def monthOf (cs : List Char) : Nat :=
  let name := ((cs.dropWhile isBlank).take 3).map Char.toUpper
  ((months.findIdx? fun m => m.toList = name).map (· + 1)).getD 0

def versionRank (c : Char) : Int :=
  if c = '~' then -1 else if c.isAlpha then c.toNat else c.toNat + 256

/-- Compare texts in which numbers count as numbers.  The fuel bounds their
parts. -/
def compareVersion : Nat -> List Char -> List Char -> Ordering
  | 0, _, _ => .eq
  | fuel + 1, a, b =>
      if a.isEmpty ∧ b.isEmpty then .eq
      else
        let (p, restA) := a.span fun c => ! c.isDigit
        let (q, restB) := b.span fun c => ! c.isDigit
        let rec ranks : List Char -> List Char -> Ordering
          | [], [] => .eq
          | [], d :: _ => if versionRank d < 0 then .gt else .lt
          | c :: _, [] => if versionRank c < 0 then .lt else .gt
          | c :: cs, d :: ds => (compare (versionRank c) (versionRank d)).then (ranks cs ds)
        match ranks p q with
        | .eq =>
            let (m, restA) := restA.span Char.isDigit
            let (n, restB) := restB.span Char.isDigit
            (compare ((natural? m).getD 0) ((natural? n).getD 0)).then
              (compareVersion fuel restA restB)
        | other => other

/-- The decimal number in front of a text as a fraction, none when there is none. -/
def generalNumber? (cs : List Char) : Option (Int × Nat) :=
  let cs := cs.dropWhile isSpace
  let (negative, cs) : Bool × List Char :=
    match cs with
    | '-' :: rest => (true, rest)
    | '+' :: rest => (false, rest)
    | _ => (false, cs)
  let (whole, rest) := cs.span Char.isDigit
  let (part, rest) : List Char × List Char :=
    match rest with
    | '.' :: rest => rest.span Char.isDigit
    | _ => ([], rest)
  if whole.isEmpty ∧ part.isEmpty then none
  else
    let value : Int := (natural? (whole ++ part)).getD 0
    let value := if negative then -value else value
    let exponent : Int :=
      match rest with
      | e :: '-' :: ds => if e = 'e' ∨ e = 'E' then -((natural? (ds.takeWhile Char.isDigit)).getD 0 : Int) else 0
      | e :: '+' :: ds => if e = 'e' ∨ e = 'E' then (natural? (ds.takeWhile Char.isDigit)).getD 0 else 0
      | e :: ds => if e = 'e' ∨ e = 'E' then (natural? (ds.takeWhile Char.isDigit)).getD 0 else 0
      | [] => 0
    let exponent := max (-400) (min 400 (exponent - part.length))
    if exponent < 0 then some (value, Nat.pow 10 exponent.natAbs)
    else some (value * Nat.pow 10 exponent.natAbs, 1)

def compareGeneral (a b : List Char) : Ordering :=
  match generalNumber? a, generalNumber? b with
  | none, none => .eq
  | none, some _ => .lt
  | some _, none => .gt
  | some (m, p), some (n, q) => compare (m * q) (n * p)

def compareKeys (letters : List Char) (a b : List Char) : Ordering :=
  let order : Ordering :=
    if letters.contains 'n' then compareNumber a b
    else if letters.contains 'g' then compareGeneral a b
    else if letters.contains 'h' then compareSize a b
    else if letters.contains 'M' then compare (monthOf a) (monthOf b)
    else if letters.contains 'V' then
      (compareVersion (a.length + b.length + 1) a b).then (compareText a b)
    else
      let clean (cs : List Char) : List Char :=
        let cs := if letters.contains 'd' then cs.filter fun c => isBlank c || c.isAlphanum else cs
        let cs := if letters.contains 'i' then cs.filter fun c => 32 ≤ c.toNat && c.toNat < 127 else cs
        if letters.contains 'f' then cs.map Char.toUpper else cs
      compareText (clean a) (clean b)
  if letters.contains 'r' then order.swap else order

structure Sorting where
  keys : List SortKey
  separator? : Option Char
  letters : List Char
  stable : Bool
  unique : Bool

namespace Sorting

def compareByKeys (o : Sorting) (a b : List Char) : Ordering :=
  if o.keys.isEmpty then
    let whole (cs : List Char) : List Char :=
      if o.letters.contains 'b' then cs.dropWhile isBlank else cs
    compareKeys o.letters (whole a) (whole b)
  else
    o.keys.foldl
      (fun order k =>
        order.then
          (let k :=
            if k.letters.isEmpty then
              { k with letters := o.letters, skipsFirst := o.letters.contains 'b'
                       skipsLast := o.letters.contains 'b' }
            else k
          compareKeys k.letters (k.text o.separator? a) (k.text o.separator? b)))
      .eq

def compareLines (o : Sorting) (a b : List Char) : Ordering :=
  let order := o.compareByKeys a b
  if o.stable || o.unique then order
  else order.then (if o.letters.contains 'r' then compareText b a else compareText a b)

def dropEqual (o : Sorting) : List (List Char) -> List (List Char)
  | a :: b :: rest =>
      if o.compareByKeys a b = .eq then dropEqual o (a :: rest)
      else a :: dropEqual o (b :: rest)
  | ls => ls
termination_by ls => ls.length

def sort (o : Sorting) (ls : List (List Char)) : List (List Char) :=
  let sorted := ls.mergeSort fun a b => o.compareLines a b != .gt
  if o.unique then o.dropEqual sorted else sorted

def disorder? (o : Sorting) : Nat -> List (List Char) -> Option (Nat × List Char)
  | n, a :: b :: rest =>
      let order := o.compareLines a b
      if order = .gt ∨ (o.unique ∧ order = .eq) then some (n + 1, b)
      else disorder? o (n + 1) (b :: rest)
  | _, _ => none

end Sorting

def sortOptions : Options :=
  .of "bdfghiMnRrVcCk:mo:sS:t:T:uz"
    [("ignore-leading-blanks", "b"), ("dictionary-order", "d"), ("ignore-case", "f"),
      ("general-numeric-sort", "g"), ("human-numeric-sort", "h"), ("month-sort", "M"),
      ("ignore-nonprinting", "i"), ("numeric-sort", "n"), ("reverse", "r"),
      ("version-sort", "V"), ("check=?", "c"), ("key=", "k"), ("merge", "m"),
      ("output=", "o"), ("stable", "s"), ("field-separator=", "t"), ("unique", "u"),
      ("zero-terminated", "z"), ("parallel=", "parallel"), ("buffer-size=", "S"),
      ("temporary-directory=", "T")]

def readAllOperands (operands : List (List Char)) :
    Action (Except (List Char × OsError) (List (List Char))) := do
  let mut texts : List (List Char) := []
  let mut fault? : Option (List Char × OsError) := none
  for w in if operands.isEmpty then [['-']] else operands do
    if fault?.isNone then
      match ← readOperand w with
      | .ok text => texts := text :: texts
      | .error e => fault? := some (w, e)
  match fault? with
  | some fault => return .error fault
  | none => return .ok texts.reverse

def sort : Tool := fun _ name words =>
  withOptions name 2 sortOptions words fun g => do
    let keys := (g.values "k").mapM SortKey.ofWord
    let separator? : Option (List Char) :=
      (g.value? "t").map fun w => if w = ['\\', '0'] then [Char.ofNat 0] else w
    match keys, separator? with
    | .error text, _ => refuse name 2 text
    | .ok _, some [] => refuse name 2 "empty tab".toList
    | .ok _, some (c :: d :: rest) =>
        refuse name 2 ("multi-character tab ".toList ++ inQuotes (c :: d :: rest))
    | .ok keys, _ =>
        let o : Sorting :=
          { keys, separator? := separator?.bind List.head?
            letters := SortKey.orders.filter fun c => g.has c.toString
            stable := g.has "s", unique := g.has "u" }
        match ← readAllOperands g.operands with
        | .error (w, .isADirectory) =>
            refuse name 2 ("read failed: ".toList ++ shown w ++ ": Is a directory".toList)
        | .error (w, e) =>
            refuse name 2 ("cannot read: ".toList ++ shown w ++ ": ".toList ++ reason e)
        | .ok texts =>
            let ending := if g.has "z" then Char.ofNat 0 else '\n'
            let split (text : List Char) : List (List Char) :=
              (pieces ending text).map fun l => if l.getLast? = some ending then l.dropLast else l
            let all := texts.flatMap split
            if g.has "c" || g.has "C" then
              match o.disorder? 1 all with
              | none => answer 0
              | some (n, line) =>
                  let quiet := g.has "C" || ["quiet", "silent"].any fun q =>
                    g.value? "c" = some q.toList
                  if quiet then answer 1
                  else
                    let w := g.operands.headD ['-']
                    refuse name 1
                      (w ++ ':' :: digits n ++ ": disorder: ".toList ++ line)
            else
              let output := (o.sort all).flatMap (· ++ [ending])
              match g.value? "o" with
              | none => finish name 0 2 output
              | some path =>
                  match ← store path output false with
                  | none => answer 0
                  | some e =>
                      refuse name 2 ("open failed: ".toList ++ shown path ++ ": ".toList ++ reason e)

/-!
## Neighbours
-/

def runs (key : List Char -> List Char) (ls : List (List Char)) : List (List (List Char)) :=
  ls.foldr
    (fun l rs =>
      match rs with
      | (m :: ms) :: rest => if key l = key m then (l :: m :: ms) :: rest else [l] :: rs
      | _ => [l] :: rs)
    []

def uniqOptions : Options :=
  .of "cdDuif:s:w:z"
    [("count", "c"), ("repeated", "d"), ("all-repeated=?", "D"), ("unique", "u"),
      ("ignore-case", "i"), ("skip-fields=", "f"), ("skip-chars=", "s"),
      ("check-chars=", "w"), ("zero-terminated", "z"), ("group=?", "group")]

/-- Write lines, neighbours that are equal only once. -/
def uniq : Tool := fun _ name words =>
  withOptions name 1 uniqOptions words fun g => do
    let key (line : List Char) : List Char :=
      let rest := (List.range (numberOr 0 (g.value? "f"))).foldl
        (fun cs _ => (cs.dropWhile isBlank).dropWhile fun c => ! isBlank c) line
      let rest := rest.drop (numberOr 0 (g.value? "s"))
      let rest :=
        match g.value? "w" with
        | some w => rest.take (numberOr 0 (some w))
        | none => rest
      if g.has "i" then rest.map Char.toLower else rest
    if 2 < g.operands.length then extraOperand name ((g.operands[2]?).getD [])
    else
      match ← readOperand (g.operands.headD ['-']) with
      | .error e =>
          refusePath name 1 (g.operands.headD []) e
      | .ok text =>
          let output := (runs key (lines text)).flatMap fun run =>
            let n := run.length
            let wanted := (! g.has "d" || 1 < n) && (! g.has "u" || n = 1)
            if g.has "D" then (if 1 < n then unlines run else [])
            else if ! wanted then []
            else
              (if g.has "c" then padLeft 7 (digits n) ++ [' '] else []) ++
                run.headD [] ++ ['\n']
          match g.operands[1]? with
          | none => finish name 0 1 output
          | some path =>
              match ← store path output false with
              | none => answer 0
              | some e => refusePath name 1 path e

def comm : Tool := fun _ name words =>
  withOptions name 1
    (.of "123z"
      [("output-delimiter=", "d"), ("check-order", "check"), ("nocheck-order", "nocheck"),
        ("total", "total"), ("zero-terminated", "z")])
    words fun g => do
      match g.operands with
      | [] => missingOperand name none
      | [w] => missingOperand name (some w)
      | a :: b :: rest =>
          if let w :: _ := rest then
            extraOperand name w
            return
          match ← readOperand a, ← readOperand b with
          | .error e, _ => refusePath name 1 a e
          | _, .error e => refusePath name 1 b e
          | .ok s, .ok t =>
              let separator := (g.value? "d").getD ['\t']
              let second := if g.has "1" then [] else separator
              let third := second ++ (if g.has "2" then [] else separator)
              let rec merge : Nat -> List (List Char) -> List (List Char) -> List (List Char)
                | 0, _, _ => []
                | fuel + 1, x :: xs, y :: ys =>
                    match compareText x y with
                    | .lt => (if g.has "1" then [] else [x]) ++ merge fuel xs (y :: ys)
                    | .gt => (if g.has "2" then [] else [second ++ y]) ++ merge fuel (x :: xs) ys
                    | .eq => (if g.has "3" then [] else [third ++ x]) ++ merge fuel xs ys
                | fuel + 1, x :: xs, [] =>
                    (if g.has "1" then [] else [x]) ++ merge fuel xs []
                | fuel + 1, [], y :: ys =>
                    (if g.has "2" then [] else [second ++ y]) ++ merge fuel [] ys
                | _, [], [] => []
              let xs := lines s
              let ys := lines t
              finish name 0 1 (unlines (merge (xs.length + ys.length + 1) xs ys))

/-!
## Fields
-/

abbrev Span := Nat × Option Nat

def readSpans (fields : Bool) (w : List Char) : Except (List Char) (List Span) :=
  let zero : Except (List Char) Span :=
    .error
      (if fields then "fields are numbered from 1".toList
      else "byte/character positions are numbered from 1".toList)
  let bad (piece : List Char) : Except (List Char) Span :=
    .error
      ((if fields then "invalid field value ".toList
        else "invalid byte or character position ".toList) ++ inQuotes piece)
  let span (piece : List Char) : Except (List Char) Span :=
    let (first, rest) := piece.span (· ≠ '-')
    let isNumber (cs : List Char) : Bool := cs.all Char.isDigit
    match rest with
    | [] =>
        if first.isEmpty then zero
        else if ! isNumber first then bad first
        else
          match natural? first with
          | some 0 => zero
          | some n => .ok (n, some n)
          | none => bad first
    | _ :: last =>
        if first.isEmpty ∧ last.isEmpty then
          .error "invalid range with no endpoint: -".toList
        else if ! isNumber first then bad first
        else if ! isNumber last then bad last
        else
          let low := if first.isEmpty then 1 else (natural? first).getD 0
          let high? := if last.isEmpty then none else natural? last
          if low = 0 then zero
          else if high?.any (· < low) then .error "invalid decreasing range".toList
          else .ok (low, high?)
  ((w.map fun c => if isBlank c then ',' else c).splitOn ',').mapM span

def inSpans (spans : List Span) (n : Nat) : Bool :=
  spans.any fun s => s.1 ≤ n && s.2.all (n ≤ ·)

def cutOptions : Options :=
  .of "b:c:d:f:nsz"
    [("bytes=", "b"), ("characters=", "c"), ("delimiter=", "d"), ("fields=", "f"),
      ("only-delimited", "s"), ("output-delimiter=", "o"), ("complement", "complement"),
      ("zero-terminated", "z")]

def cut : Tool := fun _ name words =>
  withOptions name 1 cutOptions words fun g => do
    let lists := g.options.filter fun o => ["b", "c", "f"].contains o.1
    match lists with
    | [] =>
        refuseUsage name 1 "you must specify a list of bytes, characters, or fields".toList
    | [(kind, list?)] =>
        let fields := kind = "f"
        if ! fields ∧ g.has "d" then
          refuseUsage name 1
            "an input delimiter may be specified only when operating on fields".toList
        else if ! fields ∧ g.has "s" then
          refuseUsage name 1
            ("suppressing non-delimited lines makes sense\n\tonly when operating on fields").toList
        else if 1 < ((g.value? "d").getD []).length then
          refuseUsage name 1 "the delimiter must be a single character".toList
        else
          match readSpans fields (list?.getD []) with
          | .error text => refuseUsage name 1 text
          | .ok spans =>
              let complement := g.has "complement"
              let wanted (n : Nat) : Bool := inSpans spans n != complement
              let delimiter := ((g.value? "d").bind List.head?).getD
                (if g.has "d" then Char.ofNat 0 else '\t')
              let joint := (g.value? "o").getD [delimiter]
              let cutFields (l : List Char) : List Char :=
                if ! l.contains delimiter then (if g.has "s" then [] else l ++ ['\n'])
                else
                  let kept := ((l.splitOn delimiter).zipIdx 1).filterMap fun (f, i) =>
                    if wanted i then some f else none
                  List.intercalate joint kept ++ ['\n']
              let cutChars (l : List Char) : List Char :=
                let step (r : List Char × Bool) (e : Char × Nat) : List Char × Bool :=
                  if wanted e.2 then
                    let gap := g.has "o" && ! r.2 && ! r.1.isEmpty
                    let starts := g.has "o" && ! r.1.isEmpty && r.2 &&
                      spans.any (fun s => s.1 = e.2) &&
                      ! spans.any (fun s => s.1 < e.2 && s.2.all (e.2 ≤ ·))
                    (e.1 :: (if gap || starts then joint.reverse else []) ++ r.1, true)
                  else (r.1, false)
                ((l.zipIdx 1).foldl step ([], false)).1.reverse ++ ['\n']
              forTexts name g.operands fun _ text =>
                emit ((lines text).flatMap (if fields then cutFields else cutChars))
    | _ => refuseUsage name 1 "only one list may be specified".toList

def delimiterList : List Char -> List (Option Char)
  | [] => []
  | '\\' :: c :: cs =>
      (match c with
      | 'n' => some '\n'
      | 't' => some '\t'
      | '0' => none
      | _ => some c) :: delimiterList cs
  | c :: cs => some c :: delimiterList cs

def paste : Tool := fun _ name words =>
  withOptions name 1 (.of "d:sz" [("delimiters=", "d"), ("serial", "s"), ("zero-terminated", "z")])
    words fun g => do
      let ds := delimiterList ((g.value? "d").getD ['\t'])
      let ds := if ds.isEmpty then [none] else ds
      let delimiter (i : Nat) : List Char := ((ds[i % ds.length]?).getD none).toList
      let join (ls : List (List Char)) : List Char :=
        (ls.zipIdx.flatMap fun (l, i) => (if i = 0 then [] else delimiter (i - 1)) ++ l) ++ ['\n']
      let operands := if g.operands.isEmpty then [['-']] else g.operands
      let inputs := operands.countP (· = ['-'])
      let input ← if 0 < inputs then (do return lines (← readInput)) else pure []
      let mut columns : List (List (List Char)) := []
      let mut dashes := 0
      let mut status := 0
      for w in operands do
        if w = ['-'] then
          let k := dashes
          let mine := input.zipIdx.filterMap fun (l, i) =>
            if i % inputs = k then some l else none
          columns := columns ++ [mine]
          dashes := dashes + 1
        else
          match ← readPath w with
          | .ok text => columns := columns ++ [lines text]
          | .error e =>
              warn name (shown w ++ ": ".toList ++ reason e)
              status := 1
      if g.has "s" then emit (columns.flatMap join)
      else if status = 0 then
        let height := columns.foldl (fun n c => max n c.length) 0
        emit ((List.range height).flatMap fun i =>
          join (columns.map fun column => (column[i]?).getD []))
      answer status

def fieldsOf (separator? : Option Char) (line : List Char) : List (List Char) :=
  match separator? with
  | some c => line.splitOn c
  | none => ((line.map fun c => if isBlank c then ' ' else c).splitOn ' ').filter (! ·.isEmpty)

def joinOptions : Options :=
  .of "a:e:i1:2:j:o:t:v:z" [("ignore-case", "i"), ("header", "header"),
    ("check-order", "check"), ("nocheck-order", "nocheck")]

def join : Tool := fun _ name words =>
  withOptions name 1 joinOptions words fun g => do
    match g.operands with
    | [] => missingOperand name none
    | [w] => missingOperand name (some w)
    | a :: b :: rest =>
        if let w :: _ := rest then
          extraOperand name w
          return
        match ← readOperand a, ← readOperand b with
        | .error e, _ => refusePath name 1 a e
        | _, .error e => refusePath name 1 b e
        | .ok s, .ok t =>
            let separator? := (g.value? "t").bind List.head?
            let joint := separator?.getD ' '
            let field (side : String) : Nat :=
              numberOr 1 ((g.value? side).or (g.value? "j")) - 1
            let key (side : String) (fs : List (List Char)) : List Char :=
              let k := (fs[field side]?).getD []
              if g.has "i" then k.map Char.toLower else k
            let others (side : String) (fs : List (List Char)) : List (List Char) :=
              fs.eraseIdx (field side)
            let filler := (g.value? "e").getD []
            let layout := (g.values "o").flatMap fun w =>
              ((w.map fun c => if isBlank c then ',' else c).splitOn ',').filter (! ·.isEmpty)
            let row (k : List Char) (x y : List (List Char)) : List Char :=
              let cell (f : List Char) : List Char :=
                match f with
                | ['0'] => k
                | d :: '.' :: n =>
                    let fs := if d = '1' then x else y
                    let v := (fs[numberOr 1 (some n) - 1]?).getD []
                    if v.isEmpty then filler else v
                | _ => []
              let cells :=
                if layout.isEmpty then k :: others "1" x ++ others "2" y
                else layout.map cell
              List.intercalate [joint] cells ++ ['\n']
            let shows (side : String) : Bool :=
              (g.values "a").contains side.toList || (g.values "v").contains side.toList
            let onlyUnpaired := g.has "v"
            let xs := (lines s).map (fieldsOf separator?)
            let ys := (lines t).map (fieldsOf separator?)
            let rec merge : Nat -> List (List (List Char)) -> List (List (List Char)) -> List Char
              | 0, _, _ => []
              | fuel + 1, x :: xs, ys =>
                  let k := key "1" x
                  let before := ys.takeWhile fun y => compareText (key "2" y) k = .lt
                  let rest := ys.drop before.length
                  let same := rest.takeWhile fun y => key "2" y = k
                  let run := (x :: xs).takeWhile fun x => key "1" x = k
                  let left :=
                    if shows "2" then before.flatMap fun y => row (key "2" y) [] y else []
                  if same.isEmpty then
                    left ++ (if shows "1" then row k x [] else []) ++ merge fuel xs rest
                  else
                    let pairs :=
                      if onlyUnpaired then []
                      else run.flatMap fun x => same.flatMap fun y =>
                        row ((x[field "1"]?).getD []) x y
                    left ++ pairs ++
                      merge fuel ((x :: xs).drop run.length) (rest.drop same.length)
              | _, [], ys => if shows "2" then ys.flatMap fun y => row (key "2" y) [] y else []
            finish name 0 1 (merge (xs.length + 1) xs ys)

/-!
## Widths
-/

/-- A line broken so that no part is wider than allowed, at blanks where that is
asked for.  The fuel bounds the number of parts. -/
def foldLine (width : Nat) (atBlanks bytes : Bool) : Nat -> List Char -> List (List Char)
  | 0, cs => [cs]
  | fuel + 1, cs =>
      let rec fitting (column : Nat) : List Char -> Nat
        | [] => 0
        | c :: cs =>
            let next :=
              if bytes then column + 1
              else if c = '\t' then column + 8 - column % 8
              else if c = Char.ofNat 8 then column - 1
              else if c = '\r' then 0
              else column + 1
            if width < next then 0 else fitting next cs + 1
      let n := max 1 (fitting 0 cs)
      if cs.length ≤ n then [cs]
      else
        let n :=
          if atBlanks then
            let front := (cs.take n).reverse.dropWhile fun c => ! isBlank c
            if front.isEmpty then n else front.length
          else n
        cs.take n :: foldLine width atBlanks bytes fuel (cs.drop n)

def fold : Tool := fun _ name words =>
  let words := words.map fun w =>
    match w with
    | '-' :: d :: ds => if d.isDigit then '-' :: 'w' :: d :: ds else w
    | _ => w
  withOptions name 1 (.of "bsw:" [("bytes", "b"), ("spaces", "s"), ("width=", "w")]) words fun g =>
    let width := numberOr 80 (g.value? "w")
    if width = 0 then
      refuse name 1 ("invalid number of columns: ".toList ++ inQuotes ((g.value? "w").getD []))
    else
      forTexts name g.operands fun _ text =>
        emit ((pieces '\n' text).flatMap fun l =>
          let ended := l.getLast? = some '\n'
          let body := if ended then l.dropLast else l
          List.intercalate ['\n'] (foldLine width (g.has "s") (g.has "b") (body.length + 1) body) ++
            (if ended then ['\n'] else []))

def tabWidth (g : Given) : Nat := max 1 (numberOr 8 (g.value? "t"))

def expand : Tool := fun _ name words =>
  withOptions name 1 (.of "it:" [("initial", "i"), ("tabs=", "t")]) words fun g => do
    let width := tabWidth g
    let text ← textOf name g.operands
    let step (r : List Char × Nat × Bool) (c : Char) : List Char × Nat × Bool :=
      let (output, column, initial) := r
      if c = '\n' then (c :: output, 0, true)
      else if c = '\t' ∧ (initial || ! g.has "i") then
        let n := width - column % width
        (List.replicate n ' ' ++ output, column + n, initial)
      else (c :: output, column + 1, initial && c = ' ')
    emit (text.foldl step ([], 0, true)).1.reverse

/-- The blanks that end before a column, as tabs up to the stops between and blanks
after the last one. -/
def asTabs (width count column : Nat) : List Char :=
  let stops := column / width - (column - count) / width
  if stops = 0 ∨ (count = 1 ∧ stops = 1) then List.replicate count ' '
  else List.replicate stops '\t' ++ List.replicate (column % width) ' '

/-- Write texts with tabs in the place of blanks in front of lines, or of all
blanks. -/
def unexpand : Tool := fun _ name words =>
  withOptions name 1 (.of "at:" [("all", "a"), ("first-only", "first"), ("tabs=", "t")])
    words fun g => do
      let width := tabWidth g
      let whole := (g.has "a" || g.has "t") && ! g.has "first"
      let text ← textOf name g.operands
      let step (r : List Char × Nat × Nat × Bool) (c : Char) : List Char × Nat × Nat × Bool :=
        let (output, column, blanks, initial) := r
        let active := initial || whole
        if c = ' ' ∧ active then (output, column + 1, blanks + 1, initial)
        else if c = '\t' ∧ active then
          let next := column + width - column % width
          (output, next, blanks + (next - column), initial)
        else
          let output := (asTabs width blanks column).reverse ++ output
          if c = '\n' then (c :: output, 0, 0, true)
          else (c :: output, column + 1, 0, false)
      let (output, column, blanks, _) := text.foldl step ([], 0, 0, true)
      emit ((asTabs width blanks column).reverse ++ output).reverse

end Tool
end Shell
end TraceAdapter
