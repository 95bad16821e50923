import TraceAdapter.Host.Shell.Format
import TraceAdapter.Host.Shell.Tool.Basic

/-!
# Tools on whole texts

Texts are joined, numbered, turned round, counted, copied to files and cut at
their start and their end.
-/

namespace TraceAdapter
namespace Shell
namespace Tool

def padLeft (width : Nat) (cs : List Char) : List Char :=
  List.replicate (width - cs.length) ' ' ++ cs

def padRight (width : Nat) (cs : List Char) : List Char :=
  cs ++ List.replicate (width - cs.length) ' '

/-!
## Joining
-/

def visible (c : Char) : List Char :=
  let n := c.toNat
  let low (n : Nat) : List Char :=
    if n < 32 then ['^', Char.ofNat (n + 64)]
    else if n = 127 then ['^', '?']
    else [Char.ofNat n]
  if n < 128 then low n else "M-".toList ++ low (n - 128)

structure Display where
  numbers : Bool
  skipsEmpty : Bool
  squeezes : Bool
  ends : Bool
  tabs : Bool
  marks : Bool

/-- What has been shown so far: the number of the last line, whether the next
character starts a line, and how many empty lines have been seen. -/
structure Showing where
  number : Nat := 0
  fresh : Bool := true
  empties : Nat := 0
  output : List (List Char) := []

def Display.show (d : Display) (v : Showing) (piece : List Char) : Showing :=
  let isEmpty := piece = ['\n'] && v.fresh
  let empties := if isEmpty then v.empties + 1 else 0
  if d.squeezes ∧ 1 < empties then { v with empties }
  else
    let counted := d.numbers && v.fresh && ! (d.skipsEmpty && isEmpty)
    let number := if counted then v.number + 1 else v.number
    let front := if counted then padLeft 6 (digits number) ++ ['\t'] else []
    let shown := piece.flatMap fun c =>
      if c = '\n' then (if d.ends then ['$', '\n'] else ['\n'])
      else if c = '\t' then (if d.tabs then ['^', 'I'] else ['\t'])
      else if d.marks then visible c
      else [c]
    { number, fresh := piece.getLast? = some '\n', empties
      output := (front ++ shown) :: v.output }

def catOptions : Options :=
  .of "benstuvAET"
    [("show-all", "A"), ("number-nonblank", "b"), ("show-ends", "E"), ("number", "n"),
      ("squeeze-blank", "s"), ("show-tabs", "T"), ("show-nonprinting", "v")]

def cat : Tool := fun _ name words =>
  withOptions name 1 catOptions words fun g => do
    let has (names : List String) : Bool := (g.last? names).isSome
    let d : Display :=
      { numbers := has ["n", "b"], skipsEmpty := has ["b"], squeezes := has ["s"]
        ends := has ["E", "A", "e"], tabs := has ["T", "A", "t"]
        marks := has ["v", "A", "e", "t"] }
    if ((← get).handle? 1).isNone then
      refuse name 1 ("standard output: ".toList ++ reason .badDescriptor)
      return
    let target? := (← get).handle? 1
    let mut v : Showing := {}
    let mut status := 0
    for w in if g.operands.isEmpty then [['-']] else g.operands do
      let s ← get
      let number? := (s.files.find (State.path w)).toOption.bind s.files.number?
      let isOutput :=
        number?.any fun n => target?.any (fun h => h.target = .file n) && ! (s.bytesOf n).isEmpty
      if w ≠ ['-'] ∧ isOutput then
        warn name (shown w ++ ": input file is output file".toList)
        status := 1
      else
        match ← readOperand w with
        | .error e =>
            warn name (shown w ++ ": ".toList ++ reason e)
            status := 1
        | .ok text =>
            if g.options.isEmpty then emit text
            else
              v := (pieces '\n' text).foldl d.show v
              emit v.output.reverse.flatten
              v := { v with output := [] }
            if ! text.isEmpty ∧ status = 0 then
              if let some e := (← get).writeFault? 1 then
                warn name ("write error: ".toList ++ reason e)
                status := 1
    answer status

def tac : Tool := fun _ name words =>
  withOptions name 1 (.of "brs:" [("before", "b"), ("regex", "r"), ("separator=", "s")])
    words fun g =>
    let reversed (text : List Char) : List Char :=
      match g.value? "s" with
      | some (c :: []) =>
          if g.has "b" then
            let (first, rest) := text.span (· ≠ c)
            let parts := (rest.splitOn c).drop 1
            parts.reverse.flatMap (c :: ·) ++ first
          else (pieces c text).reverse.flatten
      | _ => (pieces '\n' text).reverse.flatten
    forTexts name g.operands fun _ text => emit (reversed text)

def rev : Tool := fun _ name words =>
  withOptions name 1 (.of "" []) words fun g =>
    forTexts name g.operands fun _ text =>
      emit ((pieces '\n' text).flatMap fun line =>
        if line.getLast? = some '\n' then line.dropLast.reverse ++ ['\n'] else line.reverse)

def numberOr (usual : Nat) (w? : Option (List Char)) : Nat :=
  (w?.bind natural?).getD usual

def nl : Tool := fun _ name words =>
  withOptions name 1
    (.of "b:d:f:h:i:l:n:ps:v:w:"
      [("body-numbering=", "b"), ("line-increment=", "i"), ("number-format=", "n"),
        ("number-separator=", "s"), ("starting-line-number=", "v"),
        ("number-width=", "w")])
    words fun g => do
      let width := numberOr 6 (g.value? "w")
      let separator := (g.value? "s").getD ['\t']
      let step := numberOr 1 (g.value? "i")
      let style := (g.value? "b").getD ['t']
      let text ← textOf name g.operands
      let line (r : Nat × List (List Char)) (l : List Char) : Nat × List (List Char) :=
        let counted := style = ['a'] || (style = ['t'] && ! l.isEmpty)
        if counted then
          let ds := digits r.1
          let shown :=
            match (g.value? "n").map String.ofList with
            | some "ln" => padRight width ds
            | some "rz" => List.replicate (width - ds.length) '0' ++ ds
            | _ => padLeft width ds
          (r.1 + step, (shown ++ separator ++ l ++ ['\n']) :: r.2)
        else
          (r.1, (List.replicate (width + separator.length) ' ' ++ l ++ ['\n']) :: r.2)
      emit ((lines text).foldl line (numberOr 1 (g.value? "v"), [])).2.reverse.flatten

/-!
## Starts and ends
-/

def factors : List (String × Nat) :=
  [("", 1), ("b", 512), ("kB", 1000), ("k", 1024), ("K", 1024), ("KiB", 1024),
    ("MB", 1000000), ("m", 1048576), ("M", 1048576), ("MiB", 1048576),
    ("GB", 1000000000), ("G", 1073741824), ("GiB", 1073741824), ("c", 1), ("w", 2)]

def sized? (w : List Char) : Option Nat :=
  let (ds, rest) := w.span Char.isDigit
  match natural? ds, factors.lookup (String.ofList rest) with
  | some n, some f => some (n * f)
  | _, _ => none

/-- An amount of lines or bytes: the sign before it, and whether bytes are
meant. -/
structure Amount where
  count : Nat
  sign? : Option Char
  bytes : Bool
  ending : Char

def Amount.ofWord? (bytes : Bool) (ending : Char) (w : List Char) : Option Amount :=
  let (sign?, rest) : Option Char × List Char :=
    match w with
    | '-' :: rest => (some '-', rest)
    | '+' :: rest => (some '+', rest)
    | _ => (none, w)
  (sized? rest).map fun count => { count, sign?, bytes, ending }

/-- How many characters stand before a number of line ends or bytes, none when
there are fewer. -/
def Amount.spanned? (a : Amount) (cs : List Char) : Option Nat :=
  let rec go (left seen : Nat) : List Char -> Option Nat
    | [] => if left = 0 then some seen else none
    | c :: cs =>
        if left = 0 then some seen
        else go (if a.bytes || c = a.ending then left - 1 else left) (seen + 1) cs
  go a.count 0 cs

def Amount.total (a : Amount) (cs : List Char) : Nat :=
  if a.bytes then cs.length else (pieces a.ending cs).length

def Amount.start (a : Amount) (cs : List Char) : List Char :=
  let count := if a.sign? = some '-' then a.total cs - a.count else a.count
  cs.take (({ a with count }.spanned? cs).getD cs.length)

def Amount.rest (a : Amount) (cs : List Char) : List Char :=
  let count := if a.sign? = some '+' then a.count - 1 else a.total cs - a.count
  cs.drop (({ a with count }.spanned? cs).getD cs.length)

def blockSize : Nat := 8192

/-- Read the start of the standard input.  Of a text that cannot be gone back in,
whole blocks are read. -/
def readStart (a : Amount) : Action (List Char) := do
  let s ← get
  let inBlocks : Bool := ! a.bytes && (s.handle? 0).any fun h => h.target = .text
  modifyGet fun s => s.readWith 0 fun cs =>
    match a.spanned? cs with
    | some n =>
        let used := if inBlocks then (n + blockSize - 1) / blockSize * blockSize else n
        (cs.take n, some (cs.drop used))
    | none => (cs, none)

def modernAmount (words : List (List Char)) : List (List Char) :=
  match words with
  | ('-' :: d :: ds) :: rest =>
      if d.isDigit then
        let (n, letters) := (d :: ds).span Char.isDigit
        if letters.contains 'c' then ['-', 'c'] :: n :: rest
        else ['-', 'n'] :: n :: (if letters.contains 'q' then ['-', 'q'] :: rest else rest)
      else words
  | _ => words

def amountOptions : Options :=
  .of "c:fn:qvzF"
    [("bytes=", "c"), ("lines=", "n"), ("quiet", "q"), ("silent", "q"), ("verbose", "v"),
      ("zero-terminated", "z"), ("follow=?", "f"), ("retry", "F")]

def parts (name : List Char) (words : List (List Char))
    (standard : Amount -> Action (List Char)) (part : Amount -> List Char -> List Char) :
    Action Unit :=
  withOptions name 1 amountOptions (modernAmount words) fun g => do
    let bytes := g.last? ["c", "n"] = some "c"
    let given := ((g.value? (if bytes then "c" else "n"))).getD ['1', '0']
    match Amount.ofWord? bytes (if g.has "z" then Char.ofNat 0 else '\n') given with
    | none =>
        let what := if bytes then "bytes" else "lines"
        let bare := if given.head? = some '-' ∨ given.head? = some '+' then given.tail else given
        refuse name 1
          (("invalid number of " ++ what ++ ": ").toList ++ inQuotes bare)
    | some a =>
        let operands := if g.operands.isEmpty then [['-']] else g.operands
        let headed :=
          match g.last? ["q", "v"] with
          | some "q" => false
          | some _ => true
          | none => 1 < operands.length
        let mut status := 0
        let mut first := true
        for w in operands do
          let heading : List Char :=
            if headed then
              (if first then [] else ['\n']) ++ "==> ".toList ++
                (if w = ['-'] then "standard input".toList else w) ++ " <==\n".toList
            else []
          if w = ['-'] then
            emit heading
            emit (← standard a)
            first := false
          else
            match ← readPath w with
            | .ok text =>
                emit heading
                emit (part a text)
                first := false
            | .error .isADirectory =>
                emit heading
                warn name ("error reading ".toList ++ inQuotes w ++ ": Is a directory".toList)
                first := false
                status := 1
            | .error e =>
                warn name
                  ("cannot open ".toList ++ inQuotes w ++ " for reading: ".toList ++ reason e)
                status := 1
        answer status

def head : Tool := fun _ name words =>
  parts name words
    (fun a => do if a.sign? = some '-' then return a.start (← readInput) else readStart a)
    fun a text => a.start text

def tail : Tool := fun _ name words =>
  parts name words (fun a => do return a.rest (← readInput)) fun a text => a.rest text

/-!
## Counting
-/

structure Counts where
  lines : Nat := 0
  words : Nat := 0
  bytes : Nat := 0
  longest : Nat := 0

def Counts.ofText (cs : List Char) : Counts :=
  let step (r : Counts × Bool × Nat) (c : Char) : Counts × Bool × Nat :=
    let (n, inside, column) := r
    let n := { n with bytes := n.bytes + 1 }
    if c = '\n' ∨ c = '\r' ∨ c = Char.ofNat 12 then
      ({ n with lines := if c = '\n' then n.lines + 1 else n.lines
                longest := max n.longest column }, false, 0)
    else if c = '\t' then (n, false, column + 8 - column % 8)
    else if c = ' ' then (n, false, column + 1)
    else if c = Char.ofNat 11 then (n, false, column)
    else if c.toNat < 32 ∨ 126 < c.toNat then (n, inside, column)
    else ({ n with words := if inside then n.words else n.words + 1 }, true, column + 1)
  let (n, _, column) := cs.foldl step ({}, false, 0)
  { n with longest := max n.longest column }

def Counts.add (a b : Counts) : Counts where
  lines := a.lines + b.lines
  words := a.words + b.words
  bytes := a.bytes + b.bytes
  longest := max a.longest b.longest

def wcOptions : Options :=
  .of "clLmw"
    [("bytes", "c"), ("chars", "m"), ("lines", "l"), ("words", "w"),
      ("max-line-length", "L"), ("total=", "total"), ("files0-from=", "files0-from")]

def wc : Tool := fun _ name words =>
  withOptions name 1 wcOptions words fun g => do
    let asked := ["l", "w", "m", "c", "L"].filter g.has
    let shownCounts := if asked.isEmpty then ["l", "w", "c"] else asked
    let operands := if g.operands.isEmpty then [['-']] else g.operands
    let s ← get
    let sizeOf (w : List Char) : Option Nat :=
      if w = ['-'] then
        match (s.handle? 0).map Handle.target with
        | some (.file n) => some (s.bytesOf n).length
        | _ => none
      else
        match s.files.lookup (State.path w) with
        | .ok node => if node.isFile then some node.bytes.length else none
        | .error _ => some 0
    let sizes := operands.map sizeOf
    let total := sizes.foldl (fun n size => n + size.getD 0) 0
    let width :=
      if operands.length = 1 ∧ shownCounts.length = 1 then 1
      else max (digits total).length (if sizes.contains none then 7 else 1)
    let row (n : Counts) (label : List Char) : List Char :=
      let cell (option : String) : List Char :=
        padLeft width
          (digits
            (match option with
            | "l" => n.lines
            | "w" => n.words
            | "L" => n.longest
            | _ => n.bytes))
      List.intercalate [' '] (shownCounts.map cell) ++
        (if label.isEmpty then [] else ' ' :: label) ++ ['\n']
    let mut sum : Counts := {}
    let mut status := 0
    for w in operands do
      match ← readOperand w with
      | .ok text =>
          let n := Counts.ofText text
          sum := sum.add n
          emit (row n (if g.operands.isEmpty then [] else w))
      | .error e =>
          warn name (shown w ++ ": ".toList ++ reason e)
          if e = .isADirectory then emit (row {} w)
          status := 1
    if 1 < operands.length then emit (row sum "total".toList)
    answer status

def tee : Tool := fun _ name words =>
  withOptions name 1 (.of "aip" [("append", "a"), ("ignore-interrupts", "i")]) words fun g => do
    let text ← readInput
    let mut status := 0
    emit text
    for w in g.operands do
      if w = ['-'] then emit text
      else
        match ← store w text (g.has "a") with
        | none => pure ()
        | some e =>
            warn name (shown w ++ ": ".toList ++ reason e)
            status := 1
    answer status

end Tool
end Shell
end TraceAdapter
