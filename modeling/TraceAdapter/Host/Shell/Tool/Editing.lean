import TraceAdapter.Host.Shell.Edit
import TraceAdapter.Host.Shell.Tool.Trees

/-!
# Editing lines

A script is run for each line of a text.  The line being edited and a text that is kept
beside it go from command to command; what is left of the line is written in the end.
-/

namespace TraceAdapter
namespace Shell
namespace Tool

open Edit

/-- A line with whether its end was there, the file that it is from and its number
there. -/
structure EditLine where
  text : List Char
  ended : Bool
  file : List Char
  isLast : Bool

inductive Trailer where
  | text (cs : List Char)
  | file (path : List Char)
  | nextLine (path : List Char)

structure Editor where
  script : Script
  quiet : Bool
  ending : Char
  extended : Bool
  line : EditLine := ⟨[], true, [], true⟩
  number : Nat := 0
  held : List Char := []
  left : List EditLine := []
  /-- The ranges that are open, by the places of their steps, with the line that they end
  at, if they end at a line; and those that are over. -/
  ranges : List (Nat × Option Nat) := []
  closed : List Nat := []
  last? : Option Regex := none
  exchanged : Bool := false
  trailers : List Trailer := []
  output : List (List Char) := []
  unended : Bool := false
  written : List (List Char × List Char) := []
  taken : List (List Char × Nat) := []
  quit? : Option Nat := none
  fault? : Option (List Char) := none
  patience : Nat := 100000

namespace Editor

def put (e : Editor) (cs : List Char) : Editor :=
  if cs.isEmpty then e
  else
    { e with
      output := cs :: (if e.unended then [[e.ending]] else []) ++ e.output
      unended := false }

/-- Write a text as a line, its end only if the line has one. -/
def putLine (e : Editor) (cs : List Char) (ended : Bool) : Editor :=
  if ended then e.put (cs ++ [e.ending])
  else { (e.put cs) with unended := true }

def putFile (e : Editor) (path cs : List Char) : Editor :=
  if path = "/dev/stdout".toList then e.put cs
  else { e with written := (path, cs) :: e.written }

def useRegex (e : Editor) (r? : Option Regex) : Option Regex × Editor :=
  match r?.or e.last? with
  | some r => (some r, { e with last? := some r })
  | none =>
      (none,
        { e with
          fault? := some "-e expression #1, char 0: no previous regular expression".toList })

def fits (e : Editor) : Address -> Bool × Editor
  | .line n => (e.number = n, e)
  | .last => (e.left.isEmpty, e)
  | .every first step =>
      (if step = 0 then e.number = first
        else first ≤ e.number && (e.number - first) % step = 0, e)
  | .regex r? =>
      match e.useRegex r? with
      | (some r, e) => (r.isIn e.line.text, e)
      | (none, e) => (false, e)

def chooses (e : Editor) (place : Nat) (step : Step) : Bool × Editor :=
  match step.first?, step.second? with
  | none, _ => (true, e)
  | some a, none => e.fits a
  | some a, some stop =>
      let close (e : Editor) : Editor :=
        { e with ranges := e.ranges.filter fun r => r.1 ≠ place }
      let isZero := a matches .line 0
      let open? : Option (Option Nat) :=
        match e.ranges.lookup place with
        | some stop? => some stop?
        | none => if isZero && ! e.closed.contains place then some none else none
      match open? with
      | some (some n) =>
          if e.number < n then (true, e) else (e.number = n, close e)
      | some none =>
          match stop with
          | .address b =>
              let (late, e) := e.fits b
              (true, if late then { close e with closed := place :: e.closed } else e)
          | _ => (true, e)
      | none =>
          let (starts, e) := e.fits a
          if ! starts then (false, e)
          else
            let until_ (n : Nat) : Bool × Editor :=
              if n ≤ e.number then (true, e)
              else (true, { e with ranges := (place, some n) :: e.ranges })
            match stop with
            | .after n => until_ (e.number + n)
            | .multiple n => until_ (if n = 0 then 0 else (e.number / n + 1) * n)
            | .address (.line n) => until_ n
            | .address .last =>
                if e.left.isEmpty then (true, e)
                else (true, { e with ranges := (place, none) :: e.ranges })
            | .address _ => (true, { e with ranges := (place, none) :: e.ranges })

/-!
## Exchanging
-/

structure Casing where
  all? : Option Bool := none
  next? : Option Bool := none

def cased (k : Casing) (cs : List Char) : List Char × Casing :=
  let shape (large? : Option Bool) (c : Char) : Char :=
    match large? with
    | some true => c.toUpper
    | some false => c.toLower
    | none => c
  match cs with
  | [] => ([], k)
  | c :: rest => (shape (k.next?.or k.all?) c :: rest.map (shape k.all?), { k with next? := none })

def replaced (parts : List Replacement) (m : Regex.Match) (t : Regex.Subject) : List Char :=
  let step (r : List Char × Casing) (p : Replacement) : List Char × Casing :=
    let add (cs : List Char) : List Char × Casing :=
      let (cs, k) := cased r.2 cs
      (r.1 ++ cs, k)
    match p with
    | .text cs => add cs
    | .group n => add ((m.group? t n).getD [])
    | .large => (r.1, { all? := some true })
    | .small => (r.1, { all? := some false })
    | .plain => (r.1, {})
    | .largeNext => (r.1, { r.2 with next? := some true })
    | .smallNext => (r.1, { r.2 with next? := some false })
  (parts.foldl step ([], {})).1

/-- A text after exchanges from a position on, and whether there were any.  `seen` counts
the matches before, and `touch` is where the last one ended.  The fuel bounds the
matches. -/
def exchangeFrom (x : Exchange) (r : Regex) (t : Regex.Subject) :
    Nat -> Nat -> Nat -> Option Nat -> List Char × Bool
  | 0, start, _, _ => (t.slice start t.chars.size, false)
  | fuel + 1, start, seen, touch? =>
      match r.search? t start with
      | none => (t.slice start t.chars.size, false)
      | some m =>
          let front := t.slice start m.start
          if m.start = m.stop ∧ touch? = some m.start then
            if m.start < t.chars.size then
              let (rest, did) := exchangeFrom x r t fuel (m.start + 1) seen none
              (t.slice start (m.start + 1) ++ rest, did)
            else (t.slice start t.chars.size, false)
          else
            let wanted := if x.all then x.number ≤ seen + 1 else x.number = seen + 1
            let own := if wanted then replaced x.replacement m t else t.slice m.start m.stop
            let onward (position : Nat) (touch? : Option Nat) : List Char × Bool :=
              if wanted ∧ ! x.all then (t.slice position t.chars.size, true)
              else
                let (rest, did) := exchangeFrom x r t fuel position (seen + 1) touch?
                (rest, did || wanted)
            if m.start = m.stop then
              if m.stop < t.chars.size then
                let (rest, did) := onward (m.stop + 1) none
                if wanted ∧ ! x.all then
                  (front ++ own ++ t.slice m.stop t.chars.size, true)
                else (front ++ own ++ t.slice m.stop (m.stop + 1) ++ rest, did)
              else (front ++ own, wanted)
            else
              let (rest, did) := onward m.stop (some m.stop)
              (front ++ own ++ rest, did)

/-!
## Commands
-/

/-- A line so that all of it can be seen, broken to a width. -/
def visibleLine (width : Nat) (cs : List Char) : List Char :=
  let piece (c : Char) : List Char :=
    let n := c.toNat
    match "\x07\x08\x0c\n\r\t\x0b".toList.findIdx? (· = c) with
    | some i => ['\\', (("abfnrtv".toList)[i]?).getD 'a']
    | none =>
        if c = '\\' then ['\\', '\\']
        else if n < 32 ∨ 126 < n then
          let ds := Nat.toDigits 8 n
          '\\' :: List.replicate (3 - ds.length) '0' ++ ds
        else [c]
  let step (r : List Char × Nat) (c : Char) : List Char × Nat :=
    let p := piece c
    if 0 < width ∧ width - 1 < r.2 + p.length then
      (p.reverse ++ '\n' :: '\\' :: r.1, p.length)
    else (p.reverse ++ r.1, r.2 + p.length)
  ((cs.foldl step ([], 0)).1.reverse) ++ ['$', '\n']

def textAt (files : Files) (path : List Char) : List Char :=
  match files.read (State.path path) with
  | .ok bytes => Bytes.toChars bytes
  | .error _ => []

def flush (files : Files) (e : Editor) : Editor :=
  let step (e : Editor) : Trailer -> Editor
    | .text cs => e.put cs
    | .file path =>
        let text := textAt files path
        if text.getLast? = some '\n' then e.put text
        else if text.isEmpty then e
        else e.put text
    | .nextLine path =>
        let n := (e.taken.lookup path).getD 0
        match (lines (textAt files path))[n]? with
        | some line =>
            { e with taken := (path, n + 1) :: e.taken.filter fun t => t.1 ≠ path }.put
              (line ++ ['\n'])
        | none => e
  { (e.trailers.foldl step e) with trailers := [] }

def finishLine (files : Files) (e : Editor) : Editor :=
  let e := if e.quiet then e else e.putLine e.line.text e.line.ended
  flush files e

/-- Take the next line, none when there is none. -/
def nextLine? (e : Editor) : Option Editor :=
  match e.left with
  | [] => none
  | l :: rest => some { e with line := l, left := rest, number := e.number + 1 }

inductive After where
  | go (place : Nat)
  | finished
  | dropped
  | again

def runCommand (files : Files) (e : Editor) (place : Nat) (step : Step) : Editor × After :=
  let on (e : Editor) : Editor × After := (e, .go (place + 1))
  let withText (e : Editor) (cs : List Char) : Editor :=
    { e with line := { e.line with text := cs } }
  let first := e.line.text.takeWhile (· ≠ e.ending)
  match step.command with
  | .block _ => on e
  | .nothing => on e
  | .number => on (e.put (digits e.number ++ ['\n']))
  | .append cs => on { e with trailers := e.trailers ++ [.text cs] }
  | .insert cs => on (e.put cs)
  | .change cs =>
      let open_ := (e.ranges.lookup place).isSome
      (if open_ ∧ step.second?.isSome ∧ ! step.negated then e else e.put cs, .dropped)
  | .jump label after? =>
      let target := if label.isEmpty then e.script.steps.size
        else (e.script.labels.lookup label).getD e.script.steps.size
      match after? with
      | none => (e, .go target)
      | some wanted =>
          let did := e.exchanged
          let e := { e with exchanged := false }
          if did = wanted then (e, .go target) else on e
  | .delete => (e, .dropped)
  | .deleteFirst =>
      if e.line.text.contains '\n' then
        (withText e ((e.line.text.dropWhile (· ≠ '\n')).drop 1), .again)
      else (e, .dropped)
  | .get false => on (withText e e.held)
  | .get true => on (withText e (e.line.text ++ '\n' :: e.held))
  | .hold false => on { e with held := e.line.text }
  | .hold true => on { e with held := e.held ++ '\n' :: e.line.text }
  | .exchangeHold => on { (withText e e.held) with held := e.line.text }
  | .list width? => on (e.put (visibleLine (width?.getD 70) e.line.text))
  | .next =>
      match e.left with
      | [] => ({ e with quit? := some 0 }, .finished)
      | _ =>
          let e := finishLine files e
          on ((e.nextLine?).getD e)
  | .nextAppended =>
      match e.left with
      | [] => ({ e with quit? := some 0 }, .finished)
      | _ =>
          let before := e.line.text
          let e := flush files e
          let e := (e.nextLine?).getD e
          on (withText e (before ++ '\n' :: e.line.text))
  | .print => on (e.putLine e.line.text e.line.ended)
  | .printFirst => on (e.put (first.takeWhile (· ≠ '\n') ++ ['\n']))
  | .quit prints status =>
      ({ e with quit? := some status }, if prints then .finished else .dropped)
  | .readFile path => on { e with trailers := e.trailers ++ [.file path] }
  | .readLine path => on { e with trailers := e.trailers ++ [.nextLine path] }
  | .write path => on (e.putFile path (e.line.text ++ (if e.line.ended then ['\n'] else [])))
  | .writeFirst path => on (e.putFile path (e.line.text.takeWhile (· ≠ '\n') ++ ['\n']))
  | .exchange x =>
      match e.useRegex x.regex? with
      | (none, e) => on e
      | (some r, e) =>
          let t : Regex.Subject := { chars := e.line.text.toArray }
          let (text, did) := exchangeFrom x r t (t.chars.size + 2) 0 0 none
          if ! did then on e
          else
            let e := { (withText e text) with exchanged := true }
            let e := if x.prints then e.putLine text e.line.ended else e
            on ((x.path?.map fun path => e.putFile path (text ++ ['\n'])).getD e)
  | .translate pairs => on (withText e (e.line.text.map fun c => (pairs.lookup c).getD c))
  | .zap => on (withText e [])
  | .name => on (e.put (e.line.file ++ ['\n']))

/-- Run the script from a place on for the line.  The fuel bounds the commands. -/
def runScript (files : Files) : Nat -> Editor -> Nat -> Editor × After
  | 0, e, _ => (e, .finished)
  | fuel + 1, e, place =>
      if e.fault?.isSome then (e, .dropped)
      else
        match e.script.steps[place]? with
        | none => (e, .finished)
        | some step =>
            let (chosen, e) := e.chooses place step
            let chosen := chosen != step.negated
            match step.command, chosen with
            | .block stop, false => runScript files fuel e stop
            | _, false => runScript files fuel e (place + 1)
            | _, true =>
                match runCommand files e place step with
                | (e, .go next) => if e.quit?.isSome then (e, .finished)
                    else runScript files fuel e next
                | other => other

def commandLimit : Nat := 1000000

/-- Edit all lines.  The fuel bounds the rounds, and `again` says that what is left of
the line before is edited. -/
def runLines (files : Files) : Nat -> Bool -> Editor -> Editor
  | 0, _, e => e
  | fuel + 1, again, e =>
      match if again then some e else e.nextLine? with
      | none => e
      | some e =>
          let (e, after) := runScript files commandLimit { e with exchanged := false } 0
          if e.fault?.isSome then e
          else
            let (e, again) :=
              match after with
              | .dropped => (flush files e, false)
              | .again => (flush files e, true)
              | _ => (finishLine files e, false)
            if e.quit?.isSome then e else runLines files fuel again e

end Editor

/-!
## The tool
-/

def sedOptions : Options :=
  .of "bsnrzuEe:f:l:i::V:s"
    [("quiet", "n"), ("silent", "n"), ("expression=", "e"), ("file=", "f"),
      ("in-place=?", "i"), ("line-length=", "l"), ("regexp-extended", "r"),
      ("separate", "s"), ("unbuffered", "u"), ("null-data", "z"), ("posix", "p"),
      ("zero-terminated", "z"), ("debug", "debug"), ("sandbox", "sandbox"),
      ("follow-symlinks", "follow")]

def editLines (ending : Char) (file text : List Char) : List EditLine :=
  let ps := pieces ending text
  ps.zipIdx.map fun (p, i) =>
    let ended := p.getLast? = some ending
    { text := if ended then p.dropLast else p, ended, file, isLast := i + 1 = ps.length }

def storeWritten (e : Editor) (paths : List (List Char)) : Action Unit := do
  for path in paths do
    let text := ((e.written.reverse.filter fun w => w.1 = path).map Prod.snd).flatten
    if path = "/dev/stderr".toList then modify fun s => s.write 2 text
    else
      let _ ← store path text false

def writtenPaths (s : Script) : List (List Char) :=
  (s.steps.toList.filterMap fun step =>
    match step.command with
    | .write path => some path
    | .writeFirst path => some path
    | .exchange x => x.path?
    | _ => none).eraseDups.filter (· ≠ "/dev/stdout".toList)

def refuseSed (name text : List Char) : Action Unit := do
  if ! text.isEmpty then warn name text
  modify fun s =>
    s.write 2 ("Usage: ".toList ++ name ++
      " [OPTION]... \x7bscript-only-if-no-other-script\x7d [input-file]...\n".toList)
  answer 1

def editText (g : Given) : Action (Except (List Char) (List Char × List (List Char))) := do
  if ! g.has "e" ∧ ! g.has "f" then
    return .ok (g.operands.headD [], g.operands.tail)
  let mut parts : List (List Char) := []
  for (option, value?) in g.options do
    let value := value?.getD []
    if option = "e" then parts := parts ++ [value]
    else if option = "f" then
      match ← readOperand value with
      | .ok text =>
          parts := parts ++ [if text.getLast? = some '\n' then text.dropLast else text]
      | .error e =>
          return .error ("couldn't open file ".toList ++ value ++ ": ".toList ++ reason e)
  return .ok (List.intercalate ['\n'] parts, g.operands)

def sed : Tool := fun _ name words => do
  match sedOptions.read (words.foldl (fun n w => n + w.length + 1) 1) words with
  | .error text => refuseSed name text
  | .ok g =>
      if ! g.has "e" ∧ ! g.has "f" ∧ g.operands.isEmpty then
        if g.has "help" || g.has "version" then finish name 0 4 (name ++ " 4.9\n".toList)
        else refuseSed name []
      else
        match ← editText g with
        | .error text => refuse name 1 text
        | .ok (text, operands) =>
            let extended := g.has "r" || g.has "E"
            let quietMark := text.take 3 = ['#', 'n', '\n'] || text = ['#', 'n']
            match Script.ofText { extended } text with
            | .error fault =>
                refuse name (if fault.head? = some 'c' then 4 else 1) fault
            | .ok script =>
                let ending := if g.has "z" then Char.ofNat 0 else '\n'
                let editor : Editor :=
                  { script, quiet := g.has "n" || quietMark, ending, extended }
                let stops := script.steps.any fun step => step.command matches .quit _ _
                let paths := writtenPaths script
                let mut status := 0
                let mut inputs : List (List EditLine) := []
                if g.has "i" ∧ operands.isEmpty then
                  refuse name 1 "no input files".toList
                  return
                for w in if operands.isEmpty then [['-']] else operands do
                  if w = ['-'] ∧ ! g.has "i" then
                    let given ←
                      if stops then modifyGet fun s => s.readWith 0 fun cs => (cs, some [])
                      else readInput
                    inputs := inputs ++ [editLines ending ['-'] given]
                  else
                    match ← readPath w with
                    | .ok text => inputs := inputs ++ [editLines ending w text]
                    | .error .isADirectory =>
                        if g.has "i" then
                          warn name ("couldn't edit ".toList ++ w ++ ": not a regular file".toList)
                          status := 4
                        else
                          warn name ("read error on ".toList ++ w ++ ": Is a directory".toList)
                          status := 4
                    | .error e =>
                        warn name ("can't read ".toList ++ w ++ ": ".toList ++ reason e)
                        status := 2
                let separate := g.has "s" || g.has "i"
                let batches := if separate then inputs else [inputs.flatten]
                let mut e := editor
                for batch in batches do
                  if e.quit?.isNone ∧ e.fault?.isNone then
                    let files := (← get).files
                    let fuel := 4 * batch.length + 100000
                    e := Editor.runLines files fuel false
                      { e with left := batch, output := [], unended := false
                               number := if g.has "i" || g.has "s" then 0 else e.number
                               ranges := if separate then [] else e.ranges }
                    let text := e.output.reverse.flatten
                    let rest :=
                      if e.quit?.isSome ∧ g.has "i" then
                        e.left.flatMap fun l => l.text ++ (if l.ended then [ending] else [])
                      else []
                    match g.has "i", batch with
                    | true, l :: _ =>
                        match g.value? "i" with
                        | some back =>
                            let kept := batch.flatMap fun l =>
                              l.text ++ (if l.ended then [ending] else [])
                            let backup := if back.contains '*' then
                              back.flatMap fun c => if c = '*' then lastPart l.file else [c]
                              else l.file ++ back
                            let _ ← store backup kept false
                        | none => pure ()
                        let _ ← store l.file (text ++ rest) false
                    | true, [] => pure ()
                    | false, _ => emit text
                storeWritten e paths
                match e.fault? with
                | some fault => refuse name 1 fault
                | none => answer ((e.quit?.filter (· ≠ 0)).getD status)

end Tool
end Shell
end TraceAdapter
